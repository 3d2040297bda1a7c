import SharedSheet.Proofs.Formula.Lexing

/-!
# Nothing is lost between tokens

The tokens of a text are pieces of it, and what is left between them is white space. `Cuts` says
this of a text and a row of tokens in one recursion: some white space, then a token that stands just
there, then the rest. It holds of every text since a token has no white space in it, whatever kind
it is. What can be said of the single tokens, of two of them and of all together follows from
`Cuts`.

That there is a token at each place that is not blank is how `lead` is written: what no pattern
takes is a text. Here the patterns are tried one by one, that of a text too, and a place where none
of them fits is an error (`tokenize`). No text has such a place.

## Main definitions

* `Token.Cuts` — a text cut into tokens with white space between them
* `Token.lead?`, `Token.tokenize` — the tokens of a text as far as the patterns fit

## Main results

* `Token.tokenize_eq` — the patterns always fit
* `Token.cuts_scan` — a text is cut into its tokens
* `Token.tokenize_lossless` — the tokens of a text are its text without the white space
-/

namespace SharedSheet.Formula.Token

variable {signed : Bool} {c : Char} {cs rest : List Char} {kind : Kind} {n offset : Nat}
  {t : Token} {ts : List Token}

/-! ### Bytes -/

@[simp] theorem byteCount_nil : byteCount [] = 0 := rfl

@[simp] theorem byteCount_cons (c : Char) (cs : List Char) :
    byteCount (c :: cs) = c.utf8Size + byteCount cs := rfl

@[simp] theorem byteCount_append (cs ds : List Char) :
    byteCount (cs ++ ds) = byteCount cs + byteCount ds := by
  induction cs with
  | nil => simp
  | cons c cs ih => simp [ih, Nat.add_assoc]

/-- The bytes of a text are those of its characters. -/
theorem byteCount_toList (s : String) : byteCount s.toList = s.utf8ByteSize := by
  have hlist : ∀ cs : List Char, byteCount cs = (String.ofList cs).utf8ByteSize := by
    intro cs
    induction cs with
    | nil => rfl
    | cons c cs ih =>
      rw [byteCount_cons, String.ofList_cons, String.utf8ByteSize_append,
        String.utf8ByteSize_singleton, ih]
  rw [hlist, String.ofList_toList]

/-! ### Patterns -/

/-- The kind and length of the token that starts with `c`, as far as a pattern fits. A text, too,
has to start with a character that may stand in one. -/
def lead? (signed : Bool) (c : Char) (cs : List Char) : Option (Kind × Nat) :=
  (special? signed c cs).or
    (if isTextChar c then some (.text, (cs.takeWhile isTextChar).length) else none)

/-- A place of a text where no pattern fits. -/
structure LexError where
  /-- The number of bytes before the place. -/
  index : Nat
  /-- The text. -/
  input : String

/-- The tokens of a part of a text, if the patterns fit. -/
def scan? (input : String) (offset : Nat) (signed : Bool) (cs : List Char) :
    Except LexError (List Token) :=
  match cs with
  | [] => .ok []
  | c :: cs =>
    if Text.isBlank c then scan? input (offset + c.utf8Size) signed cs
    else
      match lead? signed c cs with
      | none => .error ⟨offset, input⟩
      | some (kind, more) =>
        match scan? input (offset + byteCount (c :: cs.take more)) (!kind.endsOperand)
            (cs.drop more) with
        | .error e => .error e
        | .ok ts => .ok (⟨kind, String.ofList (c :: cs.take more), offset⟩ :: ts)
termination_by cs.length

/-- The tokens of a text, if the patterns fit. -/
def tokenize (s : String) : Except LexError (List Token) := scan? s 0 true s.toList

/-- A pattern fits wherever there is no white space. -/
theorem lead?_eq (hblank : Text.isBlank c = false) :
    lead? signed c cs = some (lead signed c cs) := by
  rw [lead?, lead_eq]
  cases hspecial : special? signed c cs with
  | some found => rfl
  | none => simp [isTextChar_of_special? hblank hspecial]

theorem scan?_eq (input : String) (offset : Nat) (signed : Bool) (cs : List Char) :
    scan? input offset signed cs = .ok (scan offset signed cs) := by
  fun_induction scan offset signed cs with
  | case1 => rw [scan?]
  | case2 offset signed c cs hblank ih => rw [scan?, if_pos hblank, ih]
  | case3 offset signed c cs hblank kind n hlead text ih =>
    rw [scan?, if_neg hblank, lead?_eq (by simpa using hblank), hlead]
    simp only [ih, text]

/-- **The patterns always fit.** -/
theorem tokenize_eq (s : String) : tokenize s = .ok (ofString s) := scan?_eq s 0 true s.toList

/-! ### Tokens have no white space -/

theorem mem_splitUnsigned (h : c ∈ (Decimal.splitUnsigned cs).1) : c.isDigit = true ∨ c = '.' := by
  have hdigit : ∀ {ds : List Char}, c ∈ ds.takeWhile Char.isDigit → c.isDigit = true :=
    fun {ds} hc => List.mem_takeWhile_imp hc
  simp only [Decimal.splitUnsigned] at h
  split at h
  · simp at h
  · split at h
    · exact .inl (hdigit h)
    · rcases List.mem_append.1 h with h | h
      · exact .inl (hdigit h)
      · rcases List.mem_cons.1 h with rfl | h
        · exact .inr rfl
        · exact .inl (hdigit h)
  · exact .inl (hdigit h)

theorem mem_split {d : Char} (h : d ∈ (Decimal.split signed (c :: cs)).1) :
    d.isDigit = true ∨ d = '.' ∨ Decimal.isSign d = true := by
  rw [split_fst] at h
  split at h
  · rename_i hsign
    split at h
    · simp at h
    · rcases List.mem_cons.1 h with rfl | h
      · exact .inr (.inr (Bool.and_eq_true_iff.1 hsign).2)
      · exact (mem_splitUnsigned h).imp_right .inl
  · exact (mem_splitUnsigned h).imp_right .inl

theorem isBlank_of_goesOn (h : goesOn c = true) : Text.isBlank c = false :=
  isBlank_of_isTextChar (isTextChar_of_goesOn h)

theorem isBlank_of_isDigit (h : c.isDigit = true) : Text.isBlank c = false :=
  isBlank_of_goesOn (by simp [goesOn, Char.isAlphanum, h])

theorem isBlank_of_isSign (h : Decimal.isSign c = true) : Text.isBlank c = false := by
  simp only [Decimal.isSign, Bool.or_eq_true, beq_iff_eq] at h
  rcases h with rfl | rfl <;> decide

theorem isBlank_of_isLetter (h : Column.isLetter c = true) : Text.isBlank c = false := by
  refine isBlank_of_goesOn ?_
  have hupper : c.isUpper = true := by
    simpa [Char.isUpper, Column.isLetter, Char.le_def] using h
  simp [goesOn, Char.isAlphanum, Char.isAlpha, hupper]

theorem isBlank_of_mem_name {f : Function} (h : c ∈ f.name.toList) : Text.isBlank c = false := by
  have halnum : f.name.toList.all Char.isAlphanum = true := by cases f <;> rfl
  exact isBlank_of_goesOn (by simp [goesOn, List.all_eq_true.1 halnum c h])

/-- There is no white space in a reference. -/
theorem isBlank_of_mem_take {n : Nat} (h : referenceLength? cs = some n) {d : Char}
    (hd : d ∈ cs.take n) : Text.isBlank d = false := by
  obtain ⟨letters, digits, rest, rfl, rfl, ⟨-, hletters⟩, -, hdigits⟩ :=
    exists_of_referenceLength? h
  rw [List.take_left, List.mem_cons, List.mem_append] at hd
  rcases hd with rfl | hd | hd
  · decide
  · exact isBlank_of_isLetter (hletters d hd)
  · exact isBlank_of_isDigit (hdigits d hd)

/-- There is no white space in a token. -/
theorem Special.isBlank (h : Special signed c cs kind n) {d : Char} (hd : d ∈ cs.take n) :
    Text.isBlank d = false := by
  cases h with
  | function hlength =>
    obtain ⟨f, rfl, tail, rfl⟩ := exists_name_of_functionLength? hlength
    rw [List.take_left] at hd
    exact isBlank_of_mem_name hd
  | number hlength =>
    have htake := List.prefix_iff_eq_take.1 (split_isPrefix signed (c :: cs))
    rw [hlength, List.take_succ_cons] at htake
    rcases mem_split (htake ▸ List.mem_cons_of_mem c hd) with h | rfl | h
    · exact isBlank_of_isDigit h
    · decide
    · exact isBlank_of_isSign h
  | operator | leftParen | rightParen | comma => simp at hd
  | @reference c cs length hlength =>
    obtain ⟨m, rfl⟩ := Nat.exists_eq_succ_of_ne_zero (referenceLength?_le hlength).1.ne'
    exact isBlank_of_mem_take hlength (List.mem_cons_of_mem c hd)
  | @range c cs rest length length' hlength hrest hlength' =>
    have htake : (c :: cs).take (length + (length' + 1)) =
        (c :: cs).take length ++ ':' :: rest.take length' := by
      rw [List.take_add, hrest, List.take_succ_cons]
    have hd : d ∈ (c :: cs).take (length + (length' + 1)) := List.mem_cons_of_mem c hd
    rw [htake, List.mem_append, List.mem_cons] at hd
    rcases hd with hd | rfl | hd
    · exact isBlank_of_mem_take hlength hd
    · decide
    · exact isBlank_of_mem_take hlength' hd

theorem isBlank_of_lead (h : lead signed c cs = (kind, n)) {d : Char} (hd : d ∈ cs.take n) :
    Text.isBlank d = false := by
  rcases lead_cases h with h | ⟨-, -, rfl⟩
  · exact (special_of_special? h).isBlank hd
  · rw [← List.prefix_iff_eq_take.1 (List.takeWhile_prefix _)] at hd
    exact isBlank_of_isTextChar (List.mem_takeWhile_imp hd)

/-! ### A text cut into tokens -/

/-- A text that stands after `offset` bytes, cut into tokens with white space between them. -/
inductive Cuts : Nat → List Char → List Token → Prop
  | done {offset : Nat} {cs : List Char} : (∀ c ∈ cs, Text.isBlank c = true) → Cuts offset cs []
  | token {offset : Nat} {gap rest : List Char} {t : Token} {ts : List Token} :
      (∀ c ∈ gap, Text.isBlank c = true) → t.text.toList ≠ [] →
      (∀ c ∈ t.text.toList, Text.isBlank c = false) → t.offset = offset + byteCount gap →
      Cuts (t.offset + t.text.utf8ByteSize) rest ts →
      Cuts offset (gap ++ (t.text.toList ++ rest)) (t :: ts)

theorem Cuts.cons_blank (hblank : Text.isBlank c = true) (h : Cuts (offset + c.utf8Size) cs ts) :
    Cuts offset (c :: cs) ts := by
  cases h with
  | done hcs => exact .done (List.forall_mem_cons.2 ⟨hblank, hcs⟩)
  | token hgap hne htext hoffset hrest =>
    refine .token (List.forall_mem_cons.2 ⟨hblank, hgap⟩) hne htext ?_ hrest
    rw [hoffset, byteCount_cons, Nat.add_assoc]

theorem Cuts.cons_token (kind : Kind) {s : String} {text : List Char} (hs : s.toList = text)
    (hne : text ≠ []) (hclear : ∀ c ∈ text, Text.isBlank c = false)
    (h : Cuts (offset + byteCount text) rest ts) :
    Cuts offset (text ++ rest) (⟨kind, s, offset⟩ :: ts) := by
  subst hs
  rw [byteCount_toList] at h
  have hnothing : ∀ c ∈ ([] : List Char), Text.isBlank c = true := by simp
  exact @Cuts.token offset [] rest ⟨kind, s, offset⟩ ts hnothing hne hclear rfl h

/-- **A text is cut into its tokens.** -/
theorem cuts_scan (offset : Nat) (signed : Bool) (cs : List Char) :
    Cuts offset cs (scan offset signed cs) := by
  fun_induction scan offset signed cs with
  | case1 => exact .done (by simp)
  | case2 offset signed c cs hblank ih => exact ih.cons_blank hblank
  | case3 offset signed c cs hblank kind n hlead text ih =>
    have hclear : ∀ d ∈ text, Text.isBlank d = false :=
      List.forall_mem_cons.2 ⟨by simpa using hblank, fun _ => isBlank_of_lead hlead⟩
    have hcut := ih.cons_token kind String.toList_ofList (List.cons_ne_nil _ _) hclear
    rwa [List.cons_append, List.take_append_drop] at hcut

/-- A character of two texts one after the other is in the first one or in the second. -/
theorem mem_or_of_append_eq {ds before after : List Char} (h : cs ++ ds = before ++ c :: after) :
    (∃ more, cs = before ++ c :: more) ∨ ∃ past, before = cs ++ past ∧ ds = past ++ c :: after := by
  rcases List.append_eq_append_iff.1 h with ⟨past, rfl, hds⟩ | ⟨_ | ⟨d, more⟩, rfl, hc⟩
  · exact .inr ⟨past, rfl, hds⟩
  · exact .inr ⟨[], by simp, hc.symm⟩
  · obtain ⟨rfl, -⟩ := List.cons.inj hc
    exact .inl ⟨more, rfl⟩

namespace Cuts

/-- Each token is found at its offset. -/
theorem exists_of_mem (h : Cuts offset cs ts) (ht : t ∈ ts) : t.text.toList ≠ [] ∧
    (∀ c ∈ t.text.toList, Text.isBlank c = false) ∧
      ∃ before after, cs = before ++ (t.text.toList ++ after) ∧
        t.offset = offset + byteCount before := by
  induction h with
  | done => simp at ht
  | @token offset gap rest t' ts hgap hne htext hoffset hrest ih =>
    rcases List.mem_cons.1 ht with rfl | ht
    · exact ⟨hne, htext, gap, rest, rfl, hoffset⟩
    · obtain ⟨hne', htext', before, after, rfl, hbefore⟩ := ih ht
      refine ⟨hne', htext', gap ++ (t'.text.toList ++ before), after, by simp, ?_⟩
      rw [hbefore, hoffset, ← byteCount_toList, byteCount_append, byteCount_append]
      omega

/-- The tokens stand in their order and do not overlap. -/
theorem pairwise (h : Cuts offset cs ts) :
    ts.Pairwise fun t t' => t.offset + t.text.utf8ByteSize ≤ t'.offset := by
  induction h with
  | done => exact .nil
  | token hgap hne htext hoffset hrest ih =>
    refine List.pairwise_cons.2 ⟨fun t' ht' => ?_, ih⟩
    obtain ⟨-, -, before, -, -, hbefore⟩ := hrest.exists_of_mem ht'
    omega

/-- What is not white space belongs to a token. -/
theorem exists_mem (h : Cuts offset cs ts) {before after : List Char}
    (hcs : cs = before ++ c :: after) (hc : Text.isBlank c = false) :
    ∃ t ∈ ts, t.offset ≤ offset + byteCount before ∧
      offset + byteCount before < t.offset + t.text.utf8ByteSize := by
  induction h generalizing before with
  | done hblank =>
    rw [hblank c (by simp [hcs])] at hc
    simp at hc
  | @token offset gap rest t ts hgap hne htext hoffset hrest ih =>
    have hsize := byteCount_toList t.text
    rcases mem_or_of_append_eq hcs with ⟨more, rfl⟩ | ⟨past, rfl, htail⟩
    · rw [hgap c (by simp)] at hc
      simp at hc
    · rcases mem_or_of_append_eq htail with ⟨more, htoken⟩ | ⟨past, rfl, hlater⟩
      · have hpos := c.utf8Size_pos
        refine ⟨t, List.mem_cons_self, ?_⟩
        rw [htoken, byteCount_append, byteCount_cons] at hsize
        rw [hoffset, byteCount_append]
        omega
      · obtain ⟨t', ht', hle, hlt⟩ := ih hlater
        refine ⟨t', List.mem_cons_of_mem _ ht', ?_⟩
        rw [byteCount_append, byteCount_append]
        omega

/-- The tokens are the text without its white space. -/
theorem flatMap_text (h : Cuts offset cs ts) :
    ts.flatMap (·.text.toList) = cs.filter (!Text.isBlank ·) := by
  induction h with
  | done hcs => exact (List.filter_eq_nil_iff.2 fun c hc => by simp [hcs c hc]).symm
  | @token offset gap rest t ts hgap hne htext hoffset hrest ih =>
    have hgap' : gap.filter (!Text.isBlank ·) = [] :=
      List.filter_eq_nil_iff.2 fun c hc => by simp [hgap c hc]
    have htext' : t.text.toList.filter (!Text.isBlank ·) = t.text.toList :=
      List.filter_eq_self.2 fun c hc => by simp [htext c hc]
    rw [List.flatMap_cons, ih, List.filter_append, List.filter_append, hgap', htext',
      List.nil_append]

end Cuts

/-- **Nothing is lost between tokens.** The patterns always fit. Every token is a piece of the text
without white space, found at its offset; the tokens stand in their order and do not overlap; what
is in none of them is white space; and together they are the text without its white space. -/
theorem tokenize_lossless (s : String) :
    tokenize s = .ok (ofString s) ∧
      (∀ t ∈ ofString s, t.text ≠ "" ∧ (∀ c ∈ t.text.toList, Text.isBlank c = false) ∧
        ∃ before after, s = before ++ t.text ++ after ∧ t.offset = before.utf8ByteSize) ∧
      ((ofString s).Pairwise fun t t' => t.offset + t.text.utf8ByteSize ≤ t'.offset) ∧
      (∀ before c after, s = before ++ String.singleton c ++ after → Text.isBlank c = false →
        ∃ t ∈ ofString s, t.offset ≤ before.utf8ByteSize ∧
          before.utf8ByteSize < t.offset + t.text.utf8ByteSize) ∧
      String.join ((ofString s).map Token.text) =
        String.ofList (s.toList.filter (!Text.isBlank ·)) := by
  have hcuts : Cuts 0 s.toList (ofString s) := cuts_scan 0 true s.toList
  refine ⟨tokenize_eq s, fun t ht => ?_, hcuts.pairwise, fun before c after hs hc => ?_, ?_⟩
  · obtain ⟨hne, hclear, before, after, hs, hoffset⟩ := hcuts.exists_of_mem ht
    refine ⟨fun hempty => hne (by simp [hempty]), hclear, String.ofList before,
      String.ofList after, ?_, ?_⟩
    · rw [← String.toList_inj]
      simpa using hs
    · rw [hoffset, Nat.zero_add, ← byteCount_toList, String.toList_ofList]
  · have hlist : s.toList = before.toList ++ c :: after.toList := by simp [hs]
    simpa [byteCount_toList] using hcuts.exists_mem hlist hc
  · rw [← String.toList_inj, String.toList_join, List.flatMap_map, String.toList_ofList]
    exact hcuts.flatMap_text

end SharedSheet.Formula.Token
