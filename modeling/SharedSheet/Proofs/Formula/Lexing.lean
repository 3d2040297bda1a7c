import SharedSheet.Formula.Token
import SharedSheet.Proofs.Decimal.Written
import SharedSheet.Proofs.Reference.Spelling
import SharedSheet.Proofs.Text.Blank

/-!
# Where tokens end

Which token stands at the start of a text depends on what follows it: digits go on a numeral, and
nearly everything goes on a text. But a numeral, a keyword, a reference or a mark ends at the same
place whatever follows, as long as what follows does not go on with a letter, a digit, a point, a
colon or a dollar sign. Only a text is greedier.

So `lead` is split in two, `special?` for all kinds but texts and a run of characters for a text.
Each part of `special?` is shown not to look past what `Breaks`, and the rest of the module follows
from that: which texts are one token by themselves, which tokens the pieces of a rendering are, and
that blanks around a text do not matter.

## Main definitions

* `Token.Breaks` — what no token but a text goes on with
* `Token.special?`, `Token.Special` — the tokens other than texts
* `Token.Stands` — a text that is one token

## Main results

* `Token.lead_append` — a token ends where something follows that it does not go on with
* `Token.stands_of_mem_scan` — every text of a row stands by itself
* `Token.stands_text`, `Token.stands_toChars` — so do finite numbers and cells
* `Token.map_lexeme_ofString_trimmed` — blanks around a text do not change its tokens
-/

namespace SharedSheet

namespace Formula.Token

/-! ### What follows a token -/

/-- Whether a character may go on a numeral, a name or a reference. -/
def goesOn (c : Char) : Bool := c.isAlphanum || ['.', ':', '$'].contains c

/-- What no token goes on with, unless it is a text. -/
def Breaks (rest : List Char) : Prop := ∀ c ∈ rest.head?, goesOn c = false

@[simp] theorem breaks_nil : Breaks [] := by simp [Breaks]

theorem breaks_cons {c : Char} (h : goesOn c = false) (cs : List Char) : Breaks (c :: cs) := by
  simpa [Breaks] using h

section

variable {p : Char → Bool} {cs rest : List Char}

theorem takeWhile_append_of_stops (h : ∀ c ∈ rest.head?, p c = false) :
    (cs ++ rest).takeWhile p = cs.takeWhile p := by
  induction cs with
  | nil =>
    cases rest with
    | nil => rfl
    | cons c rest => simp [h c rfl]
  | cons c cs ih => simp only [List.cons_append, List.takeWhile_cons, ih]

theorem dropWhile_append_of_stops (h : ∀ c ∈ rest.head?, p c = false) :
    (cs ++ rest).dropWhile p = cs.dropWhile p ++ rest := by
  induction cs with
  | nil =>
    cases rest with
    | nil => rfl
    | cons c rest => simp [h c rfl]
  | cons c cs ih =>
    simp only [List.cons_append, List.dropWhile_cons, ih]
    split <;> rfl

end

section

variable {cs rest : List Char} (h : Breaks rest)
include h

theorem Breaks.isDigit : ∀ c ∈ rest.head?, c.isDigit = false := fun c hc => by
  have hstop := h c hc
  simp only [goesOn, Char.isAlphanum, Bool.or_eq_false_iff] at hstop
  exact hstop.1.2

theorem Breaks.isLetter : ∀ c ∈ rest.head?, Column.isLetter c = false := fun c hc => by
  have hstop := h c hc
  simp only [goesOn, Char.isAlphanum, Char.isAlpha, Bool.or_eq_false_iff] at hstop
  have hupper : c.isUpper = false := hstop.1.1.1
  simpa [Char.isUpper, Column.isLetter, Char.le_def] using hupper

theorem Breaks.head?_ne {c : Char} (hc : goesOn c = true) : rest.head? ≠ some c := fun hhead => by
  rw [h c hhead] at hc
  exact Bool.noConfusion hc

theorem splitUnsigned_append :
    (Decimal.splitUnsigned (cs ++ rest)).1 = (Decimal.splitUnsigned cs).1 := by
  have hpoint : rest.head? ≠ some '.' := h.head?_ne (by decide)
  rw [Decimal.splitUnsigned, Decimal.splitUnsigned, takeWhile_append_of_stops h.isDigit,
    dropWhile_append_of_stops h.isDigit]
  cases cs.takeWhile Char.isDigit with
  | nil => rfl
  | cons d whole =>
    cases cs.dropWhile Char.isDigit with
    | nil =>
      cases rest with
      | nil => rfl
      | cons c rest => simp_all
    | cons c cs =>
      by_cases hc : c = '.'
      · simp only [hc, List.cons_append, takeWhile_append_of_stops h.isDigit]
        cases cs.takeWhile Char.isDigit <;> rfl
      · simp [hc]

omit h in
theorem split_fst (signed : Bool) (c : Char) (cs : List Char) :
    (Decimal.split signed (c :: cs)).1 =
      if signed && Decimal.isSign c then
        match (Decimal.splitUnsigned cs).1 with
        | [] => []
        | numeral => c :: numeral
      else (Decimal.splitUnsigned (c :: cs)).1 := by
  simp only [Decimal.split]
  split
  · obtain ⟨_ | _, _⟩ := Decimal.splitUnsigned cs <;> rfl
  · rfl

/-- Where a numeral ends. -/
theorem split_append (signed : Bool) (c : Char) :
    (Decimal.split signed (c :: (cs ++ rest))).1 = (Decimal.split signed (c :: cs)).1 := by
  rw [split_fst, split_fst, splitUnsigned_append h, ← List.cons_append, splitUnsigned_append h]

theorem isPrefixOf_append {name : List Char} (hname : ∀ c ∈ name, c.isAlphanum = true) :
    name.isPrefixOf (cs ++ rest) = name.isPrefixOf cs := by
  induction name generalizing cs with
  | nil => simp
  | cons n name ih =>
    cases cs with
    | nil =>
      cases rest with
      | nil => rfl
      | cons c rest =>
        have hne : n ≠ c := by
          rintro rfl
          exact h.head?_ne (by simp [goesOn, hname n List.mem_cons_self]) rfl
        simp [List.isPrefixOf, hne]
    | cons c cs =>
      simp only [List.cons_append, List.isPrefixOf,
        ih fun c hc => hname c (List.mem_cons_of_mem _ hc)]

/-- Where the name of a function ends. -/
theorem functionLength?_append : functionLength? (cs ++ rest) = functionLength? cs := by
  have hnames : ∀ f : Function, ∀ c ∈ f.name.toList, c.isAlphanum = true := fun f =>
    List.all_eq_true.1 (by cases f <;> rfl)
  have hstop : rest.head?.any Char.isAlphanum = false := by
    cases hhead : rest.head? with
    | none => rfl
    | some c =>
      have hc := h c hhead
      rw [goesOn, Bool.or_eq_false_iff] at hc
      exact hc.1
  unfold functionLength?
  congr 1
  funext f
  simp only [isPrefixOf_append h (hnames f)]
  cases hstart : f.name.toList.isPrefixOf cs with
  | false => rfl
  | true =>
    obtain ⟨cs, rfl⟩ := List.isPrefixOf_iff_prefix.1 hstart
    cases cs with
    | nil => simp [hstop]
    | cons c cs => simp

/-- Where a reference ends. -/
theorem referenceLength?_append : referenceLength? (cs ++ rest) = referenceLength? cs := by
  have hdollar : rest.head? ≠ some '$' := h.head?_ne (by decide)
  cases cs with
  | nil =>
    cases rest with
    | nil => rfl
    | cons c rest => simp_all [referenceLength?]
  | cons c cs =>
    by_cases hc : c = '$'
    · simp only [hc, List.cons_append, referenceLength?, takeWhile_append_of_stops h.isLetter,
        dropWhile_append_of_stops h.isLetter, takeWhile_append_of_stops h.isDigit]
    · simp [referenceLength?, hc]

end

/-! ### Kinds of tokens -/

variable {signed : Bool} {c : Char} {cs rest : List Char} {kind : Kind} {n : Nat}

/-- The kind and length of the reference or range at the start of a text. -/
def cells? (cs : List Char) : Option (Kind × Nat) :=
  (referenceLength? cs).map fun length =>
    match cs.drop length with
    | ':' :: rest =>
      match referenceLength? rest with
      | some length' => (.range, length + length')
      | none => (.reference, length - 1)
    | _ => (.reference, length - 1)

/-- The kind and length of the token that starts with `c`, unless it is a text. -/
def special? (signed : Bool) (c : Char) (cs : List Char) : Option (Kind × Nat) :=
  match if c = '=' then functionLength? cs else none with
  | some length => some (.function, length)
  | none =>
    match (Decimal.split signed (c :: cs)).1 with
    | _ :: numeral => some (.number, numeral.length)
    | [] =>
      if isOperator c then some (.operator, 0)
      else if c = '(' then some (.leftParen, 0)
      else if c = ')' then some (.rightParen, 0)
      else (cells? (c :: cs)).or (if c = ',' then some (.comma, 0) else none)

/-- A text is what nothing else is. -/
theorem lead_eq (signed : Bool) (c : Char) (cs : List Char) : lead signed c cs =
    (special? signed c cs).getD (.text, (cs.takeWhile isTextChar).length) := by
  simp only [lead, special?, cells?]
  cases if c = '=' then functionLength? cs else none with
  | some length => rfl
  | none =>
    cases (Decimal.split signed (c :: cs)).1 with
    | cons d numeral => rfl
    | nil => cases referenceLength? (c :: cs) <;> split_ifs <;> rfl

theorem lead_cases (h : lead signed c cs = (kind, n)) : special? signed c cs = some (kind, n) ∨
    special? signed c cs = none ∧ kind = .text ∧ n = (cs.takeWhile isTextChar).length := by
  rw [lead_eq] at h
  cases hspecial : special? signed c cs with
  | some found =>
    rw [hspecial, Option.getD_some] at h
    exact .inl (congrArg some h)
  | none =>
    rw [hspecial, Option.getD_none] at h
    obtain ⟨rfl, rfl⟩ := Prod.mk.inj h
    exact .inr ⟨rfl, rfl, rfl⟩

/-- The tokens other than texts. -/
inductive Special (signed : Bool) : Char → List Char → Kind → Nat → Prop
  | function {cs : List Char} {n : Nat} : functionLength? cs = some n →
      Special signed '=' cs .function n
  | number {c : Char} {cs : List Char} {n : Nat} :
      (Decimal.split signed (c :: cs)).1.length = n + 1 → Special signed c cs .number n
  | operator {c : Char} {cs : List Char} : isOperator c = true → Special signed c cs .operator 0
  | leftParen {cs : List Char} : Special signed '(' cs .leftParen 0
  | rightParen {cs : List Char} : Special signed ')' cs .rightParen 0
  | comma {cs : List Char} : Special signed ',' cs .comma 0
  | reference {c : Char} {cs : List Char} {length : Nat} :
      referenceLength? (c :: cs) = some length → Special signed c cs .reference (length - 1)
  | range {c : Char} {cs rest : List Char} {length length' : Nat} :
      referenceLength? (c :: cs) = some length → (c :: cs).drop length = ':' :: rest →
      referenceLength? rest = some length' → Special signed c cs .range (length + length')

theorem special_of_cells? (h : cells? (c :: cs) = some (kind, n)) : Special signed c cs kind n := by
  obtain ⟨length, hlength, h⟩ := Option.map_eq_some_iff.1 h
  split at h
  · rename_i rest hrest
    split at h
    · rename_i length' hlength'
      obtain ⟨rfl, rfl⟩ := Prod.mk.inj h
      exact .range hlength hrest hlength'
    · obtain ⟨rfl, rfl⟩ := Prod.mk.inj h
      exact .reference hlength
  · obtain ⟨rfl, rfl⟩ := Prod.mk.inj h
    exact .reference hlength

theorem special_of_special? (h : special? signed c cs = some (kind, n)) :
    Special signed c cs kind n := by
  unfold special? at h
  split at h
  · rename_i length hlength
    obtain ⟨rfl, rfl⟩ := Prod.mk.inj (Option.some.inj h)
    obtain ⟨rfl, hfunction⟩ := Option.ite_none_right_eq_some.1 hlength
    exact .function hfunction
  · split at h
    · rename_i hnumeral
      obtain ⟨rfl, rfl⟩ := Prod.mk.inj (Option.some.inj h)
      exact .number (congrArg List.length hnumeral)
    · split_ifs at h with hoperator hopening hclosing hcomma
      · obtain ⟨rfl, rfl⟩ := Prod.mk.inj (Option.some.inj h)
        exact .operator hoperator
      · obtain ⟨rfl, rfl⟩ := Prod.mk.inj (Option.some.inj h)
        exact hopening ▸ .leftParen
      · obtain ⟨rfl, rfl⟩ := Prod.mk.inj (Option.some.inj h)
        exact hclosing ▸ .rightParen
      · rcases Option.or_eq_some_iff.1 h with h | ⟨-, h⟩
        · exact special_of_cells? h
        · obtain ⟨rfl, rfl⟩ := Prod.mk.inj (Option.some.inj h)
          exact hcomma ▸ .comma
      · rcases Option.or_eq_some_iff.1 h with h | ⟨-, h⟩
        · exact special_of_cells? h
        · simp at h

/-- A reference is a dollar sign with letters and digits behind it. -/
theorem exists_of_referenceLength? {n : Nat} (h : referenceLength? cs = some n) :
    ∃ letters digits rest, cs = '$' :: (letters ++ digits) ++ rest ∧
      n = ('$' :: (letters ++ digits)).length ∧
      (letters ≠ [] ∧ ∀ c ∈ letters, Column.isLetter c = true) ∧
      digits ≠ [] ∧ ∀ c ∈ digits, c.isDigit = true := by
  unfold referenceLength? at h
  split at h
  · rename_i cs
    split at h
    · rename_i hletters hdigits
      refine ⟨cs.takeWhile Column.isLetter,
        (cs.dropWhile Column.isLetter).takeWhile Char.isDigit,
        (cs.dropWhile Column.isLetter).dropWhile Char.isDigit, ?_, ?_,
        ⟨by rw [hletters]; exact List.cons_ne_nil _ _, fun _ => List.mem_takeWhile_imp⟩,
        by rw [hdigits]; exact List.cons_ne_nil _ _, fun _ => List.mem_takeWhile_imp⟩
      · rw [List.cons_append, List.append_assoc, List.takeWhile_append_dropWhile,
          List.takeWhile_append_dropWhile]
      · obtain rfl := Option.some.inj h
        simp only [hletters, hdigits, List.length_cons, List.length_append]
        omega
    · simp at h
  · simp at h

theorem referenceLength?_le {n : Nat} (h : referenceLength? cs = some n) :
    0 < n ∧ n ≤ cs.length := by
  obtain ⟨letters, digits, rest, rfl, rfl, -⟩ := exists_of_referenceLength? h
  simp

/-- A keyword goes on with the name of a function. -/
theorem exists_name_of_functionLength? (h : functionLength? cs = some n) :
    ∃ f : Function, n = f.name.toList.length ∧ f.name.toList <+: cs := by
  obtain ⟨f, -, h⟩ := List.exists_of_findSome?_eq_some h
  simp only [Option.ite_none_right_eq_some, Bool.and_eq_true] at h
  exact ⟨f, (Option.some.inj h.2).symm, List.isPrefixOf_iff_prefix.1 h.1.1⟩

theorem functionLength?_le (h : functionLength? cs = some n) : n ≤ cs.length := by
  obtain ⟨f, rfl, hname⟩ := exists_name_of_functionLength? h
  exact hname.length_le

theorem splitUnsigned_fst_append_snd (cs : List Char) :
    (Decimal.splitUnsigned cs).1 ++ (Decimal.splitUnsigned cs).2 = cs := by
  have hspan := List.takeWhile_append_dropWhile (p := Char.isDigit) (l := cs)
  simp only [Decimal.splitUnsigned]
  split
  · rfl
  · rename_i rest hdrop _
    rw [hdrop] at hspan
    split
    · exact hspan
    · rw [List.append_assoc, List.cons_append, List.takeWhile_append_dropWhile, hspan]
  · exact hspan

/-- A text is its numeral and what follows it. -/
theorem split_fst_append_snd (signed : Bool) (cs : List Char) :
    (Decimal.split signed cs).1 ++ (Decimal.split signed cs).2 = cs := by
  unfold Decimal.split
  split
  · rename_i c rest
    split
    · have hrest := splitUnsigned_fst_append_snd rest
      split
      · rfl
      · rename_i numeral tail hsplit
        rw [hsplit] at hrest
        rw [List.cons_append, hrest]
    · exact splitUnsigned_fst_append_snd (c :: rest)
  · rfl

theorem split_isPrefix (signed : Bool) (cs : List Char) : (Decimal.split signed cs).1 <+: cs :=
  ⟨_, split_fst_append_snd signed cs⟩

/-- A token lies within the text. -/
theorem lead_le (h : lead signed c cs = (kind, n)) : n ≤ cs.length := by
  rcases lead_cases h with h | ⟨-, -, rfl⟩
  · cases special_of_special? h with
    | function hlength => exact functionLength?_le hlength
    | number hnumeral =>
      have := (split_isPrefix signed (c :: cs)).length_le
      rw [hnumeral, List.length_cons] at this
      exact Nat.le_of_succ_le_succ this
    | operator | leftParen | rightParen | comma => exact Nat.zero_le _
    | reference hlength =>
      have := referenceLength?_le hlength
      rw [List.length_cons] at this
      omega
    | range hlength hrest hlength' =>
      have := referenceLength?_le hlength'
      have hcount := congrArg List.length hrest
      simp only [List.length_drop, List.length_cons] at hcount
      omega
  · exact (List.takeWhile_prefix _).length_le

/-! ### What follows does not matter -/

theorem cells?_append (h : Breaks rest) : cells? (cs ++ rest) = cells? cs := by
  have hcolon : rest.head? ≠ some ':' := h.head?_ne (by decide)
  unfold cells?
  rw [referenceLength?_append h]
  refine Option.map_congr fun length hlength => ?_
  rw [List.drop_append_of_le_length (referenceLength?_le hlength).2]
  cases cs.drop length with
  | nil =>
    cases rest with
    | nil => rfl
    | cons c rest => simp_all
  | cons c cs =>
    by_cases hc : c = ':'
    · simp only [hc, List.cons_append, referenceLength?_append h]
    · simp [hc]

theorem special?_append (h : Breaks rest) (signed : Bool) (c : Char) :
    special? signed c (cs ++ rest) = special? signed c cs := by
  rw [special?, special?, functionLength?_append h, split_append h, ← List.cons_append,
    cells?_append h]

/-- **A token ends where something follows that it does not go on with.** -/
theorem lead_append (h : Breaks rest) (hlead : lead signed c cs = (kind, n))
    (htext : kind = .text → ∀ c ∈ rest.head?, isTextChar c = false) :
    lead signed c (cs ++ rest) = (kind, n) := by
  rw [lead_eq, special?_append h]
  rcases lead_cases hlead with hspecial | ⟨hspecial, rfl, rfl⟩
  · rw [hspecial, Option.getD_some]
  · rw [hspecial, Option.getD_none, takeWhile_append_of_stops (htext rfl)]

/-! ### Scanning -/

theorem scan_of_isBlank (h : Text.isBlank c = true) (offset : Nat) :
    scan offset signed (c :: cs) = scan (offset + c.utf8Size) signed cs := by
  rw [scan, if_pos h]

theorem scan_of_lead (hblank : Text.isBlank c = false) (h : lead signed c cs = (kind, n))
    (offset : Nat) : scan offset signed (c :: cs) =
      ⟨kind, String.ofList (c :: cs.take n), offset⟩ ::
        scan (offset + byteCount (c :: cs.take n)) (!kind.endsOperand) (cs.drop n) := by
  rw [scan, if_neg (by simp [hblank]), h]

/-- A text that is one token, in a place where a sign may belong to a numeral. -/
def Stands (kind : Kind) (cs : List Char) : Prop :=
  ∃ c more, cs = c :: more ∧ Text.isBlank c = false ∧ lead true c more = (kind, more.length)

theorem Stands.scan_append (h : Stands kind cs) (hrest : Breaks rest)
    (htext : kind = .text → ∀ c ∈ rest.head?, isTextChar c = false) (offset : Nat) :
    scan offset true (cs ++ rest) =
      ⟨kind, String.ofList cs, offset⟩ ::
        scan (offset + byteCount cs) (!kind.endsOperand) rest := by
  obtain ⟨c, more, rfl, hblank, hlead⟩ := h
  rw [List.cons_append, scan_of_lead hblank (lead_append hrest hlead htext)]
  simp

theorem isTextChar_of_goesOn (h : goesOn c = true) : isTextChar c = true := by
  have hsmall : c.toNat < 128 := by
    simp only [goesOn, Char.isAlphanum, Char.isAlpha, Char.isUpper, Char.isLower, Char.isDigit,
      Bool.or_eq_true, Bool.and_eq_true, decide_eq_true_eq, List.contains_iff_mem, ge_iff_le,
      UInt32.le_iff_toNat_le] at h
    change ((65 ≤ c.toNat ∧ c.toNat ≤ 90 ∨ 97 ≤ c.toNat ∧ c.toNat ≤ 122) ∨
      48 ≤ c.toNat ∧ c.toNat ≤ 57) ∨ c ∈ ['.', ':', '$'] at h
    rcases h with ((h | h) | h) | h
    · omega
    · omega
    · omega
    · simp at h
      rcases h with rfl | rfl | rfl <;> decide
  have hall : ∀ n < 128, goesOn (Char.ofNat n) = true → isTextChar (Char.ofNat n) = true := by
    decide
  have := hall c.toNat hsmall
  rw [Char.ofNat_toNat] at this
  exact this h

theorem isBlank_of_isTextChar (h : isTextChar c = true) : Text.isBlank c = false := by
  simp only [isTextChar, Bool.and_eq_true, Bool.not_eq_true'] at h
  exact h.1.1.1

theorem breaks_of_stops (h : ∀ c ∈ rest.head?, isTextChar c = false) : Breaks rest := fun c hc => by
  by_contra hgoes
  have hstop := h c hc
  rw [isTextChar_of_goesOn (Bool.eq_true_of_not_eq_false hgoes)] at hstop
  exact Bool.noConfusion hstop

/-- A text ends where something else can start. -/
theorem breaks_dropWhile_isTextChar (cs : List Char) : Breaks (cs.dropWhile isTextChar) := by
  refine breaks_of_stops fun c hc => ?_
  have hstop := List.head?_dropWhile_not isTextChar cs
  rw [Option.mem_def.1 hc] at hstop
  exact hstop

theorem isSign_of_not_isOperator (hc : isOperator c = false) : Decimal.isSign c = false := by
  simp only [isOperator, Decimal.isSign, List.contains_cons, Bool.or_eq_false_iff] at hc ⊢
  exact ⟨hc.1, hc.2.1⟩

/-- Signs matter only to numerals with a sign. -/
theorem special?_of_not_isOperator (hc : isOperator c = false) :
    special? signed c cs = special? true c cs := by
  simp [special?, split_fst, isSign_of_not_isOperator hc]

theorem isOperator_of_special? (h : special? signed c cs = none) : isOperator c = false := by
  unfold special? at h
  split at h
  · simp at h
  · split at h
    · simp at h
    · by_contra hc
      rw [if_pos (Bool.eq_true_of_not_eq_false hc)] at h
      simp at h

theorem special?_of_lead (h : lead signed c cs = (.text, n)) :
    special? signed c cs = none ∧ n = (cs.takeWhile isTextChar).length := by
  rcases lead_cases h with h | ⟨h, -, hn⟩
  · cases special_of_special? h
  · exact ⟨h, hn⟩

/-- A text stands by itself. -/
theorem stands_of_lead (hblank : Text.isBlank c = false) (h : lead signed c cs = (.text, n)) :
    Stands .text (c :: cs.take n) := by
  obtain ⟨hspecial, rfl⟩ := special?_of_lead h
  have hcs : cs.takeWhile isTextChar ++ cs.dropWhile isTextChar = cs :=
    List.takeWhile_append_dropWhile
  have htake : cs.take (cs.takeWhile isTextChar).length = cs.takeWhile isTextChar :=
    (List.prefix_iff_eq_take.1 (List.takeWhile_prefix _)).symm
  have hsame : special? true c (cs.takeWhile isTextChar) = none := by
    rw [← special?_append (breaks_dropWhile_isTextChar cs), hcs,
      ← special?_of_not_isOperator (isOperator_of_special? hspecial), hspecial]
  refine ⟨c, _, rfl, hblank, ?_⟩
  rw [htake, lead_eq, hsame, Option.getD_none,
    List.takeWhile_eq_self_iff.2 fun _ hc => List.mem_takeWhile_imp hc]

/-- A character with which nothing but a text can start may stand in one. -/
theorem isTextChar_of_special? (hblank : Text.isBlank c = false)
    (h : special? signed c cs = none) : isTextChar c = true := by
  have hne : ∀ d ∈ ['(', ')', ','], c ≠ d := by
    rintro d hd rfl
    simp only [List.mem_cons, List.not_mem_nil, or_false] at hd
    rcases hd with rfl | rfl | rfl <;>
      simp [special?, split_fst, Decimal.splitUnsigned, Char.isDigit, isOperator, Decimal.isSign,
        cells?, referenceLength?] at h
  simp [isTextChar, hblank, hne '(' (by decide), hne ')' (by decide), hne ',' (by decide)]

/-- A text consists of characters that may stand in one. -/
theorem Stands.forall_isTextChar (h : Stands .text cs) : ∀ c ∈ cs, isTextChar c = true := by
  obtain ⟨c, cs, rfl, hblank, hlead⟩ := h
  obtain ⟨hspecial, hlength⟩ := special?_of_lead hlead
  exact List.forall_mem_cons.2 ⟨isTextChar_of_special? hblank hspecial,
    List.takeWhile_eq_self_iff.1 ((List.takeWhile_prefix _).eq_of_length hlength.symm)⟩

/-- A text runs on into what follows if that may stand in a text. -/
theorem Stands.scan_text (h : Stands .text cs) (hrest : Breaks (c :: rest))
    (hc : isTextChar c = true) (offset : Nat) :
    ∃ more ts, scan offset true (cs ++ c :: rest) =
      ⟨.text, String.ofList (cs ++ c :: more), offset⟩ :: ts := by
  have hall := h.forall_isTextChar
  obtain ⟨c', cs, rfl, hblank, hlead⟩ := h
  obtain ⟨hspecial, -⟩ := special?_of_lead hlead
  have hlonger : (cs ++ c :: rest).takeWhile isTextChar =
      cs ++ c :: rest.takeWhile isTextChar := by
    rw [List.takeWhile_append_of_pos (List.forall_mem_cons.1 hall).2,
      List.takeWhile_cons_of_pos hc]
  have htake : (cs ++ c :: rest).take (cs ++ c :: rest.takeWhile isTextChar).length =
      cs ++ c :: rest.takeWhile isTextChar := by
    rw [← hlonger]
    exact (List.prefix_iff_eq_take.1 (List.takeWhile_prefix _)).symm
  have hlead' : lead true c' (cs ++ c :: rest) =
      (.text, (cs ++ c :: rest.takeWhile isTextChar).length) := by
    rw [lead_eq, special?_append hrest, hspecial, Option.getD_none, hlonger]
  have hscan := scan_of_lead hblank hlead' offset
  rw [htake] at hscan
  exact ⟨_, _, hscan⟩

/-- A text of a row of tokens is one token by itself. -/
theorem stands_of_mem_scan {t : Token} {offset : Nat} (ht : t ∈ scan offset signed cs)
    (hkind : t.kind = .text) : Stands .text t.text.toList := by
  fun_induction scan offset signed cs with
  | case1 => simp at ht
  | case2 offset signed c cs hblank ih => exact ih ht
  | case3 offset signed c cs hblank kind n hlead text ih =>
    rcases List.mem_cons.1 ht with rfl | ht
    · obtain rfl : kind = .text := hkind
      rw [String.toList_ofList]
      exact stands_of_lead (by simpa using hblank) hlead
    · exact ih ht

/-! ### Single tokens -/

theorem scan_of_special? (hblank : Text.isBlank c = false)
    (h : special? signed c cs = some (kind, n)) (offset : Nat) : scan offset signed (c :: cs) =
      ⟨kind, String.ofList (c :: cs.take n), offset⟩ ::
        scan (offset + byteCount (c :: cs.take n)) (!kind.endsOperand) (cs.drop n) :=
  scan_of_lead hblank (by rw [lead_eq, h, Option.getD_some]) offset

/-- A character that starts neither a numeral, an operation nor a call. -/
theorem special?_of_mark (hdigit : c.isDigit = false) (hoperator : isOperator c = false) :
    special? signed c cs =
      if c = '(' then some (.leftParen, 0)
      else if c = ')' then some (.rightParen, 0)
      else (cells? (c :: cs)).or (if c = ',' then some (.comma, 0) else none) := by
  have hequals : c ≠ '=' := by
    rintro rfl
    exact absurd hoperator (by decide)
  simp [special?, split_fst, Decimal.splitUnsigned, isSign_of_not_isOperator hoperator, hequals,
    hdigit, hoperator]

theorem cells?_cons_of_ne (h : c ≠ '$') : cells? (c :: cs) = none := by
  simp [cells?, referenceLength?, h]

theorem scan_leftParen (offset : Nat) : scan offset signed ('(' :: cs) =
    ⟨.leftParen, "(", offset⟩ :: scan (offset + 1) true cs := by
  have hspecial : special? signed '(' cs = some (.leftParen, 0) :=
    special?_of_mark (by decide) (by decide)
  exact scan_of_special? (by decide) hspecial offset

theorem scan_rightParen (offset : Nat) : scan offset signed (')' :: cs) =
    ⟨.rightParen, ")", offset⟩ :: scan (offset + 1) false cs := by
  have hspecial : special? signed ')' cs = some (.rightParen, 0) :=
    special?_of_mark (by decide) (by decide)
  exact scan_of_special? (by decide) hspecial offset

theorem scan_comma (offset : Nat) : scan offset signed (',' :: cs) =
    ⟨.comma, ",", offset⟩ :: scan (offset + 1) true cs := by
  have hspecial : special? signed ',' cs = some (.comma, 0) := by
    rw [special?_of_mark (by decide) (by decide), cells?_cons_of_ne (by decide)]
    rfl
  exact scan_of_special? (by decide) hspecial offset

/-- An operator where no numeral can start, unless it is the equals sign of a call. -/
theorem scan_operator {op : Operator} (hkeyword : op = .eq → functionLength? cs = none)
    (hsigned : signed = true → op = .eq) (offset : Nat) : scan offset signed (op.symbol :: cs) =
      ⟨.operator, op.symbol.toString, offset⟩ :: scan (offset + 1) true cs := by
  have hspecial : special? signed op.symbol cs = some (.operator, 0) := by
    have hsign : (signed && Decimal.isSign op.symbol) = false := by
      cases signed with
      | false => rfl
      | true =>
        rw [hsigned rfl]
        rfl
    have hfunction : (if op.symbol = '=' then functionLength? cs else none) = none := by
      cases op <;> first | exact hkeyword rfl | rfl
    have hdigit : op.symbol.isDigit = false := by
      cases op <;> rfl
    have hoperator : isOperator op.symbol = true := by
      cases op <;> rfl
    simp [special?, split_fst, Decimal.splitUnsigned, hsign, hfunction, hdigit, hoperator]
  have hblank : Text.isBlank op.symbol = false := by
    cases op <;> decide
  have hsize : op.symbol.utf8Size = 1 := by
    cases op <;> rfl
  simpa [byteCount, hsize, Kind.endsOperand] using scan_of_special? hblank hspecial offset

theorem functionLength?_name (f : Function) : functionLength? f.name.toList =
    some f.name.toList.length := by
  cases f <;> decide

theorem special?_keyword (hkeyword : functionLength? cs = some n) :
    special? signed '=' cs = some (.function, n) := by
  rw [special?, if_pos rfl, hkeyword]

/-- A keyword, which an opening parenthesis ends. -/
theorem scan_keyword (f : Function) (offset : Nat) :
    scan offset signed ('=' :: (f.name.toList ++ '(' :: cs)) =
      ⟨.function, String.ofList ('=' :: f.name.toList), offset⟩ ::
        scan (offset + byteCount ('=' :: f.name.toList)) true ('(' :: cs) := by
  have hbreaks : Breaks ('(' :: cs) := breaks_cons (by decide) cs
  have hlength : functionLength? (f.name.toList ++ '(' :: cs) = some f.name.toList.length := by
    rw [functionLength?_append hbreaks, functionLength?_name]
  have hscan := scan_of_special? (by decide) (@special?_keyword signed _ _ hlength) offset
  rwa [List.take_left, List.drop_left] at hscan

theorem eq_leftParen_of_lead (h : lead signed c cs = (.leftParen, n)) : c = '(' := by
  rcases lead_cases h with h | ⟨-, h, -⟩
  · cases special_of_special? h
    rfl
  · cases h

/-- An opening parenthesis is read only where one stands. -/
theorem kind_ne_leftParen_of_mem_head? (h : ∀ c ∈ cs.head?, Text.isBlank c = false ∧ c ≠ '(')
    {offset : Nat} {t : Token} (ht : t ∈ (scan offset signed cs).head?) : t.kind ≠ .leftParen := by
  cases cs with
  | nil => simp [scan] at ht
  | cons c cs =>
    obtain ⟨hblank, hc⟩ := h c rfl
    cases hlead : lead signed c cs with
    | mk kind n =>
      rw [scan_of_lead hblank hlead] at ht
      obtain rfl := Option.some.inj ht
      rintro rfl
      exact hc (eq_leftParen_of_lead hlead)

/-- The functions have names in capitals. -/
theorem functionLength?_eq_none (h : c ∉ ['I', 'S', 'M', 'A', 'C', 'D']) :
    functionLength? (c :: cs) = none := by
  refine List.findSome?_eq_none_iff.2 fun f _ => ?_
  obtain ⟨d, ds, hname, hd⟩ :
      ∃ d ds, f.name.toList = d :: ds ∧ d ∈ ['I', 'S', 'M', 'A', 'C', 'D'] := by
    cases f <;> exact ⟨_, _, rfl, by decide⟩
  have hne : d ≠ c := fun heq => h (heq ▸ hd)
  simp [hname, List.isPrefixOf, hne]

/-- A finite number stands by itself. -/
theorem stands_text {x : Float} (h : x.isFinite = true) :
    Stands .number (Decimal.text x).toList := by
  rw [Decimal.toList_text h]
  obtain ⟨c, cs, hcs, hc⟩ := Decimal.exists_cons_positional (Decimal.shortest x)
  have hsplit := Decimal.split_positional (Decimal.shortest x)
  rw [hcs] at hsplit ⊢
  have htext : isTextChar c = true := by
    rcases hc with hc | rfl
    · exact isTextChar_of_goesOn (by simp [goesOn, Char.isAlphanum, hc])
    · decide
  have hequals : c ≠ '=' := by
    rintro rfl
    exact absurd hc (by decide)
  refine ⟨c, cs, rfl, isBlank_of_isTextChar htext, ?_⟩
  rw [lead_eq, special?, if_neg hequals, hsplit]
  rfl

/-- A dollar sign with letters and digits behind it stands by itself. -/
theorem stands_of_letters_digits {letters digits : List Char} (hletters_ne : letters ≠ [])
    (hletters : ∀ c ∈ letters, Column.isLetter c = true) (hdigits_ne : digits ≠ [])
    (hdigits : ∀ c ∈ digits, c.isDigit = true) :
    Stands .reference ('$' :: (letters ++ digits)) := by
  obtain ⟨htake, hdrop⟩ := Reference.span_of_letters_digits hletters hdigits_ne hdigits
  have hlength : referenceLength? ('$' :: (letters ++ digits)) =
      some ('$' :: (letters ++ digits)).length := by
    obtain ⟨c, letters, rfl⟩ := List.exists_cons_of_ne_nil hletters_ne
    obtain ⟨d, digits, rfl⟩ := List.exists_cons_of_ne_nil hdigits_ne
    simp only [referenceLength?, htake, hdrop, List.takeWhile_eq_self_iff.2 hdigits,
      List.length_cons, List.length_append]
    congr 1
    omega
  have hcells : cells? ('$' :: (letters ++ digits)) =
      some (.reference, ('$' :: (letters ++ digits)).length - 1) := by
    rw [cells?, hlength, Option.map_some, List.drop_length]
  refine ⟨'$', _, rfl, by decide, ?_⟩
  rw [lead_eq, special?_of_mark (by decide) (by decide), if_neg (by decide), if_neg (by decide),
    hcells]
  rfl

/-- The spelling of a cell stands by itself. -/
theorem stands_toChars {r : Reference} (h : r.IsCell) : Stands .reference r.toChars :=
  stands_of_letters_digits (Column.letters_ne_nil fun h0 => h.1 (UInt32.toNat_inj.1 h0))
    (fun _ => Column.isLetter_of_mem_letters) Nat.toDigits_ne_nil
    fun _ => Nat.isDigit_of_mem_toDigits (by decide) (by decide)

/-! ### Blanks around a text -/

/-- A token without the place where it stands. -/
def lexeme (t : Token) : Kind × String := (t.kind, t.text)

/-- What is in front of a text only moves its tokens. -/
theorem map_lexeme_scan (offset offset' : Nat) :
    (scan offset signed cs).map lexeme = (scan offset' signed cs).map lexeme := by
  fun_induction scan offset signed cs generalizing offset' with
  | case1 => simp [scan]
  | case2 offset signed c cs hblank ih => rw [scan_of_isBlank hblank, ih]
  | case3 offset signed c cs hblank kind n hlead text ih =>
    rw [scan_of_lead (by simpa using hblank) hlead, List.map_cons, List.map_cons, ih]
    rfl

theorem map_lexeme_scan_blanks_append {before : List Char}
    (hbefore : ∀ c ∈ before, Text.isBlank c = true) (offset offset' : Nat) :
    (scan offset signed (before ++ cs)).map lexeme = (scan offset' signed cs).map lexeme := by
  induction before generalizing offset with
  | nil => exact map_lexeme_scan offset offset'
  | cons c before ih =>
    rw [List.cons_append, scan_of_isBlank (hbefore c List.mem_cons_self)]
    exact ih (fun c hc => hbefore c (List.mem_cons_of_mem _ hc)) _

theorem scan_blanks (h : ∀ c ∈ cs, Text.isBlank c = true) (offset : Nat) :
    scan offset signed cs = [] := by
  induction cs generalizing offset with
  | nil => simp [scan]
  | cons c cs ih =>
    rw [scan_of_isBlank (h c List.mem_cons_self)]
    exact ih (fun c hc => h c (List.mem_cons_of_mem _ hc)) _

theorem scan_append_blanks {after : List Char} (hafter : ∀ c ∈ after, Text.isBlank c = true)
    (offset : Nat) : scan offset signed (cs ++ after) = scan offset signed cs := by
  have htext : ∀ c ∈ after.head?, isTextChar c = false := fun c hc => by
    simp [isTextChar, hafter c (List.mem_of_mem_head? hc)]
  fun_induction scan offset signed cs with
  | case1 offset signed => exact scan_blanks hafter offset
  | case2 offset signed c cs hblank ih => rw [List.cons_append, scan_of_isBlank hblank, ih]
  | case3 offset signed c cs hblank kind n hlead text ih =>
    have hle : n ≤ cs.length := lead_le hlead
    rw [List.cons_append, scan_of_lead (by simpa using hblank)
      (lead_append (breaks_of_stops htext) hlead fun _ => htext), List.take_append_of_le_length hle,
      List.drop_append_of_le_length hle, ih]

/-- Blanks around a text do not change its tokens. -/
theorem map_lexeme_ofString_trimmed (s : String) :
    (ofString (Text.trimmed s)).map lexeme = (ofString s).map lexeme := by
  obtain ⟨before, after, hs, hbefore, hafter⟩ := Text.exists_blanks_trim s.toList
  calc (ofString (Text.trimmed s)).map lexeme
      = (scan 0 true (Text.trim s.toList ++ after)).map lexeme := by
        rw [scan_append_blanks hafter, ofString, Text.trimmed, String.toList_ofList]
    _ = (scan 0 true (before ++ (Text.trim s.toList ++ after))).map lexeme :=
        (map_lexeme_scan_blanks_append hbefore 0 0).symm
    _ = (ofString s).map lexeme := by
        rw [← hs]
        rfl

end Formula.Token

end SharedSheet
