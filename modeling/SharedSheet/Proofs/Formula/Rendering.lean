import SharedSheet.Proofs.Formula.Leaves
import SharedSheet.Proofs.Formula.Lexing
import SharedSheet.Proofs.Reference.Rectangle

/-!
# Renderings read back

The formula text of an expression has no white space in it, and parentheses around every operation.
Read again, it gives the expression unless one of three things happens. A number that is not finite
is written as a word and read as a text. A text in front of an operator takes the operator in, and
what follows with it. A text behind an equals sign that starts with the name of a function makes a
keyword of the sign, which no parenthesis follows. Everything else is read back, so that the
`Expr.isLegible` expressions are exactly the ones that are.

Both directions are inductions over the expression, with the text that follows left free. A
legible expression leaves the text that follows as it is (`Expr.scan_chars`). An expression that
is not legible is read up to the first place where it is not, and there the row of tokens tells of
something else (`Expr.misread_chars`).

Texts and references are what reading makes of them: a text is one token, and a reference names a
cell. Other expressions have renderings that read as anything.

## Main definitions

* `Expr.chars` — the characters of a rendering
* `Expr.isLegible`, `Term.isLegible` — what is read back
* `Expr.IsWord` — what reading guarantees of the leaves

## Main results

* `Expr.scan_chars`, `Term.ofString_render_of_isLegible` — what is legible is read back
* `Expr.misread_chars` — an expression that is not legible is misread
* `Term.reads_back_iff_isLegible` — a term that was read is read back just when it is legible
-/

namespace SharedSheet

namespace Formula

open Grammar Token

variable {e : Expr} {t : Token}

/-! ### The characters of a rendering -/

namespace Expr

mutual

/-- The characters of the formula text of an expression. -/
def chars : Expr → List Char
  | .number x => (Decimal.text x).toList
  | .text s => s.toList
  | .cell r => r.toChars
  | .operation left op right => '(' :: (chars left ++ op.symbol :: (chars right ++ [')']))
  | .call f [] => '=' :: (f.name.toList ++ ['(', ')'])
  | .call f (arg :: args) =>
    '=' :: (f.name.toList ++ '(' :: (chars arg ++ (charsOfArgs args ++ [')'])))

/-- The characters of arguments with a comma before each. -/
def charsOfArgs : List Expr → List Char
  | [] => []
  | arg :: args => ',' :: (chars arg ++ charsOfArgs args)

end

mutual

theorem toList_write (out : String) (e : Expr) : (write out e).toList = out.toList ++ e.chars := by
  match e with
  | .number x => simp [write, chars]
  | .text s => simp [write, chars]
  | .cell r => simp [write, chars, Reference.toString]
  | .operation left op right => simp [write, chars, toList_write]
  | .call f [] => simp [write, chars]
  | .call f (arg :: args) => simp [write, chars, toList_write, toList_writeArgs]

theorem toList_writeArgs (out : String) (args : List Expr) :
    (writeArgs out args).toList = out.toList ++ charsOfArgs args := by
  match args with
  | [] => simp [writeArgs, charsOfArgs]
  | arg :: args => simp [writeArgs, charsOfArgs, toList_write, toList_writeArgs]

end

/-! ### Legible expressions -/

/-- Whether an expression is a text. -/
def isText : Expr → Bool
  | .text _ => true
  | _ => false

/-- Whether an expression is a text that an equals sign in front makes a call. -/
def isKeyword : Expr → Bool
  | .text s => (functionLength? s.toList).isSome
  | _ => false

theorem exists_eq_text_of_isText {e : Expr} (h : e.isText = true) : ∃ s, e = .text s := by
  cases e with
  | text s => exact ⟨s, rfl⟩
  | _ => simp [isText] at h

theorem exists_eq_text_of_isKeyword {e : Expr} (h : e.isKeyword = true) : ∃ s, e = .text s := by
  cases e with
  | text s => exact ⟨s, rfl⟩
  | _ => simp [isKeyword] at h

mutual

/-- Whether the formula text of an expression reads as the expression. A number has to be finite.
A text would take in an operator behind it, and with an equals sign in front of it, it must not
start like a call. -/
def isLegible : Expr → Bool
  | .number x => x.isFinite
  | .text _ => true
  | .cell _ => true
  | .operation left op right =>
    isLegible left && !left.isText && isLegible right && !(op == .eq && right.isKeyword)
  | .call _ args => areLegible args

/-- Whether the formula texts of arguments read as the arguments. -/
def areLegible : List Expr → Bool
  | [] => true
  | arg :: args => isLegible arg && areLegible args

end

mutual

/-- A legible expression equals itself, which one with a number that is none would not do. -/
theorem same_self {e : Expr} (h : e.isLegible = true) : e.same e = true := by
  match e with
  | .number x =>
    have hread := Decimal.toFloat_ofNumeral_text h
    rwa [Decimal.toFloat_ofNumeral_text_eq h] at hread
  | .text s => simp [same]
  | .cell r => simp [same]
  | .operation left op right =>
    simp only [isLegible, Bool.and_eq_true] at h
    simp [same, same_self h.1.1.1, same_self h.1.2]
  | .call f args =>
    rw [isLegible] at h
    simp [same, sameArgs_self h]

theorem sameArgs_self {args : List Expr} (h : areLegible args = true) :
    sameArgs args args = true := by
  match args with
  | [] => rfl
  | arg :: args =>
    simp only [areLegible, Bool.and_eq_true] at h
    rw [sameArgs, same_self h.1, sameArgs_self h.2]
    rfl

end

/-- What reading guarantees of the leaves: a text is one token, and a reference names a cell. -/
def IsWord : Expr → Prop
  | .text s => Stands .text s.toList
  | .cell r => r.IsCell
  | _ => True

/-- A rendering starts like a call only if it is a text that does. -/
theorem functionLength?_chars (hkeyword : e.isKeyword = false)
    {rest : List Char} (hrest : Breaks rest) : functionLength? (e.chars ++ rest) = none := by
  rw [functionLength?_append hrest]
  cases e with
  | number x =>
    obtain ⟨c, cs, hcs, hc⟩ := Decimal.exists_cons_text x
    rw [chars, hcs]
    refine functionLength?_eq_none fun hcapital => ?_
    simp only [List.mem_cons, List.not_mem_nil, or_false] at hcapital
    rcases hcapital with rfl | rfl | rfl | rfl | rfl | rfl <;> exact absurd hc (by decide)
  | text s => simpa [isKeyword, chars] using hkeyword
  | cell r => exact functionLength?_eq_none (by decide)
  | operation left op right => exact functionLength?_eq_none (by decide)
  | call f args => cases args <;> exact functionLength?_eq_none (by decide)

theorem breaks_operator (op : Operator) (cs : List Char) : Breaks (op.symbol :: cs) :=
  breaks_cons (by cases op <;> decide) cs

theorem stops_rightParen (rest : List Char) : ∀ c ∈ (')' :: rest).head?, isTextChar c = false := by
  simp [isTextChar]

theorem stops_charsOfArgs (args : List Expr) (rest : List Char) :
    ∀ c ∈ (charsOfArgs args ++ ')' :: rest).head?, isTextChar c = false := by
  cases args <;> simp [charsOfArgs, isTextChar]

/-- The operator between two operands, unless its right operand makes a keyword of it. -/
theorem scan_operator_chars {op : Operator} {right : Expr}
    (hkeyword : (op == .eq && right.isKeyword) = false) (offset : Nat) (rest : List Char) :
    scan offset false (op.symbol :: (right.chars ++ ')' :: rest)) =
      ⟨.operator, op.symbol.toString, offset⟩ ::
        scan (offset + 1) true (right.chars ++ ')' :: rest) := by
  refine scan_operator (fun hop => ?_) (fun hsigned => by cases hsigned) offset
  exact functionLength?_chars (by simpa [hop] using hkeyword)
    (breaks_of_stops (stops_rightParen rest))

theorem ofName?_name (f : Function) :
    Function.ofName? (String.ofList ('=' :: f.name.toList)).toList.tail = some f := by
  cases f <;> decide

theorem ofSymbol?_symbol (op : Operator) :
    Operator.ofSymbol? op.symbol.toString.toList = some op := by
  cases op <;> decide

theorem operand_number {s : String} {x : Float} {offset : Nat}
    (h : (Decimal.ofNumeral s.toList).toFloat = x) : Operand [⟨.number, s, offset⟩] (.number x) :=
  h ▸ .number rfl

theorem operand_text {s s' : String} {offset : Nat} (h : s' = s) :
    Operand [⟨.text, s', offset⟩] (.text s) :=
  h ▸ .text rfl

mutual

/-- **A legible expression is read back**, whatever follows. What follows a text must not be able
to stand in it. -/
theorem scan_chars {e : Expr} (hword : ∀ l ∈ e.leaves, l.IsWord) (h : e.isLegible = true)
    (offset : Nat) {rest : List Char} (hrest : Breaks rest)
    (htext : e.isText = true → ∀ c ∈ rest.head?, isTextChar c = false) :
    ∃ ts offset', scan offset true (e.chars ++ rest) = ts ++ scan offset' false rest ∧
      Operand ts e := by
  match e with
  | .number x =>
    refine ⟨[_], _, (stands_text h).scan_append hrest (fun hkind => by cases hkind) offset,
      operand_number ?_⟩
    rw [String.toList_ofList]
    exact Decimal.toFloat_ofNumeral_text_eq h
  | .text s =>
    have hs : Stands .text s.toList := hword _ List.mem_cons_self
    exact ⟨[_], _, hs.scan_append hrest (fun _ => htext rfl) offset,
      operand_text String.ofList_toList⟩
  | .cell r =>
    have hr : r.IsCell := hword (.cell r) List.mem_cons_self
    refine ⟨[_], _, (stands_toChars hr).scan_append hrest (fun hkind => by cases hkind) offset,
      .reference rfl ?_⟩
    rw [String.toList_ofList, Reference.ofChars?_toChars hr]
  | .operation left op right =>
    simp only [isLegible, Bool.and_eq_true, Bool.not_eq_true'] at h
    obtain ⟨⟨⟨hleft, hnottext⟩, hright⟩, hkeyword⟩ := h
    have hwords := List.forall_mem_append.1 hword
    obtain ⟨ts, offset₁, hscan, hread⟩ := scan_chars hwords.1 hleft (offset + 1)
      (breaks_operator op (right.chars ++ ')' :: rest)) (fun htext => by simp [htext] at hnottext)
    obtain ⟨ts', offset₂, hscan', hread'⟩ := scan_chars hwords.2 hright
      (offset₁ + 1) (breaks_of_stops (stops_rightParen rest)) fun _ => stops_rightParen rest
    have hrow : scan offset true ((operation left op right).chars ++ rest) =
        ⟨.leftParen, "(", offset⟩ :: ((ts ++ ⟨.operator, op.symbol.toString, offset₁⟩ :: ts') ++
          [⟨.rightParen, ")", offset₂⟩]) ++ scan (offset₂ + 1) false rest := by
      simp only [chars, List.cons_append, List.append_assoc, List.nil_append, scan_leftParen, hscan,
        scan_operator_chars hkeyword, hscan', scan_rightParen]
    exact ⟨_, _, hrow, .group rfl (.operation (.operand hread) rfl (ofSymbol?_symbol op) hread')
      rfl⟩
  | .call f [] =>
    have hrow : scan offset true ((call f []).chars ++ rest) =
        [⟨.function, String.ofList ('=' :: f.name.toList), offset⟩,
          ⟨.leftParen, "(", offset + byteCount ('=' :: f.name.toList)⟩,
          ⟨.rightParen, ")", offset + byteCount ('=' :: f.name.toList) + 1⟩] ++
        scan (offset + byteCount ('=' :: f.name.toList) + 1 + 1) false rest := by
      simp only [chars, List.cons_append, List.append_assoc, List.nil_append, scan_keyword,
        scan_leftParen, scan_rightParen]
    exact ⟨_, _, hrow, .emptyCall rfl (ofName?_name f) rfl rfl⟩
  | .call f (arg :: args) =>
    simp only [isLegible, areLegible, Bool.and_eq_true] at h
    have hwords := List.forall_mem_append.1 hword
    obtain ⟨ts, offset₁, hscan, hread⟩ := scan_chars hwords.1 h.1
      (offset + byteCount ('=' :: f.name.toList) + 1)
      (breaks_of_stops (stops_charsOfArgs args rest)) fun _ => stops_charsOfArgs args rest
    obtain ⟨ts', offset₂, hscan', hreads⟩ := scan_charsOfArgs hwords.2 h.2 offset₁ rest
    have hrow : scan offset true ((call f (arg :: args)).chars ++ rest) =
        ⟨.function, String.ofList ('=' :: f.name.toList), offset⟩ ::
          ⟨.leftParen, "(", offset + byteCount ('=' :: f.name.toList)⟩ ::
          ((ts ++ ts') ++ [⟨.rightParen, ")", offset₂⟩]) ++ scan (offset₂ + 1) false rest := by
      simp only [chars, List.cons_append, List.append_assoc, List.nil_append, scan_keyword,
        scan_leftParen, hscan, hscan', scan_rightParen]
    exact ⟨_, _, hrow, .call rfl (ofName?_name f) rfl
      (hreads (.single (.expression (.operand hread)))) rfl⟩

/-- Legible arguments are read back one after another. -/
theorem scan_charsOfArgs {args : List Expr} (hword : ∀ l ∈ leavesOfArgs args, l.IsWord)
    (h : areLegible args = true) (offset : Nat) (rest : List Char) :
    ∃ ts offset', scan offset false (charsOfArgs args ++ ')' :: rest) =
        ts ++ scan offset' false (')' :: rest) ∧
      ∀ {ts₀ args₀}, Arguments ts₀ args₀ → Arguments (ts₀ ++ ts) (args₀ ++ args) := by
  match args with
  | [] => exact ⟨[], offset, rfl, fun h => by simpa using h⟩
  | arg :: args =>
    simp only [areLegible, Bool.and_eq_true] at h
    have hwords := List.forall_mem_append.1 hword
    obtain ⟨ts, offset₁, hscan, hread⟩ := scan_chars hwords.1 h.1 (offset + 1)
      (breaks_of_stops (stops_charsOfArgs args rest)) fun _ => stops_charsOfArgs args rest
    obtain ⟨ts', offset₂, hscan', hreads⟩ := scan_charsOfArgs hwords.2 h.2 offset₁ rest
    refine ⟨⟨.comma, ",", offset⟩ :: (ts ++ ts'), offset₂, ?_, fun hargs => ?_⟩
    · simp only [charsOfArgs, List.cons_append, List.append_assoc, scan_comma, hscan, hscan']
    · simpa using hreads (.more hargs rfl (.expression (.operand hread)))

end

theorem exists_scan_of_isTextChar {c : Char} {cs : List Char} {signed : Bool}
    (htext : isTextChar c = true) (hdigit : c.isDigit = false) (hoperator : isOperator c = false)
    (hdollar : c ≠ '$') (offset : Nat) :
    ∃ t ts, scan offset signed (c :: cs) = t :: ts ∧ t.kind = .text := by
  have hspecial : special? signed c cs = none := by
    simp only [isTextChar, Bool.and_eq_true, bne_iff_ne] at htext
    rw [special?_of_mark hdigit hoperator, if_neg htext.1.1.2, if_neg htext.1.2,
      cells?_cons_of_ne hdollar, if_neg htext.2]
    rfl
  have hlead : lead signed c cs = (.text, (cs.takeWhile isTextChar).length) := by
    rw [lead_eq, hspecial, Option.getD_none]
  exact ⟨_, _, scan_of_lead (isBlank_of_isTextChar htext) hlead offset, rfl⟩

/-- A number that is not finite is a word, behind a sign or not. -/
theorem misread_number {x : Float} (h : x.isFinite = false) (offset : Nat) (rest : List Char)
    (ls : List Expr) :
    Misread (.number x :: ls) (scan offset true ((Decimal.text x).toList ++ rest)) := by
  have hword : ∀ {c cs offset}, c = 'N' ∨ c = 'i' →
      Misread (.number x :: ls) (scan offset true (c :: cs)) := fun {c cs offset} hc => by
    obtain ⟨t, ts, hscan, hkind⟩ :
        ∃ t ts, scan offset true (c :: cs) = t :: ts ∧ t.kind = .text := by
      rcases hc with rfl | rfl <;>
        exact exists_scan_of_isTextChar (by decide) (by decide) (by decide) (by decide) offset
    have hleaf : t.leaves = [.text t.text] := by simp [Token.leaves, hkind]
    rw [hscan]
    exact .leaf hleaf rfl
  rcases Decimal.text_of_not_isFinite h with h | h | h
  · rw [h]
    exact hword (.inl rfl)
  · have hspecial : special? true '-' ('i' :: 'n' :: 'f' :: rest) = some (.operator, 0) := by
      simp [special?, split_fst, Decimal.splitUnsigned, Char.isDigit, isOperator]
    rw [h]
    show Misread _ (scan offset true ('-' :: 'i' :: 'n' :: 'f' :: rest))
    rw [scan_of_special? (by decide) hspecial]
    exact .skip rfl (hword (.inr rfl))
  · rw [h]
    exact hword (.inr rfl)

/-- A text takes in the operator behind it. -/
theorem misread_text {s : String} (hs : Stands .text s.toList) (op : Operator) (offset : Nat)
    (rest : List Char) (ls : List Expr) :
    Misread (.text s :: ls) (scan offset true (s.toList ++ op.symbol :: rest)) := by
  have hop : isTextChar op.symbol = true := by
    cases op <;> decide
  obtain ⟨more, ts, hscan⟩ := hs.scan_text (breaks_operator op rest) hop offset
  rw [hscan]
  have hne : String.ofList (s.toList ++ op.symbol :: more) ≠ s := fun heq => by
    simpa using congrArg (·.toList.length) heq
  refine .leaf rfl ?_
  rw [same, beq_eq_false_iff_ne]
  exact hne

/-- An equals sign and the name of a function are a keyword, which calls nothing here. -/
theorem misread_keyword {s : String} (hs : Stands .text s.toList)
    (hkeyword : (functionLength? s.toList).isSome) (signed : Bool) (offset : Nat) {rest : List Char}
    (hrest : ∀ c ∈ rest.head?, c = ')') (ls : List Expr) :
    Misread ls (scan offset signed ('=' :: (s.toList ++ rest))) := by
  obtain ⟨n, hn⟩ := Option.isSome_iff_exists.1 hkeyword
  have hbreaks : Breaks rest := breaks_of_stops fun c hc => by
    rw [hrest c hc]
    rfl
  have hnext : ∀ c ∈ ((s.toList ++ rest).drop n).head?, Text.isBlank c = false ∧ c ≠ '(' := by
    intro c hc
    rw [List.drop_append_of_le_length (functionLength?_le hn), List.head?_append] at hc
    have hc : c ∈ s.toList ∨ c = ')' := by
      cases hhead : (s.toList.drop n).head? with
      | none =>
        rw [hhead] at hc
        exact .inr (hrest c hc)
      | some d =>
        rw [hhead] at hc
        obtain rfl := Option.some.inj hc
        exact .inl (List.mem_of_mem_drop (List.mem_of_mem_head? hhead))
    rcases hc with hc | rfl
    · have htext := hs.forall_isTextChar c hc
      refine ⟨isBlank_of_isTextChar htext, ?_⟩
      rintro rfl
      exact absurd htext (by decide)
    · decide
  rw [scan_of_special? (by decide) (special?_keyword ((functionLength?_append hbreaks).trans hn))]
  exact .keyword rfl fun t ht => kind_ne_leftParen_of_mem_head? hnext ht

mutual

/-- **An expression that is not legible is misread**, whatever follows. -/
theorem misread_chars {e : Expr} (hword : ∀ l ∈ e.leaves, l.IsWord) (h : e.isLegible = false)
    (offset : Nat) (rest : List Char) (ls : List Expr) :
    Misread (e.leaves ++ ls) (scan offset true (e.chars ++ rest)) := by
  match e with
  | .number x => exact misread_number h offset rest ls
  | .text s => simp [isLegible] at h
  | .cell r => simp [isLegible] at h
  | .operation left op right =>
    have hwords := List.forall_mem_append.1 hword
    simp only [chars, leaves, List.cons_append, List.append_assoc, List.nil_append, scan_leftParen]
    refine .skip rfl ?_
    cases hleft : left.isLegible with
    | false => exact misread_chars hwords.1 hleft _ _ (right.leaves ++ ls)
    | true =>
      cases htext : left.isText with
      | true =>
        obtain ⟨s, rfl⟩ := exists_eq_text_of_isText htext
        exact misread_text (hwords.1 _ List.mem_cons_self) op _ _ _
      | false =>
        obtain ⟨ts, offset₁, hscan, hread⟩ := scan_chars hwords.1 hleft (offset + 1)
          (breaks_operator op (right.chars ++ ')' :: rest)) (fun h => by simp [h] at htext)
        rw [hscan]
        refine .after hread ?_
        cases hkeyword : op == .eq && right.isKeyword with
        | true =>
          rw [Bool.and_eq_true, beq_iff_eq] at hkeyword
          obtain ⟨rfl, hkeyword⟩ := hkeyword
          obtain ⟨s, rfl⟩ := exists_eq_text_of_isKeyword hkeyword
          exact misread_keyword (hwords.2 _ List.mem_cons_self) hkeyword _ _ (by simp) _
        | false =>
          have hright : right.isLegible = false := by simp_all [isLegible]
          rw [scan_operator_chars hkeyword]
          exact .skip rfl (misread_chars hwords.2 hright _ _ ls)
  | .call f [] => simp [isLegible, areLegible] at h
  | .call f (arg :: args) =>
    have hwords := List.forall_mem_append.1 hword
    simp only [chars, leaves, leavesOfArgs, List.cons_append, List.append_assoc, List.nil_append,
      scan_keyword, scan_leftParen]
    refine .skip rfl (.skip rfl ?_)
    cases harg : arg.isLegible with
    | false => exact misread_chars hwords.1 harg _ _ (leavesOfArgs args ++ ls)
    | true =>
      obtain ⟨ts, offset₁, hscan, hread⟩ := scan_chars hwords.1 harg
        (offset + byteCount ('=' :: f.name.toList) + 1)
        (breaks_of_stops (stops_charsOfArgs args rest)) fun _ => stops_charsOfArgs args rest
      rw [hscan]
      refine .after hread (misread_charsOfArgs hwords.2 ?_ offset₁ rest ls)
      simpa [isLegible, areLegible, harg] using h

theorem misread_charsOfArgs {args : List Expr} (hword : ∀ l ∈ leavesOfArgs args, l.IsWord)
    (h : areLegible args = false) (offset : Nat) (rest : List Char) (ls : List Expr) :
    Misread (leavesOfArgs args ++ ls) (scan offset false (charsOfArgs args ++ ')' :: rest)) := by
  match args with
  | [] => simp [areLegible] at h
  | arg :: args =>
    have hwords := List.forall_mem_append.1 hword
    simp only [charsOfArgs, leavesOfArgs, List.cons_append, List.append_assoc, scan_comma]
    refine .skip rfl ?_
    cases harg : arg.isLegible with
    | false => exact misread_chars hwords.1 harg _ _ (leavesOfArgs args ++ ls)
    | true =>
      obtain ⟨ts, offset₁, hscan, hread⟩ := scan_chars hwords.1 harg (offset + 1)
        (breaks_of_stops (stops_charsOfArgs args rest)) fun _ => stops_charsOfArgs args rest
      rw [hscan]
      refine .after hread (misread_charsOfArgs hwords.2 ?_ offset₁ rest ls)
      simpa [areLegible, harg] using h

end

end Expr

/-! ### What has been read -/

namespace Grammar

theorem isWord_of_mem_leaves {offset : Nat} {signed : Bool} {cs : List Char} {l : Expr}
    (ht : t ∈ scan offset signed cs) (hl : l ∈ t.leaves) : l.IsWord := by
  unfold Token.leaves at hl
  split at hl
  · obtain rfl := List.mem_singleton.1 hl
    trivial
  · obtain rfl := List.mem_singleton.1 hl
    exact stands_of_mem_scan ht ‹_›
  · simp only [Option.mem_toList, Option.map_eq_some_iff] at hl
    obtain ⟨r, hr, rfl⟩ := hl
    exact Reference.isCell_of_ofChars? hr
  · obtain ⟨r, hr, rfl⟩ := List.mem_map.1 hl
    cases hcells : Reading.rangeCells? t.text.toList with
    | none => simp [hcells] at hr
    | some cells =>
      obtain ⟨_, _, _, _, -, hfirst, hsecond, hlists, -⟩ :=
        Reading.rangeCells?_eq_some_iff.1 hcells
      rw [hcells, Option.getD_some, hlists.eq_rectangle] at hr
      exact Reference.isCell_of_mem_rectangle (Reference.isCell_of_ofChars? hfirst)
        (Reference.isCell_of_ofChars? hsecond) hr
  · simp at hl

theorem isWord_of_sentence {offset : Nat} {signed : Bool} {cs : List Char}
    (h : Grammar.Sentence (scan offset signed cs) e) : ∀ l ∈ e.leaves, l.IsWord := by
  rw [← (tells_of_sentence h).leaves]
  intro l hl
  obtain ⟨t, ht, hl⟩ := List.mem_flatMap.1 hl
  exact isWord_of_mem_leaves ht hl

end Grammar

namespace Term

/-- Whether the text of a term reads as the term. -/
def isLegible : Term → Bool
  | .formula e => e.isLegible && !e.isKeyword
  | .bare e => e.isLegible

/-- The characters of a formula's text. A call has an equals sign of its own. -/
theorem toList_render_formula (e : Expr) :
    (Term.formula e).render.toList = e.chars ∧ (∃ f args, e = .call f args) ∨
      (Term.formula e).render.toList = '=' :: e.chars := by
  cases e with
  | call f args => exact .inl ⟨by simp [render, Expr.render, Expr.toList_write], f, args, rfl⟩
  | _ => exact .inr (by simp [render, Expr.toList_write])

theorem isFormulaText_render_formula (e : Expr) :
    isFormulaText (Term.formula e).render = true := by
  rcases toList_render_formula e with ⟨hrender, f, args, rfl⟩ | hrender
  · rw [isFormulaText, hrender]
    cases args <;> rfl
  · rw [isFormulaText, hrender]
    rfl

theorem scan_equals (h : e.isKeyword = false) :
    scan 0 true ('=' :: e.chars) = ⟨.operator, "=", 0⟩ :: scan 1 true e.chars := by
  have hkeyword : functionLength? e.chars = none := by
    simpa using Expr.functionLength?_chars h breaks_nil
  exact @scan_operator true _ .eq (fun _ => hkeyword) (fun _ => rfl) 0

/-- **A legible formula is read back**, the signs of its zeros with it. -/
theorem ofString_render_of_isLegible (hword : ∀ l ∈ e.leaves, l.IsWord)
    (h : (Term.formula e).isLegible = true) :
    Term.ofString (Term.formula e).render = .ok (.formula e) := by
  simp only [isLegible, Bool.and_eq_true, Bool.not_eq_true'] at h
  have hread : ∀ offset, Expression (scan offset true e.chars) e := by
    intro offset
    obtain ⟨ts, offset', hscan, hread⟩ :=
      Expr.scan_chars hword h.1 offset breaks_nil fun _ c hc => by cases hc
    rw [List.append_nil, scan, List.append_nil] at hscan
    exact .operand (hscan ▸ hread)
  refine (ofString_eq_ok_iff_derives (isFormulaText_render_formula e)).2 ⟨e, rfl, ?_⟩
  rw [Token.ofString]
  rcases toList_render_formula e with ⟨hrender, -⟩ | hrender
  · rw [hrender]
    exact .bare (hread 0)
  · rw [hrender, scan_equals h.2]
    exact .equals rfl rfl (hread 1)

theorem misread_render (hword : ∀ l ∈ e.leaves, l.IsWord)
    (h : (Term.formula e).isLegible = false) :
    Misread e.leaves (Token.ofString (Term.formula e).render) := by
  have hmisread : ∀ offset, e.isLegible = false → Misread e.leaves (scan offset true e.chars) :=
    fun offset h => by simpa using Expr.misread_chars hword h offset [] []
  rw [Token.ofString]
  rcases toList_render_formula e with ⟨hrender, f, args, rfl⟩ | hrender
  · rw [hrender]
    exact hmisread 0 (by simpa [isLegible, Expr.isKeyword] using h)
  · rw [hrender]
    cases hkeyword : e.isKeyword with
    | true =>
      obtain ⟨s, rfl⟩ := Expr.exists_eq_text_of_isKeyword hkeyword
      have hnothing : ∀ c ∈ ([] : List Char).head?, c = ')' := by simp
      simpa [Expr.chars] using Expr.misread_keyword (hword _ List.mem_cons_self) hkeyword true 0
        hnothing (Expr.text s).leaves
    | false =>
      rw [scan_equals hkeyword]
      exact .skip rfl (hmisread 1 (by simpa [isLegible, hkeyword] using h))

/-- A formula's text reads as the formula just when the formula is legible. -/
theorem formula_reads_back_iff (hword : ∀ l ∈ e.leaves, l.IsWord) :
    (∃ t, Term.ofString (Term.formula e).render = .ok t ∧ t.same (.formula e) = true) ↔
      (Term.formula e).isLegible = true := by
  constructor
  · rintro ⟨t, hback, hsame⟩
    obtain ⟨e', rfl, hread⟩ :=
      (ofString_eq_ok_iff_derives (isFormulaText_render_formula e)).1 hback
    by_contra hlegible
    have hmisread := misread_render hword (Bool.eq_false_of_not_eq_true hlegible)
    have hdiffer := hmisread.sameArgs_eq_false (tells_of_sentence hread)
    rw [Expr.sameArgs_leaves hsame] at hdiffer
    exact Bool.noConfusion hdiffer
  · intro hlegible
    have hlegible' : e.isLegible = true := (Bool.and_eq_true _ _ ▸ hlegible).1
    exact ⟨_, ofString_render_of_isLegible hword hlegible, Expr.same_self hlegible'⟩

/-! ### Bare terms -/

theorem ofString_of_not_isFormulaText {s : String} (h : isFormulaText s = false) :
    Term.ofString s = Term.literal s := by
  rw [Term.ofString, h]
  rfl

/-- What a text that is no formula is read as. -/
theorem literal_cases {s : String} {t : Term} (h : Term.literal s = .ok t) :
    (∃ x, t = .bare (.number x)) ∨ (∃ r, t = .bare (.cell r) ∧ r.IsCell) ∨
      t = .bare (.text (Text.trimmed s)) ∧
        ∀ t', Token.ofString s = [t'] → t'.kind ≠ .number ∧ t'.kind ≠ .reference := by
  unfold Term.literal at h
  split at h
  · rename_i t' htokens
    split at h
    · exact .inl ⟨_, (Except.ok.inj h).symm⟩
    · split at h
      · rename_i r hr
        exact .inr (.inl ⟨r, (Except.ok.inj h).symm, Reference.isCell_of_ofChars? hr⟩)
      · simp at h
    · refine .inr (.inr ⟨(Except.ok.inj h).symm, ?_⟩)
      rintro t'' ht''
      obtain rfl := (List.cons.inj (htokens.symm.trans ht'')).1
      exact ⟨‹_›, ‹_›⟩
  · rename_i hmany
    exact .inr (.inr ⟨(Except.ok.inj h).symm, fun t' ht' => (hmany t' ht').elim⟩)

theorem not_isFormulaText {s : String} {c : Char} {cs : List Char} (hs : s.toList = c :: cs)
    (htext : isTextChar c = true) (hequals : c ≠ '=') : isFormulaText s = false := by
  simp [isFormulaText, hs, Text.trimStart, isBlank_of_isTextChar htext, hequals]

theorem ofString_of_stands {s : String} {kind : Kind} (h : Stands kind s.toList) :
    Token.ofString s = [⟨kind, s, 0⟩] := by
  have hscan := h.scan_append breaks_nil (fun _ c hc => by cases hc) 0
  rwa [List.append_nil, scan, String.ofList_toList] at hscan

theorem not_isFormulaText_text (x : Float) : isFormulaText (Decimal.text x) = false := by
  obtain ⟨c, cs, hcs, hc⟩ := Decimal.exists_cons_text x
  refine not_isFormulaText hcs ?_ ?_
  · rcases hc with hc | hc
    · exact isTextChar_of_goesOn (by simp [goesOn, Char.isAlphanum, hc])
    · simp only [List.mem_cons, List.not_mem_nil, or_false] at hc
      rcases hc with rfl | rfl | rfl <;> decide
  · rintro rfl
    exact absurd hc (by decide)

/-- A bare number reads back just when it is finite. -/
theorem number_reads_back_iff (x : Float) :
    (∃ t, Term.ofString (Term.bare (.number x)).render = .ok t ∧
      t.same (.bare (.number x)) = true) ↔ x.isFinite = true := by
  have hrender : (Term.bare (.number x)).render = Decimal.text x := by
    simp [render, Expr.render, Expr.write]
  rw [hrender, ofString_of_not_isFormulaText (not_isFormulaText_text x), Term.literal]
  cases hfinite : x.isFinite with
  | true =>
    rw [ofString_of_stands (stands_text hfinite)]
    exact iff_of_true ⟨_, rfl, Decimal.toFloat_ofNumeral_text hfinite⟩ rfl
  | false =>
    have hnan : Token.ofString "NaN" = [⟨.text, "NaN", 0⟩] := by decide +kernel
    have hminus : Token.ofString "-inf" = [⟨.operator, "-", 0⟩, ⟨.text, "inf", 1⟩] := by
      decide +kernel
    have hinf : Token.ofString "inf" = [⟨.text, "inf", 0⟩] := by decide +kernel
    refine iff_of_false ?_ Bool.noConfusion
    rcases Decimal.text_of_not_isFinite hfinite with h | h | h <;>
      simp [h, hnan, hminus, hinf, same, Expr.same]

theorem cell_reads_back {r : Reference} (hr : r.IsCell) :
    Term.ofString (Term.bare (.cell r)).render = .ok (.bare (.cell r)) := by
  have hrender : (Term.bare (.cell r)).render = r.toString := by
    simp [render, Expr.render, Expr.write]
  have hchars : r.toString.toList = r.toChars := String.toList_ofList
  have hstands : Stands .reference r.toString.toList := hchars ▸ stands_toChars hr
  have hbare : isFormulaText r.toString = false :=
    not_isFormulaText hchars (by decide) (by decide)
  rw [hrender, ofString_of_not_isFormulaText hbare, Term.literal, ofString_of_stands hstands]
  simp only [hchars, Reference.ofChars?_toChars hr]

/-- A text without white space around it is its own rendering. -/
theorem literal_trimmed {s : String}
    (h : ∀ t, Token.ofString s = [t] → t.kind ≠ .number ∧ t.kind ≠ .reference) :
    Term.literal (Text.trimmed s) = .ok (.bare (.text (Text.trimmed s))) := by
  have hlexemes := map_lexeme_ofString_trimmed s
  unfold Term.literal
  rw [Text.trimmed_trimmed]
  split
  · rename_i t htokens
    rw [htokens] at hlexemes
    obtain ⟨t', ht', hlexeme⟩ := List.map_eq_singleton_iff.1 hlexemes.symm
    have hkind : t'.kind = t.kind := congrArg Prod.fst hlexeme
    obtain ⟨hnumber, hreference⟩ := h t' ht'
    rw [hkind] at hnumber hreference
    split
    · exact absurd ‹_› hnumber
    · exact absurd ‹_› hreference
    · rfl
  · rfl

theorem text_reads_back {s : String} (hbare : isFormulaText s = false)
    (h : ∀ t, Token.ofString s = [t] → t.kind ≠ .number ∧ t.kind ≠ .reference) :
    Term.ofString (Term.bare (.text (Text.trimmed s))).render =
      .ok (.bare (.text (Text.trimmed s))) := by
  have hrender : (Term.bare (.text (Text.trimmed s))).render = Text.trimmed s := by
    simp [render, Expr.render, Expr.write]
  have hbare' : isFormulaText (Text.trimmed s) = false := by
    obtain ⟨rest, hrest⟩ := Text.trim_isPrefix s.toList
    rw [isFormulaText, Text.trimmed, String.toList_ofList, Text.trimStart_trim]
    rw [isFormulaText, ← hrest] at hbare
    cases htrim : Text.trim s.toList with
    | nil => rfl
    | cons c cs => simpa [htrim] using hbare
  rw [hrender, ofString_of_not_isFormulaText hbare', literal_trimmed h]

/-! ### Renderings -/

/-- **A rendering reads back just when the term is legible.** -/
theorem reads_back_iff_isLegible {s : String} {t : Term} (h : Term.ofString s = .ok t) :
    (∃ t', Term.ofString t.render = .ok t' ∧ t'.same t = true) ↔ t.isLegible = true := by
  cases hformula : isFormulaText s with
  | true =>
    obtain ⟨e, rfl, hread⟩ := (ofString_eq_ok_iff_derives hformula).1 h
    exact formula_reads_back_iff (isWord_of_sentence hread)
  | false =>
    rw [ofString_of_not_isFormulaText hformula] at h
    rcases literal_cases h with ⟨x, rfl⟩ | ⟨r, rfl, hr⟩ | ⟨rfl, htokens⟩
    · exact number_reads_back_iff x
    · exact iff_of_true ⟨_, cell_reads_back hr, by simp [same, Expr.same]⟩ rfl
    · exact iff_of_true ⟨_, text_reads_back hformula htokens, by simp [same, Expr.same]⟩ rfl

/-- A text may stand behind an operator. -/
theorem reads_back_difference :
    Term.ofString "= $A1 - b" = .ok (.formula (.operation (.cell ⟨1, 1⟩) .sub (.text "b"))) ∧
      ∃ t, Term.ofString (Term.formula (.operation (.cell ⟨1, 1⟩) .sub (.text "b"))).render =
        .ok t ∧ t.same (.formula (.operation (.cell ⟨1, 1⟩) .sub (.text "b"))) = true := by
  have htokens : Token.ofString "= $A1 - b" =
      [⟨.operator, "=", 0⟩, ⟨.reference, "$A1", 2⟩, ⟨.operator, "-", 6⟩, ⟨.text, "b", 8⟩] := by
    decide +kernel
  have hread : Term.ofString "= $A1 - b" =
      .ok (.formula (.operation (.cell ⟨1, 1⟩) .sub (.text "b"))) := by
    refine (ofString_eq_ok_iff_derives (by decide)).2 ⟨_, rfl, ?_⟩
    rw [htokens]
    exact .equals rfl rfl
      (.operation (.operand (.reference rfl (by decide))) rfl (by decide) (.text rfl))
  exact ⟨hread, (reads_back_iff_isLegible hread).2 rfl⟩

/-- A text in front of an operator, set off by a blank, takes the operator in when the blank is
gone. -/
theorem not_forall_reads_back : ¬∀ s t, Term.ofString s = .ok t →
    ∃ t', Term.ofString t.render = .ok t' ∧ t'.same t = true := by
  have htokens : Token.ofString "=a +b" =
      [⟨.operator, "=", 0⟩, ⟨.text, "a", 1⟩, ⟨.operator, "+", 3⟩, ⟨.text, "b", 4⟩] := by
    decide +kernel
  have hread : Term.ofString "=a +b" =
      .ok (.formula (.operation (.text "a") .add (.text "b"))) := by
    refine (ofString_eq_ok_iff_derives (by decide)).2 ⟨_, rfl, ?_⟩
    rw [htokens]
    exact .equals rfl rfl (.operation (.operand (.text rfl)) rfl (by decide) (.text rfl))
  have htokens' : Token.ofString "=(a+b)" =
      [⟨.operator, "=", 0⟩, ⟨.leftParen, "(", 1⟩, ⟨.text, "a+b", 2⟩, ⟨.rightParen, ")", 5⟩] := by
    decide +kernel
  have hread' : Term.ofString "=(a+b)" = .ok (.formula (.text "a+b")) := by
    refine (ofString_eq_ok_iff_derives (by decide)).2 ⟨_, rfl, ?_⟩
    rw [htokens']
    exact .equals rfl rfl (.operand (.group rfl (.operand (.text rfl)) rfl))
  have hrender : (Term.formula (.operation (.text "a") .add (.text "b"))).render = "=(a+b)" := by
    decide +kernel
  intro h
  obtain ⟨t, hback, hsame⟩ := h _ _ hread
  rw [hrender, hread'] at hback
  obtain rfl := Except.ok.inj hback
  exact Bool.noConfusion hsame

end Term

end Formula

end SharedSheet
