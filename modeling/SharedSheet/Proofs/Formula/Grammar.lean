import SharedSheet.Formula.Parser
import SharedSheet.Proofs.Reference.Rectangle

/-!
# The grammar of formulas

The grammar is written down here as a relation between rows of tokens and what they denote, without
a word on how a row is read. A reading goes from left to right, keeps a stack of what is still open,
and never looks back. The two are the same: a row is read just when the grammar derives it, and what
is read is what the derivation denotes.

That what is derived is read is an induction over the derivation, with what is open around it and
what follows it left free. The converse is about readings that have not come to their end. Each part
of a `Reading` stands for tokens that were read, and `Reading.Spans` says for which. One more token
keeps that true, whatever it is, and when nothing is open any more it is the derivation.

Operators have one precedence, so that `Expression` is left recursive: its last operator is the root
of what it denotes. A range denotes a list of cells, which `Reference.Lists` says by the cells that
are in it and by their order.

## Main definitions

* `Grammar.Operand`, `Grammar.Expression`, `Grammar.Argument`, `Grammar.Arguments`,
  `Grammar.Sentence` — the grammar
* `Reading.Spans` — the tokens that a reading stands for

## Main results

* `Grammar.Expression.run` — what is derived is read
* `Reading.Spans.next`, `Reading.Spans.run` — what has been read was derived
* `Expr.ofTokens_eq_ok_iff` — a row of tokens is read just when the grammar derives it
* `Term.ofString_eq_ok_iff_of_isFormulaText` — the same for texts, with the error of all others
-/

namespace SharedSheet

/-- What spells a number consists of digits. -/
theorem Decimal.isDigit_of_word? {cs : List Char} {n : UInt32} (h : word? cs = some n) :
    ∀ c ∈ cs, c.isDigit = true := by
  have hnatural : (natural? cs).isSome := by
    unfold word? at h
    split at h <;> simp_all
  rw [natural?, Option.isSome_ite, Bool.and_eq_true, List.all_eq_true] at hnatural
  exact hnatural.2

/-- A text that spells a reference has no colon, so that the colon of a range stands between its
corners. -/
theorem Reference.not_mem_of_ofChars? {cs : List Char} {r : Reference}
    (h : ofChars? cs = some r) : ':' ∉ cs := by
  have hspelled : ∀ {cs : List Char} {n : UInt32},
      Decimal.word? (cs.dropWhile Column.isLetter) = some n → ':' ∉ cs := fun {cs n} hn hc => by
    rw [← List.takeWhile_append_dropWhile (p := Column.isLetter) (l := cs), List.mem_append] at hc
    rcases hc with hc | hc
    · exact absurd (List.all_eq_true.1 List.all_takeWhile _ hc) (by decide)
    · exact absurd (Decimal.isDigit_of_word? hn _ hc) (by decide)
  simp only [ofChars?] at h
  split at h
  · rename_i hword
    have := hspelled hword
    split at this
    · simpa using this
    · exact this
  · simp at h

namespace Formula

/-! ### The grammar -/

namespace Grammar

mutual

/-- A number, a text, a reference, a call, or an expression in parentheses. -/
inductive Operand : List Token → Expr → Prop
  | number {t : Token} : t.kind = .number →
      Operand [t] (.number (Decimal.ofNumeral t.text.toList).toFloat)
  | text {t : Token} : t.kind = .text → Operand [t] (.text t.text)
  | reference {t : Token} {r : Reference} : t.kind = .reference →
      Reference.ofChars? t.text.toList = some r → Operand [t] (.cell r)
  /-- Parentheses group and denote nothing. -/
  | group {opening closing : Token} {ts : List Token} {e : Expr} : opening.kind = .leftParen →
      Expression ts e → closing.kind = .rightParen → Operand (opening :: (ts ++ [closing])) e
  /-- The equals sign of a call is part of the keyword. -/
  | call {keyword opening closing : Token} {f : Function} {ts : List Token} {args : List Expr} :
      keyword.kind = .function → Function.ofName? keyword.text.toList.tail = some f →
      opening.kind = .leftParen → Arguments ts args → closing.kind = .rightParen →
      Operand (keyword :: opening :: (ts ++ [closing])) (.call f args)
  | emptyCall {keyword opening closing : Token} {f : Function} :
      keyword.kind = .function → Function.ofName? keyword.text.toList.tail = some f →
      opening.kind = .leftParen → closing.kind = .rightParen →
      Operand [keyword, opening, closing] (.call f [])

/-- Operands with operators between them, grouped to the left. -/
inductive Expression : List Token → Expr → Prop
  | operand {ts : List Token} {e : Expr} : Operand ts e → Expression ts e
  | operation {ts ts' : List Token} {sign : Token} {left right : Expr} {op : Operator} :
      Expression ts left → sign.kind = .operator →
      Operator.ofSymbol? sign.text.toList = some op → Operand ts' right →
      Expression (ts ++ sign :: ts') (.operation left op right)

/-- A range, which denotes the cells between its corners row by row, or an expression. -/
inductive Argument : List Token → List Expr → Prop
  | range {t : Token} {first second : List Char} {corner corner' : Reference}
      {cells : List Reference} : t.kind = .range →
      t.text.toList = first ++ ':' :: second → Reference.ofChars? first = some corner →
      Reference.ofChars? second = some corner' → Reference.Lists corner corner' cells →
      cells.length ≤ 65536 → Argument [t] (cells.map .cell)
  | expression {ts : List Token} {e : Expr} : Expression ts e → Argument ts [e]

/-- Arguments with commas between them, at least one. -/
inductive Arguments : List Token → List Expr → Prop
  | single {ts : List Token} {args : List Expr} : Argument ts args → Arguments ts args
  | more {ts ts' : List Token} {comma : Token} {args args' : List Expr} : Arguments ts args →
      comma.kind = .comma → Argument ts' args' → Arguments (ts ++ comma :: ts') (args ++ args')

end

/-- An expression, with or without an equals sign in front. -/
inductive Sentence : List Token → Expr → Prop
  | bare {ts : List Token} {e : Expr} : Expression ts e → Sentence ts e
  | equals {sign : Token} {ts : List Token} {e : Expr} : sign.kind = .operator →
      sign.text = "=" → Expression ts e → Sentence (sign :: ts) e

end Grammar

open Grammar

/-- The cells of a range are those between its corners, if there are not too many. -/
theorem Reading.rangeCells?_eq_some_iff {range : List Char} {cells : List Reference} :
    rangeCells? range = some cells ↔ ∃ first second corner corner',
      range = first ++ ':' :: second ∧ Reference.ofChars? first = some corner ∧
      Reference.ofChars? second = some corner' ∧ Reference.Lists corner corner' cells ∧
      cells.length ≤ 65536 := by
  constructor
  · intro h
    unfold rangeCells? at h
    split at h
    · rename_i corner corner' hfirst hsecond
      refine ⟨_, _, corner, corner', ?_, hfirst, hsecond, Reference.rectangle?_eq_some_iff.1 h⟩
      -- The text that spells the second corner is not empty, so there is a colon.
      cases hdrop : range.dropWhile (· != ':') with
      | nil =>
        rw [hdrop] at hsecond
        simp [Reference.ofChars?, Column.ofLetters?] at hsecond
      | cons c second =>
        have hcolon : c = ':' := by
          have := List.head?_dropWhile_not (· != ':') range
          simpa [hdrop] using this
        have hsplit := List.takeWhile_append_dropWhile (p := (· != ':')) (l := range)
        rw [hdrop, hcolon] at hsplit
        exact hsplit.symm
    · simp at h
  · rintro ⟨first, second, corner, corner', rfl, hfirst, hsecond, hcells⟩
    have hcolon : ∀ c ∈ first, (c != ':') = true := fun c hc =>
      bne_iff_ne.2 fun heq => Reference.not_mem_of_ofChars? hfirst (heq ▸ hc)
    simp only [rangeCells?, List.takeWhile_append_of_pos hcolon,
      List.dropWhile_append_of_pos hcolon, List.takeWhile_cons, List.dropWhile_cons,
      bne_self_eq_false, Bool.false_eq_true, if_false, List.append_nil, List.tail_cons, hfirst,
      hsecond, Reference.rectangle?_eq_some_iff.2 hcells]

/-! ### What is derived is read -/

namespace Grammar

/-- Whether a token of a kind can be the first one of an operand. -/
def startsOperand : Token.Kind → Bool
  | .number | .text | .reference | .function | .leftParen => true
  | _ => false

theorem Operand.exists_first {ts : List Token} {e : Expr} (h : Operand ts e) :
    ∃ t ts', ts = t :: ts' ∧ startsOperand t.kind = true := by
  cases h with
  | number hkind | text hkind | reference hkind | group hkind | call hkind | emptyCall hkind =>
    exact ⟨_, _, rfl, by rw [hkind]; rfl⟩

theorem Expression.exists_first {ts : List Token} {e : Expr} (h : Expression ts e) :
    ∃ t ts', ts = t :: ts' ∧ startsOperand t.kind = true := by
  match h with
  | .operand h => exact h.exists_first
  | .operation h _ _ _ =>
    obtain ⟨t, ts', rfl, ht⟩ := h.exists_first
    exact ⟨t, _, rfl, ht⟩

end Grammar

namespace OpenCall

/-- An open call with further arguments. -/
def extend (c : OpenCall) (args : List Expr) : OpenCall :=
  { c with args := args.reverse ++ c.args }

@[simp] theorem extend_nil (c : OpenCall) : c.extend [] = c := rfl

@[simp] theorem extend_extend (c : OpenCall) (args args' : List Expr) :
    (c.extend args).extend args' = c.extend (args ++ args') := by
  simp [extend]

theorem push_eq_extend (c : OpenCall) (e : Expr) : c.push e = c.extend [e] := rfl

theorem foldl_push (c : OpenCall) (cells : List Reference) :
    cells.foldl (fun c r => c.push (.cell r)) c = c.extend (cells.map .cell) := by
  induction cells generalizing c with
  | nil => rfl
  | cons r cells ih =>
    rw [List.foldl_cons, ih, push_eq_extend, extend_extend, List.map_cons, List.singleton_append]

end OpenCall

namespace Reading

theorem run_cons_of_next {r r' : Reading} {t : Token} (h : r.next t = .ok r') (ts : List Token) :
    r.run (t :: ts) = r'.run ts := by
  rw [run, h]

/-! The first token of an argument is a range, ends a call that has no arguments, or starts an
operand. -/

section

variable {t : Token} (frames : List Frame) (c : OpenCall)

theorem next_argument_of_range {cells : List Reference} (ht : t.kind = .range)
    (hcells : rangeCells? t.text.toList = some cells) (first : Bool) :
    next ⟨frames, .argument c first⟩ t = .ok ⟨frames, .separator (c.extend (cells.map .cell))⟩ := by
  show argument frames c first t = _
  unfold argument
  rw [ht, hcells, ← OpenCall.foldl_push]

theorem next_argument_of_rightParen (ht : t.kind = .rightParen) :
    next ⟨frames, .argument c true⟩ t = .ok ⟨frames, .operator c.close⟩ := by
  show argument frames c true t = _
  unfold argument
  rw [ht]

theorem next_argument_of_startsOperand (ht : startsOperand t.kind = true) (first : Bool) :
    next ⟨frames, .argument c first⟩ t = next ⟨.call c :: frames, .operand none⟩ t := by
  show argument frames c first t = operand (.call c :: frames) .none t
  unfold argument
  split
  · rename_i hrange
    exact absurd ht (by rw [hrange]; decide)
  · rename_i hclosing
    exact absurd ht (by rw [hclosing]; decide)
  · rfl

end

/-- An expression may stand in the place of an argument. -/
theorem run_argument {ts : List Token} {e : Expr} (h : Expression ts e) (frames : List Frame)
    (c : OpenCall) (first : Bool) (rest : List Token) :
    run ⟨frames, .argument c first⟩ (ts ++ rest) =
      run ⟨.call c :: frames, .operand none⟩ (ts ++ rest) := by
  obtain ⟨t, ts, rfl, hstarts⟩ := h.exists_first
  rw [List.cons_append, run, run, next_argument_of_startsOperand frames c hstarts first]

end Reading

namespace Grammar

open Reading

/-- What may follow an argument. -/
def EndsArgument (t : Token) : Prop := t.kind = .comma ∨ t.kind = .rightParen

theorem EndsArgument.next {t : Token} (h : EndsArgument t) (frames : List Frame) (c : OpenCall)
    (e : Expr) :
    Reading.next ⟨.call c :: frames, .operator e⟩ t =
      Reading.next ⟨frames, .separator (c.extend [e])⟩ t := by
  rcases h with h | h <;> simp [Reading.next, operator, h, OpenCall.push_eq_extend]

mutual

/-- **What is derived is read**, whatever is open around it and whatever follows. -/
theorem Operand.run {ts : List Token} {e : Expr} (h : Operand ts e) (frames : List Frame)
    (before : Pending) (rest : List Token) :
    run ⟨frames, .operand before⟩ (ts ++ rest) =
      run ⟨frames, .operator (before.complete e)⟩ rest := by
  match h with
  | .number hkind => exact run_cons_of_next (by simp [next, operand, hkind]) _
  | .text hkind => exact run_cons_of_next (by simp [next, operand, hkind]) _
  | .reference hkind hr => exact run_cons_of_next (by simp [next, operand, hkind, hr]) _
  | @Operand.group opening closing ts e hopening h hclosing =>
    calc run ⟨frames, .operand before⟩ (opening :: (ts ++ [closing]) ++ rest)
        = run ⟨.group before :: frames, .operand none⟩ (ts ++ closing :: rest) := by
          simpa using run_cons_of_next (by simp [next, operand, hopening]) _
      _ = run ⟨.group before :: frames, .operator e⟩ (closing :: rest) := h.run _ _
      _ = run ⟨frames, .operator (before.complete e)⟩ rest :=
          run_cons_of_next (by simp [next, operator, hclosing]) _
  | @Operand.call keyword opening closing f ts args hkeyword hf hopening h hclosing =>
    calc run ⟨frames, .operand before⟩ (keyword :: opening :: (ts ++ [closing]) ++ rest)
        = run ⟨frames, .opening before f⟩ (opening :: (ts ++ closing :: rest)) := by
          simpa using run_cons_of_next (by simp [next, operand, hkeyword, hf]) _
      _ = run ⟨frames, .argument ⟨before, f, []⟩ true⟩ (ts ++ closing :: rest) :=
          run_cons_of_next (by simp [next, hopening]) _
      _ = run ⟨frames, .separator (.extend ⟨before, f, []⟩ args)⟩ (closing :: rest) :=
          h.run _ _ _ (.inr hclosing) _
      _ = run ⟨frames, .operator (before.complete (.call f args))⟩ rest :=
          run_cons_of_next
            (by simp [next, separator, hclosing, OpenCall.close, OpenCall.extend]) _
  | @Operand.emptyCall keyword opening closing f hkeyword hf hopening hclosing =>
    calc run ⟨frames, .operand before⟩ ([keyword, opening, closing] ++ rest)
        = run ⟨frames, .opening before f⟩ (opening :: closing :: rest) :=
          run_cons_of_next (by simp [next, operand, hkeyword, hf]) _
      _ = run ⟨frames, .argument ⟨before, f, []⟩ true⟩ (closing :: rest) :=
          run_cons_of_next (by simp [next, hopening]) _
      _ = run ⟨frames, .operator (before.complete (.call f []))⟩ rest :=
          run_cons_of_next (next_argument_of_rightParen frames _ hclosing) _

theorem Expression.run {ts : List Token} {e : Expr} (h : Expression ts e) (frames : List Frame)
    (rest : List Token) :
    run ⟨frames, .operand none⟩ (ts ++ rest) = run ⟨frames, .operator e⟩ rest := by
  match h with
  | .operand h => exact h.run _ none _
  | @Expression.operation ts ts' sign left right op h hsign hop h' =>
    calc run ⟨frames, .operand none⟩ (ts ++ sign :: ts' ++ rest)
        = run ⟨frames, .operator left⟩ (sign :: (ts' ++ rest)) := by simpa using h.run _ _
      _ = run ⟨frames, .operand (some (left, op))⟩ (ts' ++ rest) :=
          run_cons_of_next (by simp [next, operator, hsign, hop]) _
      _ = run ⟨frames, .operator (.operation left op right)⟩ rest := h'.run _ _ _

theorem Argument.run {ts : List Token} {args : List Expr} (h : Argument ts args)
    (frames : List Frame) (c : OpenCall) (first : Bool) {t : Token} (ht : EndsArgument t)
    (rest : List Token) :
    run ⟨frames, .argument c first⟩ (ts ++ t :: rest) =
      run ⟨frames, .separator (c.extend args)⟩ (t :: rest) := by
  match h with
  | .range hkind htext hfirst hsecond hlists hfew =>
    have hcells := rangeCells?_eq_some_iff.2 ⟨_, _, _, _, htext, hfirst, hsecond, hlists, hfew⟩
    exact run_cons_of_next (next_argument_of_range frames c hkind hcells first) _
  | @Argument.expression ts e h =>
    calc run ⟨frames, .argument c first⟩ (ts ++ t :: rest)
        = run ⟨.call c :: frames, .operand none⟩ (ts ++ t :: rest) := run_argument h _ _ _ _
      _ = run ⟨.call c :: frames, .operator e⟩ (t :: rest) := h.run _ _
      _ = run ⟨frames, .separator (c.extend [e])⟩ (t :: rest) := by
          simp only [Reading.run, ht.next]

theorem Arguments.run {ts : List Token} {args : List Expr} (h : Arguments ts args)
    (frames : List Frame) (c : OpenCall) (first : Bool) {t : Token} (ht : EndsArgument t)
    (rest : List Token) :
    run ⟨frames, .argument c first⟩ (ts ++ t :: rest) =
      run ⟨frames, .separator (c.extend args)⟩ (t :: rest) := by
  match h with
  | .single h => exact h.run _ _ _ ht _
  | @Arguments.more ts ts' comma args args' h hcomma h' =>
    calc run ⟨frames, .argument c first⟩ (ts ++ comma :: ts' ++ t :: rest)
        = run ⟨frames, .separator (c.extend args)⟩ (comma :: (ts' ++ t :: rest)) := by
          simpa using h.run _ _ _ (.inl hcomma) _
      _ = run ⟨frames, .argument (c.extend args) false⟩ (ts' ++ t :: rest) :=
          run_cons_of_next (by simp [next, separator, hcomma]) _
      _ = run ⟨frames, .separator (c.extend (args ++ args'))⟩ (t :: rest) := by
          simpa using h'.run _ (c.extend args) _ ht _

end

end Grammar

/-! ### What is read was derived -/

/-- The tokens of a pending operation: an expression and an operator, or none. -/
inductive Pending.Spans : List Token → Pending → Prop
  | none : Spans [] none
  | some {ts : List Token} {left : Expr} {sign : Token} {op : Operator} : Expression ts left →
      sign.kind = .operator → Operator.ofSymbol? sign.text.toList = some op →
      Spans (ts ++ [sign]) (some (left, op))

theorem Pending.Spans.complete {ts ts' : List Token} {before : Pending} {e : Expr}
    (h : before.Spans ts) (he : Operand ts' e) : Expression (ts ++ ts') (before.complete e) := by
  cases h with
  | none => exact .operand he
  | some hleft hsign hop => simpa [Pending.complete] using Expression.operation hleft hsign hop he

namespace OpenCall

/-- The tokens of a call up to its opening parenthesis. -/
inductive Opened : List Token → OpenCall → Prop
  | mk {ts : List Token} {keyword opening : Token} {before : Pending} {f : Function} :
      before.Spans ts → keyword.kind = .function →
      Function.ofName? keyword.text.toList.tail = some f → opening.kind = .leftParen →
      Opened (ts ++ [keyword, opening]) ⟨before, f, []⟩

/-- The tokens of a call up to the end of an argument. -/
inductive Holds : List Token → OpenCall → Prop
  | mk {ts ts' : List Token} {c : OpenCall} {args : List Expr} : Opened ts c → Arguments ts' args →
      Holds (ts ++ ts') (c.extend args)

/-- The tokens of a call up to a place where an argument starts. -/
inductive Awaits : List Token → OpenCall → Bool → Prop
  | first {ts : List Token} {c : OpenCall} : Opened ts c → Awaits ts c true
  | further {ts : List Token} {c : OpenCall} {comma : Token} : Holds ts c → comma.kind = .comma →
      Awaits (ts ++ [comma]) c false

variable {ts ts' : List Token} {c : OpenCall}

theorem Awaits.extend {first : Bool} {args : List Expr} (h : Awaits ts c first)
    (harg : Argument ts' args) : Holds (ts ++ ts') (c.extend args) := by
  cases h with
  | first hopened => exact .mk hopened (.single harg)
  | further h hcomma =>
    obtain ⟨hopened, hargs⟩ := h
    simpa using Holds.mk hopened (.more hargs hcomma harg)

theorem Opened.close {closing : Token} (h : Opened ts c) (hclosing : closing.kind = .rightParen) :
    Expression (ts ++ [closing]) c.close := by
  obtain ⟨hbefore, hkeyword, hf, hopening⟩ := h
  simpa [OpenCall.close] using hbefore.complete (.emptyCall hkeyword hf hopening hclosing)

theorem Holds.close {closing : Token} (h : Holds ts c) (hclosing : closing.kind = .rightParen) :
    Expression (ts ++ [closing]) c.close := by
  obtain ⟨⟨hbefore, hkeyword, hf, hopening⟩, hargs⟩ := h
  simpa [OpenCall.close, OpenCall.extend] using
    hbefore.complete (.call hkeyword hf hopening hargs hclosing)

end OpenCall

/-- The tokens of the parentheses that are open. -/
inductive Frame.Spans : List Token → List Frame → Prop
  | nil : Spans [] []
  | group {ts ts' : List Token} {frames : List Frame} {before : Pending} {opening : Token} :
      Spans ts frames → before.Spans ts' → opening.kind = .leftParen →
      Spans (ts ++ (ts' ++ [opening])) (.group before :: frames)
  | call {ts ts' : List Token} {frames : List Frame} {c : OpenCall} {first : Bool} :
      Spans ts frames → c.Awaits ts' first → Spans (ts ++ ts') (.call c :: frames)

/-- The tokens that have been read since the last parenthesis that is still open. -/
inductive Place.Spans : List Token → Place → Prop
  | operand {ts : List Token} {before : Pending} : before.Spans ts → Spans ts (.operand before)
  | opening {ts : List Token} {before : Pending} {keyword : Token} {f : Function} :
      before.Spans ts → keyword.kind = .function →
      Function.ofName? keyword.text.toList.tail = some f →
      Spans (ts ++ [keyword]) (.opening before f)
  | argument {ts : List Token} {c : OpenCall} {first : Bool} : c.Awaits ts first →
      Spans ts (.argument c first)
  | separator {ts : List Token} {c : OpenCall} : c.Holds ts → Spans ts (.separator c)
  | operator {ts : List Token} {e : Expr} : Expression ts e → Spans ts (.operator e)

namespace Reading

/-- The tokens that a reading stands for. -/
inductive Spans : List Token → Reading → Prop
  | mk {ts ts' : List Token} {frames : List Frame} {place : Place} : Frame.Spans ts frames →
      place.Spans ts' → Spans (ts ++ ts') ⟨frames, place⟩

variable {ts ts' : List Token} {frames : List Frame} {t : Token} {r : Reading}

theorem Spans.of_append {ts'' : List Token} {place : Place} (hframes : Frame.Spans ts frames)
    (hplace : place.Spans (ts' ++ ts'')) : Spans (ts ++ ts' ++ ts'') ⟨frames, place⟩ := by
  simpa using Spans.mk hframes hplace

theorem spans_operand {before : Pending} (hframes : Frame.Spans ts frames)
    (hbefore : before.Spans ts') (h : operand frames before t = .ok r) :
    Spans (ts ++ ts' ++ [t]) r := by
  have hdone : ∀ {e : Expr}, Operand [t] e →
      Spans (ts ++ ts' ++ [t]) ⟨frames, .operator (before.complete e)⟩ :=
    fun he => .of_append hframes (.operator (hbefore.complete he))
  unfold operand at h
  split at h
  · obtain rfl := Except.ok.inj h
    exact hdone (.number ‹_›)
  · split at h
    · obtain rfl := Except.ok.inj h
      exact hdone (.reference ‹_› ‹_›)
    · simp [refuse] at h
  · obtain rfl := Except.ok.inj h
    exact hdone (.text ‹_›)
  · split at h
    · obtain rfl := Except.ok.inj h
      exact .of_append hframes (.opening hbefore ‹_› ‹_›)
    · simp [refuse] at h
  · obtain rfl := Except.ok.inj h
    simpa using Spans.mk (.group hframes hbefore ‹_›) (.operand .none)
  · simp at h
  · simp [refuse] at h

theorem spans_argument {c : OpenCall} {first : Bool} (hframes : Frame.Spans ts frames)
    (hc : c.Awaits ts' first) (h : argument frames c first t = .ok r) :
    Spans (ts ++ ts' ++ [t]) r := by
  unfold argument at h
  split at h
  · split at h
    · rename_i hkind _ cells hcells
      obtain ⟨_, _, _, _, htext, hfirst, hsecond, hlists, hfew⟩ := rangeCells?_eq_some_iff.1 hcells
      obtain rfl := Except.ok.inj h
      rw [OpenCall.foldl_push]
      exact .of_append hframes
        (.separator (hc.extend (.range hkind htext hfirst hsecond hlists hfew)))
    · simp at h
  · obtain rfl := Except.ok.inj h
    cases hc with
    | first hopened => exact .of_append hframes (.operator (hopened.close ‹_›))
  · simpa using spans_operand (.call hframes hc) .none h

theorem spans_separator {c : OpenCall} (hframes : Frame.Spans ts frames) (hc : c.Holds ts')
    (h : separator frames c t = .ok r) : Spans (ts ++ ts' ++ [t]) r := by
  unfold separator at h
  split at h
  · obtain rfl := Except.ok.inj h
    exact .of_append hframes (.argument (.further hc ‹_›))
  · obtain rfl := Except.ok.inj h
    exact .of_append hframes (.operator (hc.close ‹_›))
  · simp [refuse] at h

theorem spans_operator {e : Expr} (hframes : Frame.Spans ts frames) (he : Expression ts' e)
    (h : operator frames e t = .ok r) : Spans (ts ++ ts' ++ [t]) r := by
  unfold operator at h
  split at h
  · split at h
    · obtain rfl := Except.ok.inj h
      exact .of_append hframes (.operand (.some he ‹_› ‹_›))
    · simp [refuse] at h
  · simp [refuse] at h
  · obtain rfl := Except.ok.inj h
    cases hframes with
    | group hframes hbefore hopening =>
      simpa using Spans.mk hframes (.operator (hbefore.complete (.group hopening he ‹_›)))
  · simp [refuse] at h
  · cases hframes with
    | call hframes hc =>
      simpa using spans_separator hframes (hc.extend (.expression he)) h

/-- **One more token, whatever it is, keeps what a reading stands for.** -/
theorem Spans.next (h : Spans ts r) {r' : Reading} (hnext : r.next t = .ok r') :
    Spans (ts ++ [t]) r' := by
  obtain ⟨hframes, hplace⟩ := h
  cases hplace with
  | operand hbefore => exact spans_operand hframes hbefore hnext
  | opening hbefore hkeyword hf =>
    simp only [Reading.next] at hnext
    split at hnext
    · obtain rfl := Except.ok.inj hnext
      simpa using Spans.mk hframes (.argument (.first (.mk hbefore hkeyword hf ‹_›)))
    · simp [refuse] at hnext
  | argument hc => exact spans_argument hframes hc hnext
  | separator hc => exact spans_separator hframes hc hnext
  | operator he => exact spans_operator hframes he hnext

/-- **What has been read was derived**, as far as the reading has come. -/
theorem Spans.run {r r' : Reading} {ts ts' : List Token} (h : Spans ts r)
    (hrun : r.run ts' = .ok r') : Spans (ts ++ ts') r' := by
  induction ts' generalizing r ts with
  | nil =>
    obtain rfl := Except.ok.inj hrun
    simpa using h
  | cons t ts' ih =>
    simp only [Reading.run] at hrun
    split at hrun
    · rename_i hnext
      simpa using ih (h.next hnext) hrun
    · simp at hrun

/-- A reading with nothing open stands for an expression. -/
theorem Spans.finish {e : Expr} (h : Spans ts r) (hfinish : r.finish = .ok e) :
    Expression ts e := by
  obtain ⟨hframes, hplace⟩ := h
  unfold Reading.finish at hfinish
  split at hfinish <;> try simp at hfinish
  rename_i hplace' hframes'
  subst hplace' hframes' hfinish
  cases hframes
  cases hplace
  simpa

end Reading

/-! ### Formulas -/

/-- A formula is an expression behind the equals sign that it may start with. -/
theorem Grammar.sentence_iff_expression {ts : List Token} {e : Expr} :
    Sentence ts e ↔ Expression (withoutEquals ts) e := by
  constructor
  · intro h
    cases h with
    | bare h =>
      obtain ⟨t, ts', rfl, hstarts⟩ := h.exists_first
      have hkind : t.kind ≠ .operator := fun heq => by simp [heq, startsOperand] at hstarts
      rwa [withoutEquals, if_neg fun hsign => hkind hsign.1]
    | equals hkind htext h => rwa [withoutEquals, if_pos ⟨hkind, htext⟩]
  · intro h
    cases ts with
    | nil => exact .bare h
    | cons t ts =>
      simp only [withoutEquals] at h
      split at h
      · rename_i hsign
        exact .equals hsign.1 hsign.2 h
      · exact .bare h

/-- **A row of tokens is read just when the grammar derives it**, and what is read is what the
derivation denotes. -/
theorem Expr.ofTokens_eq_ok_iff {size : Nat} {ts : List Token} {e : Expr} :
    Expr.ofTokens size ts = .ok e ↔ Sentence ts e := by
  rw [sentence_iff_expression]
  constructor
  · intro h
    unfold Expr.ofTokens at h
    split at h
    · simp at h
    · rename_i r hrun
      split at h
      · rename_i hfinish
        obtain rfl := Except.ok.inj h
        exact ((Reading.Spans.mk .nil (.operand .none)).run hrun).finish hfinish
      · simp at h
  · intro h
    have hread : Reading.start.run (withoutEquals ts) = .ok ⟨[], .operator e⟩ := by
      simpa [Reading.run, Reading.start] using h.run [] []
    rw [Expr.ofTokens, hread]
    rfl

theorem Term.ofString_eq_ok_iff_derives {s : String} {t : Term} (h : isFormulaText s = true) :
    Term.ofString s = .ok t ↔ ∃ e, t = .formula e ∧ Sentence (Token.ofString s) e := by
  simp only [← @Expr.ofTokens_eq_ok_iff s.utf8ByteSize, Term.ofString, h, if_true]
  cases Expr.ofTokens s.utf8ByteSize (Token.ofString s) <;> simp [eq_comm]

/-- **Exactly the grammar is read.** A text that starts with an equals sign is a formula just when
the grammar derives its tokens. The term is what the derivation denotes, and every other such text
is refused. -/
theorem Term.ofString_eq_ok_iff_of_isFormulaText {s : String} (h : isFormulaText s = true) :
    (∀ t, Term.ofString s = .ok t ↔ ∃ e, t = .formula e ∧ Sentence (Token.ofString s) e) ∧
      ((¬∃ e, Sentence (Token.ofString s) e) → ∃ err, Term.ofString s = .error err) := by
  refine ⟨fun t => ofString_eq_ok_iff_derives h, fun hnone => ?_⟩
  cases hread : Term.ofString s with
  | ok t =>
    obtain ⟨e, -, he⟩ := (ofString_eq_ok_iff_derives h).1 hread
    exact (hnone ⟨e, he⟩).elim
  | error err => exact ⟨err, rfl⟩

/-- Operations group to the left, parentheses group what they hold, and a range stands for its cells
from the first one on, whichever corner is given first. -/
theorem Term.ofString_call_behind_operators :
    isFormulaText "= x - 2 * =SUM($B2:$A1, (z), $C3)" = true ∧
      Term.ofString "= x - 2 * =SUM($B2:$A1, (z), $C3)" = .ok (.formula (.operation
        (.operation (.text "x") .sub (.number (Decimal.toFloat ⟨false, 2, 0⟩))) .mul
        (.call .sum [.cell ⟨1, 1⟩, .cell ⟨2, 1⟩, .cell ⟨1, 2⟩, .cell ⟨2, 2⟩, .text "z",
          .cell ⟨3, 3⟩]))) := by
  have htokens : Token.ofString "= x - 2 * =SUM($B2:$A1, (z), $C3)" =
      [⟨.operator, "=", 0⟩, ⟨.text, "x", 2⟩, ⟨.operator, "-", 4⟩, ⟨.number, "2", 6⟩,
        ⟨.operator, "*", 8⟩, ⟨.function, "=SUM", 10⟩, ⟨.leftParen, "(", 14⟩,
        ⟨.range, "$B2:$A1", 15⟩, ⟨.comma, ",", 22⟩, ⟨.leftParen, "(", 24⟩, ⟨.text, "z", 25⟩,
        ⟨.rightParen, ")", 26⟩, ⟨.comma, ",", 27⟩, ⟨.reference, "$C3", 29⟩,
        ⟨.rightParen, ")", 32⟩] := by
    decide +kernel
  have hdifference : Expression [⟨.text, "x", 2⟩, ⟨.operator, "-", 4⟩, ⟨.number, "2", 6⟩]
      (.operation (.text "x") .sub (.number (Decimal.toFloat ⟨false, 2, 0⟩))) :=
    .operation (.operand (.text rfl)) rfl rfl (.number rfl)
  have htext : "$B2:$A1".toList = "$B2".toList ++ ':' :: "$A1".toList := by decide
  have hcells : Reference.Lists ⟨2, 2⟩ ⟨1, 1⟩ [⟨1, 1⟩, ⟨2, 1⟩, ⟨1, 2⟩, ⟨2, 2⟩] :=
    Reference.lists_rectangle ⟨2, 2⟩ ⟨1, 1⟩
  have hrange : Argument [⟨.range, "$B2:$A1", 15⟩]
      [.cell ⟨1, 1⟩, .cell ⟨2, 1⟩, .cell ⟨1, 2⟩, .cell ⟨2, 2⟩] :=
    .range rfl htext (by decide +kernel) (by decide +kernel) hcells (by decide)
  have hgroup : Argument [⟨.leftParen, "(", 24⟩, ⟨.text, "z", 25⟩, ⟨.rightParen, ")", 26⟩]
      [.text "z"] :=
    .expression (.operand (.group rfl (.operand (.text rfl)) rfl))
  have hreference : Argument [⟨.reference, "$C3", 29⟩] [.cell ⟨3, 3⟩] :=
    .expression (.operand (.reference rfl (by decide +kernel)))
  refine ⟨by decide, ((Term.ofString_eq_ok_iff_of_isFormulaText (by decide)).1 _).2 ⟨_, rfl, ?_⟩⟩
  rw [htokens]
  exact .equals rfl rfl (.operation hdifference rfl rfl
    (.call rfl (by decide) rfl (.more (.more (.single hrange) rfl hgroup) rfl hreference) rfl))

/-- A range of one cell too many. -/
example : (Term.ofString "=SUM($A1:$A65537)").toOption.isNone = true := by decide +kernel

end Formula

end SharedSheet
