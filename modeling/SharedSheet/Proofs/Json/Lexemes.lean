import SharedSheet.Json.Basic
import SharedSheet.Json.Lexeme

/-!
# The lexemes of a written value

Reading works on lexemes, and the two layouts of a value differ in nothing but white space. So the
law is about lexemes: a value in either layout has the same ones, `Json.lexemes`, and what follows
it in the text has its own.

The one thing that could go wrong between a value and what follows it is a numeral, which ends where
the first character comes that cannot belong to it. That is the side condition `EndsNumeral`.
Everything that is ever written after a value satisfies it.

## Main definitions

* `Json.lexemes` — the lexemes of a value
* `EndsNumeral` — texts before which a numeral ends

## Main results

* `StringReading.run_flatMap_escaped` — escaped texts read back
* `Numeral.split?_toDigits` — digits read back
* `Lexeme.ofChars_write` — the lexemes of a value and of what follows it
-/

namespace SharedSheet.Json

/-! ### Texts -/

namespace StringReading

theorem hexDigit?_digitChar {d : Nat} (h : d < 16) : hexDigit? (Nat.digitChar d) = some d := by
  revert d
  decide

theorem run_cons {r : StringReading} {c : Char} {cs : List Char} (h : c ≠ '"' ∨ r.spot ≠ .plain) :
    r.run (c :: cs) = (r.next? c).bind (·.run cs) := by
  have h : ¬ (c = '"' ∧ r.spot = .plain) := fun ⟨hc, hr⟩ => h.elim (· hc) (· hr)
  simp only [run, h, if_false]
  cases r.next? c <;> rfl

theorem run_unit {out : List Char} {digits value d : Nat} (hd : d < 16) (cs : List Char) :
    run ⟨out, none, true, .unit digits value⟩ (Nat.digitChar d :: cs) =
      if digits = 3 then (pushUnit ⟨out, none, true, .unit digits value⟩ (value * 16 + d)).run cs
      else run ⟨out, none, true, .unit (digits + 1) (value * 16 + d)⟩ cs := by
  rw [run_cons (.inr (by simp))]
  simp only [next?, hexDigit?_digitChar hd]
  split <;> rfl

/-- A control character is written with four digits, of which the first two are zero. -/
theorem run_control {out : List Char} {c : Char} (hc : c.toNat < 0x20) (cs : List Char) :
    run ⟨out, none, true, .escape⟩
        ('u' :: '0' :: '0' :: Nat.digitChar (c.toNat / 16) :: Nat.digitChar (c.toNat % 16) :: cs) =
      run ⟨c :: out, none, true, .plain⟩ cs := by
  have hunit : (0 * 16 + 0) * 16 + 0 = 0 := rfl
  have hvalue : (0 * 16 + c.toNat / 16) * 16 + c.toNat % 16 = c.toNat := by omega
  have hfirst : isFirstHalf c.toNat = false := by
    simp only [isFirstHalf, Bool.and_eq_false_iff, decide_eq_false_iff_not]
    omega
  have hsecond : isSecondHalf c.toNat = false := by
    simp only [isSecondHalf, Bool.and_eq_false_iff, decide_eq_false_iff_not]
    omega
  rw [run_cons (.inl (by decide)), show '0' = Nat.digitChar 0 from rfl]
  simp only [next?, if_true, Option.bind_some]
  rw [run_unit (by omega), if_neg (by omega), run_unit (by omega), if_neg (by omega),
    run_unit (by omega), if_neg (by omega), run_unit (by omega), if_pos (by omega), hunit, hvalue]
  simp [pushUnit, hfirst, hsecond, push]

/-- One character reads back. -/
theorem run_escaped (out : List Char) (c : Char) (cs : List Char) :
    run ⟨out, none, true, .plain⟩ (escaped c ++ cs) = run ⟨c :: out, none, true, .plain⟩ cs := by
  unfold escaped
  split
  case h_8 hquote hbackslash _ _ _ _ _ =>
    split
    · rename_i hc
      rw [List.cons_append, run_cons (.inl (by decide))]
      exact run_control hc cs
    · rename_i hc
      have hbackslash : c ≠ '\\' := hbackslash
      rw [List.singleton_append, run_cons (.inl hquote)]
      simp [next?, hbackslash, hc, push]
  all_goals
    rw [List.cons_append, run_cons (.inl (by decide))]
    rfl

/-- **A text reads back**, and what follows its closing quote is left. -/
theorem run_flatMap_escaped (out cs rest : List Char) :
    run ⟨out, none, true, .plain⟩ (cs.flatMap escaped ++ '"' :: rest) =
      some (some (String.ofList (out.reverse ++ cs)), rest) := by
  induction cs generalizing out with
  | nil => simp [run, finish]
  | cons c cs ih =>
    rw [List.flatMap_cons, List.append_assoc, run_escaped, ih]
    simp

end StringReading

/-! ### Numerals -/

/-- A text before which a numeral ends: it does not start with a digit, a point or the letter of an
exponent. -/
def EndsNumeral (cs : List Char) : Prop :=
  ∀ c ∈ cs.head?, c.isDigit = false ∧ c ≠ '.' ∧ c ≠ 'e' ∧ c ≠ 'E'

theorem endsNumeral_nil : EndsNumeral [] := by simp [EndsNumeral]

theorem endsNumeral_cons {c : Char} (h : c.isDigit = false ∧ c ≠ '.' ∧ c ≠ 'e' ∧ c ≠ 'E')
    (cs : List Char) : EndsNumeral (c :: cs) := by
  simpa [EndsNumeral] using h

/-- The numeral that a natural number is written as. -/
def Numeral.ofNat (n : Nat) : Numeral := ⟨false, Nat.toDigits 10 n, [], false, []⟩

namespace Numeral

theorem isDigit_of_mem_toDigits {n : Nat} {c : Char} (h : c ∈ Nat.toDigits 10 n) :
    c.isDigit = true :=
  Nat.isDigit_of_mem_toDigits (by omega) (by omega) h

/-- There is no needless zero in front. -/
theorem head?_toDigits {n : Nat} (h : n ≠ 0) : (Nat.toDigits 10 n).head? ≠ some '0' := by
  induction n using Nat.strongRecOn with
  | ind n ih =>
    by_cases hn : n < 10
    · rw [Nat.toDigits_of_lt_base hn]
      simpa [Nat.digitChar_eq_zero] using h
    · have := ih (n / 10) (by omega) (by omega)
      obtain ⟨d, ds, hds⟩ := List.exists_cons_of_ne_nil (@Nat.toDigits_ne_nil (n / 10) 10)
      rw [Nat.toDigits_of_base_le (by omega) (by omega), hds]
      simpa [hds] using this

theorem splitDigits?_toDigits (n : Nat) {rest : List Char} (h : EndsNumeral rest) :
    splitDigits? (Nat.toDigits 10 n ++ rest) = some (Nat.toDigits 10 n, rest) := by
  have hdigits : ∀ c ∈ Nat.toDigits 10 n, c.isDigit = true := fun _ => isDigit_of_mem_toDigits
  have htake : rest.takeWhile Char.isDigit = [] ∧ rest.dropWhile Char.isDigit = rest := by
    cases rest with
    | nil => simp
    | cons c rest => simp [(h c rfl).1]
  rw [splitDigits?, List.takeWhile_append_of_pos hdigits, List.dropWhile_append_of_pos hdigits,
    htake.1, htake.2, List.append_nil]
  split
  · exact absurd (by assumption) Nat.toDigits_ne_nil
  · rfl

theorem splitWhole?_toDigits (n : Nat) {rest : List Char} (h : EndsNumeral rest) :
    splitWhole? (Nat.toDigits 10 n ++ rest) = some (Nat.toDigits 10 n, rest) := by
  rw [splitWhole?, splitDigits?_toDigits n h]
  split
  · rename_i heq
    have hdigits := congrArg Prod.fst (Option.some.inj heq)
    by_cases hn : n = 0
    · simp [hn] at hdigits
    · have := head?_toDigits hn
      simp only at hdigits
      simp [hdigits] at this
  · rfl

/-- **The digits of a natural number read back** up to where the numeral ends. -/
theorem split?_toDigits (n : Nat) {rest : List Char} (h : EndsNumeral rest) :
    split? (Nat.toDigits 10 n ++ rest) = some (ofNat n, rest) := by
  have hfraction : splitFraction? rest = some ([], rest) := by
    cases rest with
    | nil => rfl
    | cons c rest => simp [splitFraction?, (h c rfl).2.1]
  have hexponent : splitExponent? rest = some ((false, []), rest) := by
    cases rest with
    | nil => rfl
    | cons c rest => simp [splitExponent?, (h c rfl).2.2.1, (h c rfl).2.2.2]
  unfold split?
  split
  · rename_i cs heq
    obtain ⟨d, ds, hds⟩ := List.exists_cons_of_ne_nil (@Nat.toDigits_ne_nil n 10)
    have hd := isDigit_of_mem_toDigits (n := n) (c := d) (by simp [hds])
    rw [hds, List.cons_append, List.cons.injEq] at heq
    rw [heq.1] at hd
    contradiction
  · simp [splitUnsigned?, splitWhole?_toDigits n h, hfraction, hexponent, ofNat]

/-- The number itself reads back if it fits. -/
theorem natural?_ofNat (n : Nat) :
    (ofNat n).natural? = if n < UInt64.size then some n else none := by
  simp [natural?, ofNat, isInteger, Nat.ofDigitChars_ten_toDigits]

end Numeral

/-! ### Lexemes -/

mutual

/-- The lexemes of a value. -/
def lexemes : Json → List Lexeme
  | truth b => [.truth b]
  | natural n => [.number (.ofNat n)]
  | text s => [.text (some s)]
  | list [] => [.openList, .closeList]
  | list (item :: items) => .openList :: (lexemes item ++ (itemLexemes items ++ [.closeList]))
  | record [] => [.openRecord, .closeRecord]
  | record ((name, value) :: members) =>
    .openRecord :: .text (some name) :: .colon ::
      (lexemes value ++ (memberLexemes members ++ [.closeRecord]))

/-- The lexemes of further items of a list. -/
def itemLexemes : List Json → List Lexeme
  | [] => []
  | item :: items => .comma :: (lexemes item ++ itemLexemes items)

/-- The lexemes of further members of a record. -/
def memberLexemes : List (String × Json) → List Lexeme
  | [] => []
  | (name, value) :: members =>
    .comma :: .text (some name) :: .colon :: (lexemes value ++ memberLexemes members)

end

namespace Lexeme

@[simp] theorem ofChars_nil : ofChars [] = [] := by rw [ofChars]

theorem ofChars_cons_of_isSpace {c : Char} (h : isSpace c = true) (cs : List Char) :
    ofChars (c :: cs) = ofChars cs := by
  rw [ofChars]
  simp [h]

/-- A lexeme and those of what follows it. -/
theorem ofChars_cons {c : Char} {cs rest : List Char} {l : Lexeme} (hc : isSpace c = false)
    (h : first c cs = (l, rest)) (hl : l ≠ .broken) : ofChars (c :: cs) = l :: ofChars rest := by
  rw [ofChars]
  simp only [hc, Bool.false_eq_true, if_false]
  split
  · rename_i heq
    rw [h, Prod.mk.injEq] at heq
    exact absurd heq.1 hl
  · rename_i heq
    rw [h, Prod.mk.injEq] at heq
    rw [heq.1, heq.2]

@[simp] theorem ofChars_newline (l : Layout) (cs : List Char) :
    ofChars (l.newline ++ cs) = ofChars cs := by
  cases l with
  | oneLine => rfl
  | indented blanks =>
    rw [Layout.newline, List.cons_append, ofChars_cons_of_isSpace rfl]
    induction blanks with
    | zero => rfl
    | succ blanks ih => rw [List.replicate_succ, List.cons_append, ofChars_cons_of_isSpace rfl, ih]

@[simp] theorem ofChars_colon (l : Layout) (cs : List Char) :
    ofChars (l.colon ++ cs) = .colon :: ofChars cs := by
  cases l with
  | oneLine => exact ofChars_cons rfl rfl (by simp)
  | indented =>
    rw [Layout.colon, List.cons_append, List.singleton_append,
      ← ofChars_cons_of_isSpace (c := ' ') rfl cs]
    exact ofChars_cons rfl rfl (by simp)

@[simp] theorem ofChars_quotedChars (s : String) (cs : List Char) :
    ofChars (quotedChars s ++ cs) = .text (some s) :: ofChars cs := by
  have hrun : StringReading.run {} (s.toList.flatMap escaped ++ '"' :: cs) = some (some s, cs) := by
    simpa using StringReading.run_flatMap_escaped [] s.toList cs
  rw [quotedChars, List.cons_append, List.append_assoc]
  exact ofChars_cons rfl (by simp [first, hrun]) (by simp)

theorem first_of_isDigit {c : Char} (h : c.isDigit = true) {cs rest : List Char} {n : Numeral}
    (hsplit : Numeral.split? (c :: cs) = some (n, rest)) : first c cs = (.number n, rest) := by
  unfold first
  split
  case h_11 => rw [hsplit]
  all_goals contradiction

theorem ofChars_toDigits (n : Nat) {rest : List Char} (h : EndsNumeral rest) :
    ofChars (Nat.toDigits 10 n ++ rest) = .number (.ofNat n) :: ofChars rest := by
  have hsplit := Numeral.split?_toDigits n h
  obtain ⟨d, ds, hds⟩ := List.exists_cons_of_ne_nil (@Nat.toDigits_ne_nil n 10)
  have hd := Numeral.isDigit_of_mem_toDigits (n := n) (c := d) (by simp [hds])
  rw [hds, List.cons_append] at hsplit ⊢
  refine ofChars_cons ?_ (first_of_isDigit hd hsplit) (by simp)
  rw [Bool.eq_false_iff]
  intro hspace
  simp only [isSpace, Bool.or_eq_true, beq_iff_eq] at hspace
  rcases hspace with ((rfl | rfl) | rfl) | rfl <;> contradiction

/-! ### Values -/

theorem endsNumeral_newline {l : Layout} {cs : List Char} (h : EndsNumeral cs) :
    EndsNumeral (l.newline ++ cs) := by
  cases l with
  | oneLine => exact h
  | indented blanks => exact endsNumeral_cons (by decide) _

theorem endsNumeral_writeItems {l : Layout} {cs : List Char} (h : EndsNumeral cs)
    (items : List Json) : EndsNumeral (writeItems l items ++ cs) := by
  cases items with
  | nil => simpa [writeItems] using h
  | cons item items =>
    rw [writeItems]
    exact endsNumeral_cons (by decide) _

theorem endsNumeral_writeMembers {l : Layout} {cs : List Char} (h : EndsNumeral cs)
    (members : List (String × Json)) : EndsNumeral (writeMembers l members ++ cs) := by
  cases members with
  | nil => simpa [writeMembers] using h
  | cons member members =>
    rw [writeMembers]
    exact endsNumeral_cons (by decide) _

mutual

/-- **The lexemes of a written value**, whatever the layout. -/
theorem ofChars_write (l : Layout) {rest : List Char} (h : EndsNumeral rest) :
    ∀ j : Json, ofChars (write l j ++ rest) = lexemes j ++ ofChars rest
  | .truth true => by
    rw [write, lexemes]
    exact ofChars_cons rfl rfl (by simp)
  | .truth false => by
    rw [write, lexemes]
    exact ofChars_cons rfl rfl (by simp)
  | .natural n => by
    rw [write, lexemes, ofChars_toDigits n h]
    rfl
  | .text s => by
    rw [write, lexemes, ofChars_quotedChars]
    rfl
  | .list [] => by
    rw [write, lexemes]
    refine (ofChars_cons rfl rfl (by simp)).trans ?_
    exact congrArg _ (ofChars_cons rfl rfl (by simp))
  | .list (item :: items) => by
    have hend : EndsNumeral (l.newline ++ ']' :: rest) :=
      endsNumeral_newline (endsNumeral_cons (by decide) _)
    rw [write, lexemes, List.cons_append]
    refine (ofChars_cons rfl rfl (by simp)).trans ?_
    simp only [List.append_assoc, List.singleton_append, ofChars_newline]
    rw [ofChars_write _ (endsNumeral_writeItems hend items), ofChars_writeItems _ hend,
      ofChars_newline, ofChars_cons rfl rfl (by simp)]
    simp
  | .record [] => by
    rw [write, lexemes]
    refine (ofChars_cons rfl rfl (by simp)).trans ?_
    exact congrArg _ (ofChars_cons rfl rfl (by simp))
  | .record ((name, value) :: members) => by
    have hend : EndsNumeral (l.newline ++ '\x7d' :: rest) :=
      endsNumeral_newline (endsNumeral_cons (by decide) _)
    rw [write, lexemes, List.cons_append]
    refine (ofChars_cons rfl rfl (by simp)).trans ?_
    simp only [List.append_assoc, List.singleton_append, ofChars_newline, ofChars_quotedChars,
      ofChars_colon]
    rw [ofChars_write _ (endsNumeral_writeMembers hend members), ofChars_writeMembers _ hend,
      ofChars_newline, ofChars_cons rfl rfl (by simp)]
    simp

theorem ofChars_writeItems (l : Layout) {rest : List Char} (h : EndsNumeral rest) :
    ∀ items : List Json, ofChars (writeItems l items ++ rest) = itemLexemes items ++ ofChars rest
  | [] => by simp [writeItems, itemLexemes]
  | item :: items => by
    rw [writeItems, itemLexemes, List.cons_append]
    refine (ofChars_cons rfl rfl (by simp)).trans ?_
    simp only [List.append_assoc, ofChars_newline]
    rw [ofChars_write l (endsNumeral_writeItems h items), ofChars_writeItems l h]
    simp

theorem ofChars_writeMembers (l : Layout) {rest : List Char} (h : EndsNumeral rest) :
    ∀ members : List (String × Json),
      ofChars (writeMembers l members ++ rest) = memberLexemes members ++ ofChars rest
  | [] => by simp [writeMembers, memberLexemes]
  | (name, value) :: members => by
    rw [writeMembers, memberLexemes, List.cons_append]
    refine (ofChars_cons rfl rfl (by simp)).trans ?_
    simp only [List.append_assoc, ofChars_newline, ofChars_quotedChars, ofChars_colon]
    rw [ofChars_write l (endsNumeral_writeMembers h members), ofChars_writeMembers l h]
    simp

end

end Lexeme

end SharedSheet.Json
