import SharedSheet.Proofs.Formula.Grammar

/-!
# Where formulas are refused

A row of tokens is viable if it is the start of some row that the grammar derives. A refusal points
at the first token that makes a row inviable: what stands before that token can still become a
formula, and nothing can follow the token to make one. A refusal for want of a token is about a row
that is viable as a whole.

The two directions have one reason each. A reading never gets stuck of itself: wherever it has come
to, the tokens in `Reading.completion` lead it to its end, and what is read was derived. And what is
derived is read, so a token that a reading does not take is the start of nothing.

## Main definitions

* `Viable`, `IsFirstOffending` — what a row of tokens can still become, and the token that spoils it
* `Reading.completion` — tokens that complete a reading
* `ParseError.PointsInto` — what the offset and the text of an error tell of the formula

## Main results

* `IsFirstOffending.unique` — a row has no more than one first offending token
* `Reading.run_completion` — every reading can be completed
* `viable_iff_exists_ofTokens` — a viable row is the start of one that is read
* `Term.pointsInto_of_ofString_eq_error` — every refusal points at the first offending token
-/

namespace SharedSheet.Formula

open Grammar

/-- Whether a row of tokens is the start of one that the grammar derives. -/
def Viable (ts : List Token) : Prop := ∃ rest e, Grammar.Sentence (ts ++ rest) e

/-- Whether a token is the first one in a row that no formula goes on with. -/
def IsFirstOffending (ts : List Token) (t : Token) : Prop :=
  ∃ before after, ts = before ++ t :: after ∧ Viable before ∧ ¬Viable (before ++ [t])

/-- Whether an error points at the first offending token of a text, by its offset or its text, or at
the end of a text that has none. -/
def ParseError.PointsInto (s : String) : ParseError → Prop
  | .unexpectedToken offset _ found =>
    ∃ t, IsFirstOffending (Token.ofString s) t ∧ offset = t.offset ∧ found = t.text
  | .invalidRange range =>
    ∃ t, IsFirstOffending (Token.ofString s) t ∧ t.kind = .range ∧ range = t.text
  | .unexpectedEnd offset _ => offset = s.utf8ByteSize ∧ Viable (Token.ofString s)

/-- The start of a viable row is viable. -/
theorem Viable.of_append {ts ts' : List Token} (h : Viable (ts ++ ts')) : Viable ts := by
  obtain ⟨rest, e, h⟩ := h
  exact ⟨ts' ++ rest, e, by rwa [← List.append_assoc]⟩

/-- Nothing that is viable reaches beyond the token that spoils the row. -/
theorem length_le_of_viable {before before' after after' : List Token} {t t' : Token}
    (heq : before ++ t :: after = before' ++ t' :: after') (hspoilt : ¬Viable (before ++ [t]))
    (hbefore' : Viable before') : before'.length ≤ before.length := by
  refine Nat.le_of_not_lt fun hlt => ?_
  have hrow : before ++ [t] <+: before' ++ t' :: after' :=
    ⟨after, by rw [← heq, List.append_assoc, List.singleton_append]⟩
  have hstart : before ++ [t] <+: before' := by
    refine List.prefix_of_prefix_length_le hrow (List.prefix_append before' _) ?_
    rw [List.length_append, List.length_singleton]
    exact hlt
  obtain ⟨more, rfl⟩ := hstart
  exact hspoilt hbefore'.of_append

/-- A row has no more than one first offending token. -/
theorem IsFirstOffending.unique {ts : List Token} {t t' : Token} (h : IsFirstOffending ts t)
    (h' : IsFirstOffending ts t') : t = t' := by
  obtain ⟨before, after, rfl, hbefore, hspoilt⟩ := h
  obtain ⟨before', after', heq, hbefore', hspoilt'⟩ := h'
  have hlength : before.length = before'.length :=
    Nat.le_antisymm (length_le_of_viable heq.symm hspoilt' hbefore)
      (length_le_of_viable heq hspoilt hbefore')
  exact (List.cons.inj (List.append_inj heq hlength).2).1

/-- A viable row is the start of one that is read. -/
theorem viable_iff_exists_ofTokens {size : Nat} {ts : List Token} :
    Viable ts ↔ ∃ rest e, Expr.ofTokens size (ts ++ rest) = .ok e := by
  simp only [Expr.ofTokens_eq_ok_iff, Viable]

/-! ### Every reading can be completed -/

namespace Reading

/-- Tokens that complete a reading: what its place waits for, and a closing parenthesis for each
open one. -/
def completion (r : Reading) : List Token :=
  let closing : Token := ⟨.rightParen, ")", 0⟩
  let place : List Token :=
    match r.place with
    | .operand _ => [⟨.text, "x", 0⟩]
    | .opening _ _ => [⟨.leftParen, "(", 0⟩, closing]
    | .argument _ _ => [⟨.text, "x", 0⟩, closing]
    | .separator _ => [closing]
    | .operator _ => []
  place ++ List.replicate r.frames.length closing

/-- A closing parenthesis for each open one ends a reading that has come to the end of an
operand. -/
theorem run_closings (frames : List Frame) (e : Expr) :
    ∃ e', run ⟨frames, .operator e⟩ (List.replicate frames.length ⟨.rightParen, ")", 0⟩) =
      .ok ⟨[], .operator e'⟩ := by
  induction frames generalizing e with
  | nil => exact ⟨e, rfl⟩
  | cons frame frames ih =>
    cases frame with
    | group before => exact ih (before.complete e)
    | call c => exact ih (c.push e).close

/-- **Every reading can be completed.** -/
theorem run_completion (r : Reading) : ∃ e, r.run r.completion = .ok ⟨[], .operator e⟩ := by
  obtain ⟨frames, place⟩ := r
  cases place with
  | operand before => exact run_closings frames (before.complete (.text "x"))
  | opening before f => exact run_closings frames (before.complete (.call f []))
  | argument c first =>
    cases first with
    | true => exact run_closings frames (c.push (.text "x")).close
    | false => exact run_closings frames (c.push (.text "x")).close
  | separator c => exact run_closings frames c.close
  | operator e => exact run_closings frames e

/-! ### The token that stops a reading -/

variable {r r' : Reading} {ts ts' : List Token} {err : ParseError}

theorem run_append_of_ok (h : r.run ts = .ok r') : r.run (ts ++ ts') = r'.run ts' := by
  induction ts generalizing r with
  | nil =>
    obtain rfl := Except.ok.inj h
    rfl
  | cons t ts ih =>
    simp only [List.cons_append, run] at h ⊢
    split at h
    · exact ih h
    · simp at h

theorem run_eq_error_of_next {t : Token} (h : r.run ts = .ok r') (hstop : r'.next t = .error err) :
    r.run (ts ++ t :: ts') = .error err := by
  rw [run_append_of_ok h, run, hstop]

/-- A reading that stops does so at a token, and all before it has been read. -/
theorem exists_next_of_run_eq_error (h : r.run ts = .error err) :
    ∃ before t after r', ts = before ++ t :: after ∧ r.run before = .ok r' ∧
      r'.next t = .error err := by
  induction ts generalizing r with
  | nil => simp [run] at h
  | cons t ts ih =>
    cases hnext : r.next t with
    | error err' =>
      rw [run, hnext] at h
      obtain rfl := Except.error.inj h
      exact ⟨[], t, ts, r, rfl, rfl, hnext⟩
    | ok r₁ =>
      rw [run_cons_of_next hnext] at h
      obtain ⟨before, t', after, r', rfl, hbefore, hstop⟩ := ih h
      exact ⟨t :: before, t', after, r', rfl, by rwa [run_cons_of_next hnext], hstop⟩

end Reading

/-! ### What is said of the token -/

/-- Whether an error is about a token, which is a range or stands where it does not fit. -/
def ParseError.IsAbout (t : Token) : ParseError → Prop
  | .unexpectedToken offset _ found => offset = t.offset ∧ found = t.text
  | .invalidRange range => t.kind = .range ∧ range = t.text
  | .unexpectedEnd _ _ => False

namespace Reading

variable {frames : List Frame} {t : Token} {err : ParseError}

theorem isAbout_of_refuse {expected : Expected} (h : refuse t expected = .error err) :
    err.IsAbout t := by
  obtain rfl := Except.error.inj h
  exact ⟨rfl, rfl⟩

theorem isAbout_of_operand {before : Pending} (h : operand frames before t = .error err) :
    err.IsAbout t := by
  unfold operand at h
  split at h
  · simp at h
  · split at h
    · simp at h
    · exact isAbout_of_refuse h
  · simp at h
  · split at h
    · simp at h
    · exact isAbout_of_refuse h
  · simp at h
  · rename_i hkind
    obtain rfl := Except.error.inj h
    exact ⟨hkind, rfl⟩
  · exact isAbout_of_refuse h

theorem isAbout_of_argument {c : OpenCall} {first : Bool}
    (h : argument frames c first t = .error err) : err.IsAbout t := by
  unfold argument at h
  split at h
  · rename_i hkind
    split at h
    · simp at h
    · obtain rfl := Except.error.inj h
      exact ⟨hkind, rfl⟩
  · simp at h
  · exact isAbout_of_operand h

theorem isAbout_of_separator {c : OpenCall} (h : separator frames c t = .error err) :
    err.IsAbout t := by
  unfold separator at h
  split at h
  · simp at h
  · simp at h
  · exact isAbout_of_refuse h

theorem isAbout_of_operator {e : Expr} (h : operator frames e t = .error err) :
    err.IsAbout t := by
  unfold operator at h
  split at h
  · split at h
    · simp at h
    · exact isAbout_of_refuse h
  · exact isAbout_of_refuse h
  · simp at h
  · exact isAbout_of_refuse h
  · exact isAbout_of_separator h

/-- A token that a reading does not take is the one that the error is about. -/
theorem isAbout_of_next {r : Reading} (h : r.next t = .error err) : err.IsAbout t := by
  obtain ⟨frames, place⟩ := r
  cases place with
  | operand before => exact isAbout_of_operand h
  | opening before f =>
    simp only [next] at h
    split at h
    · simp at h
    · exact isAbout_of_refuse h
  | argument c first => exact isAbout_of_argument h
  | separator c => exact isAbout_of_separator h
  | operator e => exact isAbout_of_operator h

end Reading

/-! ### The equals sign in front -/

section

variable {ts ts' before after : List Token} {t : Token} {err : ParseError}

theorem withoutEquals_suffix (ts : List Token) : withoutEquals ts <:+ ts := by
  cases ts with
  | nil => exact List.suffix_rfl
  | cons t ts =>
    simp only [withoutEquals]
    split
    · exact List.suffix_cons t ts
    · exact List.suffix_rfl

/-- Whether there is an equals sign is seen from the first token. -/
theorem withoutEquals_append (h : ts ≠ []) :
    withoutEquals (ts ++ ts') = withoutEquals ts ++ ts' := by
  cases ts with
  | nil => exact absurd rfl h
  | cons t ts =>
    simp only [List.cons_append, withoutEquals]
    split <;> rfl

/-! ### First offending tokens -/

/-- An empty row is the start of every formula. -/
theorem viable_nil : Viable [] :=
  ⟨[⟨.text, "x", 0⟩], .text "x", .bare (.operand (.text rfl))⟩

/-- What has been read can become a formula. -/
theorem viable_of_run {r : Reading} (h : Reading.start.run (withoutEquals ts) = .ok r) :
    Viable ts := by
  by_cases hts : ts = []
  · rw [hts]
    exact viable_nil
  · obtain ⟨e, hcompletion⟩ := r.run_completion
    refine ⟨r.completion, e, sentence_iff_expression.2 ?_⟩
    rw [withoutEquals_append hts]
    have hread : Reading.start.run (withoutEquals ts ++ r.completion) = .ok ⟨[], .operator e⟩ := by
      rw [Reading.run_append_of_ok h, hcompletion]
    exact ((Reading.Spans.mk .nil (.operand .none)).run hread).finish rfl

/-- A row that is not read to its end becomes no formula, whatever follows. -/
theorem not_viable_of_run (h : Reading.start.run (withoutEquals ts) = .error err) :
    ¬Viable ts := by
  rintro ⟨rest, e, hformula⟩
  have hts : ts ≠ [] := by
    rintro rfl
    simp [withoutEquals, Reading.run] at h
  have hexpression := sentence_iff_expression.1 hformula
  rw [withoutEquals_append hts] at hexpression
  have hread := hexpression.run [] []
  obtain ⟨before, t, after, r, heq, hbefore, hstop⟩ := Reading.exists_next_of_run_eq_error h
  have hstart : Reading.start.run (withoutEquals ts ++ rest) = .error err := by
    rw [heq, List.append_assoc, List.cons_append]
    exact Reading.run_eq_error_of_next hbefore hstop
  rw [List.append_nil, ← Reading.start, hstart] at hread
  simp [Reading.run] at hread

/-- The token at which a reading stops is the first offending one. -/
theorem exists_isFirstOffending_of_run
    (h : Reading.start.run (withoutEquals ts) = .error err) :
    ∃ t, IsFirstOffending ts t ∧ err.IsAbout t := by
  obtain ⟨before, t, after, r, heq, hbefore, hstop⟩ := Reading.exists_next_of_run_eq_error h
  obtain ⟨sign, hsign⟩ := withoutEquals_suffix ts
  have hts : ts = sign ++ before ++ t :: after := by rw [← hsign, heq, List.append_assoc]
  have hread : withoutEquals (sign ++ before ++ [t]) = before ++ [t] := by
    have hrest : withoutEquals (sign ++ before ++ [t]) ++ after = before ++ [t] ++ after := by
      rw [← withoutEquals_append (by simp), List.append_assoc _ [t], List.append_assoc _ [t],
        List.singleton_append, ← hts, heq]
    exact List.append_cancel_right hrest
  refine ⟨t, ⟨sign ++ before, after, hts, ?_, ?_⟩, Reading.isAbout_of_next hstop⟩
  · by_cases hnil : sign ++ before = []
    · rw [hnil]
      exact viable_nil
    · refine viable_of_run (r := r) ?_
      rw [withoutEquals_append hnil] at hread
      rwa [List.append_cancel_right hread]
  · have hrefused : Reading.start.run (withoutEquals (sign ++ before ++ [t])) = .error err :=
      hread ▸ Reading.run_eq_error_of_next hbefore hstop
    exact not_viable_of_run hrefused

end

/-- **Every refusal points at the first offending token**, or at the end of a text that has
none. -/
theorem Term.pointsInto_of_ofString_eq_error {s : String} (h : isFormulaText s = true)
    {err : ParseError} (herr : Term.ofString s = .error err) : err.PointsInto s := by
  have hread : Expr.ofTokens s.utf8ByteSize (Token.ofString s) = .error err := by
    rw [Term.ofString, if_pos h] at herr
    split at herr
    · simp at herr
    · rename_i err' hread
      rwa [← Except.error.inj herr]
  unfold Expr.ofTokens at hread
  split at hread
  · rename_i err' hrun
    obtain rfl := Except.error.inj hread
    obtain ⟨t, hfirst, habout⟩ := exists_isFirstOffending_of_run hrun
    cases err' with
    | unexpectedToken offset expected found => exact ⟨t, hfirst, habout⟩
    | invalidRange range => exact ⟨t, hfirst, habout⟩
    | unexpectedEnd offset expected => exact habout.elim
  · rename_i r hrun
    split at hread
    · simp at hread
    · obtain rfl := Except.error.inj hread
      exact ⟨rfl, viable_of_run hrun⟩

/-- The second argument has to come after a comma, and the row up to it is the start of a call. -/
theorem Term.pointsInto_sum_without_comma :
    isFormulaText "=SUM(1 2)" = true ∧
      Term.ofString "=SUM(1 2)" = .error (.unexpectedToken 7 .separator "2") ∧
      ∃ t, IsFirstOffending (Token.ofString "=SUM(1 2)") t ∧ 7 = t.offset ∧ "2" = t.text := by
  have htokens : Token.ofString "=SUM(1 2)" =
      [⟨.function, "=SUM", 0⟩, ⟨.leftParen, "(", 4⟩, ⟨.number, "1", 5⟩, ⟨.number, "2", 7⟩,
        ⟨.rightParen, ")", 8⟩] := by
    decide +kernel
  have hread : Term.ofString "=SUM(1 2)" = .error (.unexpectedToken 7 .separator "2") := by
    rw [Term.ofString, if_pos (by decide), htokens]
    rfl
  exact ⟨by decide, hread, Term.pointsInto_of_ofString_eq_error (by decide) hread⟩

end SharedSheet.Formula
