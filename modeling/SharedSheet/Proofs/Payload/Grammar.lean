import SharedSheet.Proofs.Payload
import SharedSheet.Proofs.Reference.Codec

/-!
# Which texts are payloads

The reader takes a line apart as it goes: the characters that can belong to a cell, and then what
follows them. Here the lines that carry changes are told without a reader. An `Edit.Spelling` is a
spelling of a cell with its dollar sign, followed by nothing or by a blank and any text. Cutting a
payload into lines is told in the library's words too, so that nothing below is said through the
functions that it is about.

A payload is refused for the first line that is neither blank nor a spelling, and for no other
reason. Hence the two halves, what is read and what is refused, share the lines in front of that
one.

## Main definitions

* `Edit.Spelling` — a line that carries a change, in its parts
* `Payload.textLines` — the lines of a payload
* `Payload.Legible` — the lines that are no reason to refuse a payload

## Main results

* `Edit.ofLine?_eq_some_iff_spelling` — the change of a line
* `Payload.parseLines_eq_error_iff` — the line for which a payload is refused
* `Payload.grammar_exact` — what is read and what is refused, of any text
-/

namespace SharedSheet

/-! ### One line -/

namespace Edit

/-- A line that carries a change, in its parts. -/
structure Spelling where
  /-- The cell. -/
  cell : Reference.Spelling
  /-- What follows the blank after the cell, if a blank follows it. -/
  term? : Option (List Char)
  dollar : cell.dollar = true

namespace Spelling

variable (p : Spelling)

/-- What stands behind the cell. -/
def tail : List Char :=
  match p.term? with
  | none => []
  | some term => ' ' :: term

/-- The characters of the line. -/
def chars : List Char := p.cell.chars ++ p.tail

/-- The change. Without a term it clears the cell. -/
def edit : Edit := ⟨p.cell.reference, String.ofList (p.term?.getD [])⟩

theorem isNameChar_of_mem_cell {c : Char} (h : c ∈ p.cell.chars) : isNameChar c = true := by
  simp only [Reference.Spelling.chars, p.dollar, if_true, List.singleton_append, List.mem_cons,
    List.mem_append] at h
  rcases h with rfl | h | h
  · rfl
  · simp [isNameChar, p.cell.isLetter_of_mem c h]
  · simp [isNameChar, p.cell.isDigit_of_mem c h]

/-- The cell ends where the tail starts. -/
theorem span_chars : p.chars.takeWhile isNameChar = p.cell.chars ∧
    p.chars.dropWhile isNameChar = p.tail := by
  have hblank : isNameChar ' ' = false := rfl
  have hname : ∀ c ∈ p.cell.chars, isNameChar c = true := fun _ => p.isNameChar_of_mem_cell
  rw [chars, List.takeWhile_append_of_pos hname, List.dropWhile_append_of_pos hname]
  cases hterm : p.term? <;> simp [tail, hterm, hblank]

theorem head?_chars : p.chars.head? = some '$' := by
  rw [chars, List.head?_append, p.cell.head?_chars_eq_iff.2 p.dollar]
  rfl

/-- A spelling is read as its change. -/
theorem ofLine?_chars : ofLine? p.chars = some p.edit := by
  obtain ⟨htake, hdrop⟩ := p.span_chars
  rw [ofLine?, if_pos (by simp [p.head?_chars]), htake, hdrop, p.cell.ofChars?_chars]
  cases hterm : p.term? <;> simp [tail, edit, hterm]

end Spelling

/-- **The lines that carry changes are the spellings.** -/
theorem ofLine?_eq_some_iff_spelling {cs : List Char} {e : Edit} :
    ofLine? cs = some e ↔ ∃ p : Spelling, p.chars = cs ∧ p.edit = e := by
  refine ⟨fun h => ?_, fun ⟨p, hcs, he⟩ => hcs ▸ he ▸ p.ofLine?_chars⟩
  unfold ofLine? at h
  split at h
  next hhead =>
    obtain ⟨cs, rfl⟩ := List.head?_eq_some_iff.1 (eq_of_beq hhead)
    -- The cell is spelled by the characters in front, and what follows them is the tail.
    have hcell : ∀ {r}, Reference.ofChars? (('$' :: cs).takeWhile isNameChar) = some r →
        ∃ q : Reference.Spelling, q.chars = ('$' :: cs).takeWhile isNameChar ∧ q.reference = r ∧
          q.dollar = true := fun hr => by
      obtain ⟨q, hq, href⟩ := Reference.ofChars?_eq_some_iff_spelling.1 hr
      refine ⟨q, hq, href, q.head?_chars_eq_iff.1 ?_⟩
      rw [hq]
      rfl
    have hspan := List.takeWhile_append_dropWhile (p := isNameChar) (l := '$' :: cs)
    split at h
    next r hr htail =>
      obtain ⟨q, hq, rfl, hdollar⟩ := hcell hr
      refine ⟨⟨q, none, hdollar⟩, ?_, Option.some.inj h⟩
      rw [← hspan, htail, ← hq]
      rfl
    next r term hr htail =>
      obtain ⟨q, hq, rfl, hdollar⟩ := hcell hr
      refine ⟨⟨q, some term, hdollar⟩, ?_, Option.some.inj h⟩
      rw [← hspan, htail, ← hq]
      rfl
    next => simp at h
  next => simp at h

end Edit

/-! ### All lines -/

/-- Cutting at newlines, in the library's words. -/
theorem Text.splitAtNewlines_eq_splitOn (cs : List Char) :
    splitAtNewlines cs = cs.splitOn '\n' := by
  induction cs with
  | nil => rfl
  | cons c cs ih =>
    rw [List.splitOn_eq_splitOnP, List.splitOnP_cons_eq_if_modifyHead,
      ← List.splitOn_eq_splitOnP, ← ih]
    by_cases hc : c = '\n'
    · simp [hc]
    · rw [splitAtNewlines_cons_of_ne hc]
      simp [hc]

namespace Payload

/-- The lines of a payload: it is cut at its newlines, less one at the very end, and each piece is
taken less one carriage return at its end. -/
def textLines (payload : String) : List (List Char) :=
  ((Text.withoutFinal '\n' payload.toList).splitOn '\n').map (Text.withoutFinal '\r')

/-- A line that is no reason to refuse a payload: white space, or a change. -/
def Legible (l : List Char) : Prop :=
  Text.isAllBlank l = true ∨ ∃ p : Edit.Spelling, p.chars = l

theorem legible_iff {l : List Char} :
    Legible l ↔ Text.isAllBlank l = true ∨ (Edit.ofLine? l).isSome = true := by
  rw [Legible, Option.isSome_iff_exists]
  simp only [Edit.ofLine?_eq_some_iff_spelling]
  exact or_congr_right ⟨fun ⟨p, hp⟩ => ⟨_, p, hp, rfl⟩, fun ⟨_, p, hp, _⟩ => ⟨p, hp⟩⟩

/-- The empty payload may be taken to have one empty line. -/
theorem parse_eq_parseLines (payload : String) :
    parse payload = parseLines 1 (textLines payload) := by
  rw [parse, textLines, ← Text.splitAtNewlines_eq_splitOn, lines]
  cases Text.withoutFinal '\n' payload.toList <;> rfl

section Lines

variable {line : Nat} {l : List Char} {ls : List (List Char)} {bad : Invalid}

/-- A line that is not legible is refused, whatever comes after it. -/
theorem parseLines_cons_of_not_legible (h : ¬ Legible l) :
    parseLines line (l :: ls) = .error ⟨line, String.ofList l⟩ := by
  rw [legible_iff, not_or, Option.not_isSome_iff_eq_none] at h
  rw [parseLines, if_neg h.1, h.2]

/-- Behind a legible line there are the same refusals as without it. -/
theorem parseLines_cons_eq_error_iff (h : Legible l) :
    parseLines line (l :: ls) = .error bad ↔ parseLines (line + 1) ls = .error bad := by
  rw [parseLines]
  split
  · rfl
  · next hblank =>
    obtain ⟨e, he⟩ := Option.isSome_iff_exists.1 ((legible_iff.1 h).resolve_left hblank)
    rw [he]
    cases parseLines (line + 1) ls <;> simp

/-- **The line for which a payload is refused** is the first one that is not legible. -/
theorem parseLines_eq_error_iff :
    parseLines line ls = .error bad ↔ ∃ before l after, ls = before ++ l :: after ∧
      (∀ l' ∈ before, Legible l') ∧ ¬ Legible l ∧
        bad = ⟨line + before.length, String.ofList l⟩ := by
  constructor
  · intro h
    induction ls generalizing line with
    | nil => simp [parseLines] at h
    | cons l ls ih =>
      by_cases hl : Legible l
      · obtain ⟨before, l', after, rfl, hbefore, hno, rfl⟩ :=
          ih ((parseLines_cons_eq_error_iff hl).1 h)
        refine ⟨l :: before, l', after, rfl, List.forall_mem_cons.2 ⟨hl, hbefore⟩, hno, ?_⟩
        rw [List.length_cons, Nat.add_assoc, Nat.add_comm 1]
      · rw [parseLines_cons_of_not_legible hl] at h
        exact ⟨[], l, ls, rfl, by simp, hl, (Except.error.inj h).symm⟩
  · rintro ⟨before, l, after, rfl, hbefore, hno, rfl⟩
    induction before generalizing line with
    | nil => exact parseLines_cons_of_not_legible hno
    | cons first before ih =>
      obtain ⟨hfirst, hbefore⟩ := List.forall_mem_cons.1 hbefore
      rw [List.cons_append, parseLines_cons_eq_error_iff hfirst, ih hbefore, List.length_cons,
        Nat.add_assoc, Nat.add_comm 1]

/-- Nothing but a refusal keeps lines from being read. -/
theorem exists_parseLines_eq_ok_iff :
    (∃ es, parseLines line ls = .ok es) ↔ ∀ l ∈ ls, Legible l := by
  induction ls generalizing line with
  | nil => simp [parseLines]
  | cons l ls ih =>
    rw [List.forall_mem_cons, ← @ih (line + 1), legible_iff, parseLines]
    by_cases hblank : Text.isAllBlank l = true
    · simp [hblank]
    · cases hl : Edit.ofLine? l with
      | none => simp [hblank]
      | some e => cases parseLines (line + 1) ls <;> simp [hblank]

/-- What is read of lines is what the lines spell that are not blank. -/
theorem parseLines_eq_ok_iff_spelling {es : List Edit} :
    parseLines line ls = .ok es ↔ ∃ ps : List Edit.Spelling,
      ps.map (·.chars) = ls.filter (!Text.isAllBlank ·) ∧ ps.map (·.edit) = es := by
  rw [parseLines_eq_ok_iff]
  generalize ls.filter (!Text.isAllBlank ·) = changes
  constructor
  · intro h
    induction changes generalizing es with
    | nil => exact ⟨[], rfl, (List.map_eq_nil_iff.1 h.symm).symm⟩
    | cons l changes ih =>
      cases es with
      | nil => simp at h
      | cons e es =>
        obtain ⟨hl, hchanges⟩ := List.cons.inj h
        obtain ⟨p, rfl, rfl⟩ := Edit.ofLine?_eq_some_iff_spelling.1 hl
        obtain ⟨ps, rfl, rfl⟩ := ih hchanges
        exact ⟨p :: ps, rfl, rfl⟩
  · rintro ⟨ps, rfl, rfl⟩
    rw [List.map_map, List.map_map]
    exact List.map_congr_left fun p _ => p.ofLine?_chars

end Lines

/-- **Reading of payloads, exactly.** A payload is read just when each of its lines is white space
or the spelling of a change, and then it is read as the changes that are spelled, in their order.
Otherwise it is refused with the number, from 1 and with the white lines counted, and the text of
the first line that is neither. -/
theorem grammar_exact (payload : String) :
    ((∃ es, parse payload = .ok es) ↔ ∀ l ∈ textLines payload, Legible l) ∧
    (∀ es, parse payload = .ok es ↔ ∃ ps : List Edit.Spelling,
      ps.map (·.chars) = (textLines payload).filter (!Text.isAllBlank ·) ∧
        ps.map (·.edit) = es) ∧
    ∀ bad, parse payload = .error bad ↔ ∃ before l after,
      textLines payload = before ++ l :: after ∧ (∀ l' ∈ before, Legible l') ∧ ¬ Legible l ∧
        bad = ⟨before.length + 1, String.ofList l⟩ := by
  rw [parse_eq_parseLines]
  refine ⟨exists_parseLines_eq_ok_iff, fun _ => parseLines_eq_ok_iff_spelling, fun bad => ?_⟩
  simp only [parseLines_eq_error_iff, Nat.add_comm 1]

/-- A white line counts, a final newline starts no line, and a tab does not separate a term. -/
example : parse "$A1 \r\r\n \t\n$MWLQKWU04294967295\n" =
      .ok [⟨⟨1, 1⟩, "\r"⟩, ⟨⟨4294967295, 4294967295⟩, ""⟩] ∧
    parse "$A1 x\r\n\n$B2\ty\r\n$C\n" = .error ⟨3, "$B2\ty"⟩ := by
  decide +kernel

end Payload

end SharedSheet
