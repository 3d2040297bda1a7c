import SharedSheet.Log.Basic
import SharedSheet.Payload
import SharedSheet.Proofs.Reference.Spelling
import SharedSheet.Proofs.Text.Pieces

/-!
# What payloads carry

A payload is read line by line, and the number of a line only matters for a refusal. So a payload
that can be read is the list of its lines that are not blank, `Payload.carried`, each read on its
own. In that form the final newline of a payload makes no difference, and putting one payload
behind another is appending two lists.

Writing is not undone by reading. A carriage return at the end of a term stands just before the
newline, where it belongs to the line's end, so a term comes back without it. `Edit.received` says
what comes back, and no term loses more than that one character.

## Main definitions

* `Payload.carried` — the lines that are not blank
* `Edit.IsSound` — a change that some line carries
* `Edit.received` — a change as it comes back

## Main results

* `Payload.parse_eq_ok_iff` — reading through `carried`
* `Payload.isSound_of_parse` — what is read is sound
* `Payload.parse_render` — the changes that a written payload carries
* `Payload.written_changes_read_back_iff` — which changes come back as they were
* `Payload.parse_ofEntries` — the changes that the payloads of entries carry together
-/

namespace SharedSheet

/-! ### Lines that carry changes -/

namespace Payload

/-- The lines of a text that are not blank. -/
def carried (cs : List Char) : List (List Char) :=
  ((Text.splitAtNewlines cs).map (Text.withoutFinal '\r')).filter (!Text.isAllBlank ·)

@[simp] theorem carried_nil : carried [] = [] := rfl

theorem carried_append_newline (cs ds : List Char) :
    carried (cs ++ '\n' :: ds) = carried cs ++ carried ds := by
  simp [carried, Text.splitAtNewlines_append_newline]

theorem carried_lines (payload : String) :
    (lines payload).filter (!Text.isAllBlank ·) = carried payload.toList := by
  unfold lines
  split
  · rename_i h
    by_cases hlast : payload.toList.getLast? = some '\n'
    · rw [carried, Text.splitAtNewlines_eq_of_getLast? hlast, h]
      rfl
    · rw [Text.withoutFinal_of_ne hlast] at h
      rw [h]
      rfl
  · by_cases hlast : payload.toList.getLast? = some '\n'
    · rw [carried, Text.splitAtNewlines_eq_of_getLast? hlast]
      simp [Text.isAllBlank]
    · rw [Text.withoutFinal_of_ne hlast]
      rfl

theorem parseLines_eq_ok_iff {line : Nat} {ls : List (List Char)} {es : List Edit} :
    parseLines line ls = .ok es ↔
      (ls.filter (!Text.isAllBlank ·)).map Edit.ofLine? = es.map some := by
  induction ls generalizing line es with
  | nil => cases es <;> simp [parseLines]
  | cons l ls ih =>
    unfold parseLines
    by_cases hblank : Text.isAllBlank l = true
    · simp [hblank, ih]
    · cases hl : Edit.ofLine? l with
      | none => cases es <;> simp [hblank, hl]
      | some e =>
        cases hls : parseLines (line + 1) ls with
        | ok fs =>
          cases es with
          | nil => simp [hblank, hl]
          | cons e' es =>
            have : fs = es ↔ parseLines (line + 1) ls = .ok es := by simp [hls]
            simp [hblank, hl, this, ih]
        | error bad =>
          cases es with
          | nil => simp [hblank, hl]
          | cons e' es =>
            have : ¬ parseLines (line + 1) ls = .ok es := by simp [hls]
            simpa [hblank, hl] using fun _ => mt ih.2 this

/-- Reading a payload is reading the lines that are not blank. -/
theorem parse_eq_ok_iff {payload : String} {es : List Edit} :
    parse payload = .ok es ↔ (carried payload.toList).map Edit.ofLine? = es.map some := by
  rw [parse, parseLines_eq_ok_iff, carried_lines]

end Payload

/-! ### One line -/

namespace Edit

/-- A change that a line can carry: it names a cell, and its term stays on the line. -/
structure IsSound (e : Edit) : Prop where
  isCell : e.reference.IsCell
  oneLine : '\n' ∉ e.term.toList

theorem isSound_iff {e : Edit} :
    e.IsSound ↔ 1 ≤ e.reference.column ∧ 1 ≤ e.reference.row ∧ '\n' ∉ e.term.toList := by
  rw [← and_assoc, ← Reference.isCell_iff]
  exact ⟨fun h => ⟨h.isCell, h.oneLine⟩, fun h => ⟨h.1, h.2⟩⟩

/-- A term as it comes back from a payload: a carriage return at its end is taken for a part of the
line's end. -/
def receivedTerm (term : String) : String := String.ofList (Text.withoutFinal '\r' term.toList)

/-- A change as it comes back from a payload. -/
def received (e : Edit) : Edit := ⟨e.reference, receivedTerm e.term⟩

/-- No other term is changed. -/
theorem receivedTerm_eq_self_iff {term : String} :
    receivedTerm term = term ↔ term.toList.getLast? ≠ some '\r' := by
  rw [← Text.withoutFinal_eq_self_iff, receivedTerm, ← String.toList_inj, String.toList_ofList]

theorem received_eq_self_iff {e : Edit} :
    e.received = e ↔ e.term.toList.getLast? ≠ some '\r' := by
  rw [← receivedTerm_eq_self_iff]
  obtain ⟨reference, term⟩ := e
  simp [received]

@[simp] theorem received_reference (e : Edit) : e.received.reference = e.reference := rfl

/-- The line of a change without its newline. -/
def line (e : Edit) : List Char := e.reference.toChars ++ ' ' :: e.term.toList

theorem toList_render (e : Edit) : e.render.toList = e.line ++ ['\n'] := by
  simp [render, line, Reference.toString]

theorem isNameChar_of_mem_toChars {r : Reference} {c : Char} (h : c ∈ r.toChars) :
    isNameChar c = true := by
  simp only [Reference.toChars, List.cons_append, List.mem_cons, List.mem_append] at h
  rcases h with rfl | h | h
  · rfl
  · simp [isNameChar, Column.isLetter_of_mem_letters h]
  · simp [isNameChar, Nat.isDigit_of_mem_toDigits (by omega) (by omega) h]

/-- The line of a change reads back, if it is taken as it stands. -/
theorem ofLine?_line {e : Edit} (h : e.reference.IsCell) : ofLine? e.line = some e := by
  have hname : ∀ c ∈ e.reference.toChars, isNameChar c = true :=
    fun _ => isNameChar_of_mem_toChars
  have hblank : isNameChar ' ' = false := rfl
  have htake : e.line.takeWhile isNameChar = e.reference.toChars := by
    simp [line, List.takeWhile_append_of_pos hname, hblank]
  have hdrop : e.line.dropWhile isNameChar = ' ' :: e.term.toList := by
    simp [line, List.dropWhile_append_of_pos hname, hblank]
  have hhead : e.line.head? = some '$' := rfl
  simp [ofLine?, hhead, htake, hdrop, Reference.ofChars?_toChars h]

/-- A change that is read from a line names a cell, and its term stands on the line. -/
theorem of_ofLine? {cs : List Char} {e : Edit} (h : ofLine? cs = some e) :
    e.reference.IsCell ∧ ∀ c ∈ e.term.toList, c ∈ cs := by
  unfold ofLine? at h
  split at h
  · split at h
    · rename_i r hr _
      obtain rfl := Option.some.inj h
      exact ⟨Reference.isCell_of_ofChars? hr, by simp⟩
    · rename_i r term hr hterm
      obtain rfl := Option.some.inj h
      refine ⟨Reference.isCell_of_ofChars? hr, fun c hc => ?_⟩
      have : c ∈ cs.dropWhile isNameChar := by
        rw [hterm]
        exact List.mem_cons_of_mem _ (by simpa using hc)
      exact (List.dropWhile_sublist _).mem this
    · simp at h
  · simp at h

theorem isSound_of_ofLine? {cs : List Char} {e : Edit} (h : ofLine? cs = some e)
    (hcs : '\n' ∉ cs) : e.IsSound :=
  ⟨(of_ofLine? h).1, fun hmem => hcs ((of_ofLine? h).2 _ hmem)⟩

theorem withoutFinal_line (e : Edit) : Text.withoutFinal '\r' e.line = e.received.line := by
  by_cases h : e.term.toList.getLast? = some '\r'
  · obtain ⟨cs, hcs⟩ := List.getLast?_eq_some_iff.1 h
    have hline : e.line = (e.reference.toChars ++ ' ' :: cs) ++ ['\r'] := by simp [line, hcs]
    rw [hline, Text.withoutFinal_concat]
    simp [received, receivedTerm, line, hcs]
  · have hline : e.line.getLast? ≠ some '\r' := by
      cases hterm : e.term.toList with
      | nil => simp [line, hterm]
      | cons c cs => simpa [line, hterm, List.getLast?_append] using h
    rw [Text.withoutFinal_of_ne hline]
    simp [received, receivedTerm, line, Text.withoutFinal_of_ne h]

theorem newline_not_mem_line {e : Edit} (h : e.IsSound) : '\n' ∉ e.line := by
  simp only [line, List.mem_append, List.mem_cons, not_or]
  refine ⟨fun hc => ?_, by decide, h.oneLine⟩
  have := isNameChar_of_mem_toChars hc
  contradiction

/-- The line of a change is not blank. -/
theorem carried_line {e : Edit} (h : e.IsSound) : Payload.carried e.line = [e.received.line] := by
  have hdollar : Text.isBlank '$' = false := rfl
  simp only [Payload.carried, Text.splitAtNewlines_of_not_mem (newline_not_mem_line h),
    List.map_cons, List.map_nil, withoutFinal_line]
  simp [line, Text.isAllBlank, Reference.toChars, hdollar]

end Edit

/-! ### Written payloads -/

namespace Payload

/-- What is read from a payload stands on a piece of it. -/
theorem exists_piece_of_parse {payload : String} {es : List Edit} (h : parse payload = .ok es)
    {e : Edit} (he : e ∈ es) : ∃ piece ∈ Text.splitAtNewlines payload.toList,
      Edit.ofLine? (Text.withoutFinal '\r' piece) = some e := by
  obtain ⟨l, hl, hle⟩ := List.mem_map.1 (parse_eq_ok_iff.1 h ▸ List.mem_map_of_mem he)
  obtain ⟨piece, hpiece, rfl⟩ := List.mem_map.1 (List.mem_filter.1 hl).1
  exact ⟨piece, hpiece, hle⟩

/-- What is read from a payload is sound. -/
theorem isSound_of_parse {payload : String} {es : List Edit} (h : parse payload = .ok es)
    {e : Edit} (he : e ∈ es) : e.IsSound := by
  obtain ⟨piece, hpiece, hline⟩ := exists_piece_of_parse h he
  exact Edit.isSound_of_ofLine? hline fun hn =>
    Text.newline_not_mem_piece hpiece (Text.mem_of_mem_withoutFinal hn)

/-- A term that is read from a payload is a part of it. -/
theorem mem_of_mem_term {payload : String} {es : List Edit} (h : parse payload = .ok es)
    {e : Edit} (he : e ∈ es) {c : Char} (hc : c ∈ e.term.toList) : c ∈ payload.toList := by
  obtain ⟨piece, hpiece, hline⟩ := exists_piece_of_parse h he
  exact Text.mem_of_mem_piece hpiece
    (Text.mem_of_mem_withoutFinal ((Edit.of_ofLine? hline).2 c hc))

theorem carried_render {es : List Edit} (h : ∀ e ∈ es, e.IsSound) :
    carried (render es).toList = es.map (·.received.line) := by
  induction es with
  | nil => rfl
  | cons e es ih =>
    have hrender : (render (e :: es)).toList = e.line ++ '\n' :: (render es).toList := by
      simp [render, Edit.toList_render]
    rw [hrender, carried_append_newline, Edit.carried_line (h e (by simp)),
      ih fun e' he' => h e' (List.mem_cons_of_mem _ he')]
    rfl

/-- **A written payload carries the changes as they come back.** -/
theorem parse_render {es : List Edit} (h : ∀ e ∈ es, e.IsSound) :
    parse (render es) = .ok (es.map Edit.received) := by
  rw [parse_eq_ok_iff, carried_render h, List.map_map, List.map_map]
  exact List.map_congr_left fun e he => Edit.ofLine?_line (e := e.received) (h e he).isCell

/-- A written payload gives back changes that can be carried and come back as they were. -/
theorem parse_render_eq_self_iff {es : List Edit} :
    parse (render es) = .ok es ↔ ∀ e ∈ es, e.IsSound ∧ e.received = e := by
  constructor
  · intro h e he
    -- All that is read is sound, so what is written is, and reading it is known.
    have hsound : ∀ e ∈ es, e.IsSound := fun e he => isSound_of_parse h he
    rw [parse_render hsound] at h
    have hback : es.map Edit.received = es.map id := by simpa using Except.ok.inj h
    exact ⟨hsound e he, List.map_inj_left.1 hback e he⟩
  · intro h
    have hback : es.map Edit.received = es.map id := List.map_congr_left fun e he => (h e he).2
    rw [parse_render fun e he => (h e he).1, hback, List.map_id]

/-- **What a written payload gives back.** Changes of any cells to any terms are read back as they
were if and only if all columns and rows are at least one and no term has a newline in it or a
carriage return at its end. -/
theorem written_changes_read_back_iff (es : List Edit) :
    parse (render es) = .ok es ↔ ∀ e ∈ es, 1 ≤ e.reference.column ∧ 1 ≤ e.reference.row ∧
      '\n' ∉ e.term.toList ∧ e.term.toList.getLast? ≠ some '\r' := by
  rw [parse_render_eq_self_iff]
  refine forall₂_congr fun e _ => ?_
  rw [Edit.isSound_iff, Edit.received_eq_self_iff, and_assoc, and_assoc]

/-! ### Payloads one after another -/

/-- An ended payload can be followed by anything. -/
theorem carried_ended_append (payload : String) (cs : List Char) :
    carried ((Delta.ended payload).toList ++ cs) = carried payload.toList ++ carried cs := by
  unfold Delta.ended
  split
  · rename_i h
    simp [List.getLast?_eq_none_iff.1 h]
  · rename_i h
    obtain ⟨ds, hds⟩ := List.getLast?_eq_some_iff.1 h
    rw [hds, carried_append_newline ds [], List.append_assoc, List.singleton_append,
      carried_append_newline]
    simp
  · rw [String.toList_push, List.append_assoc, List.singleton_append, carried_append_newline]

theorem toList_payload_foldl_push (es : List LogEntry) (d : Delta) :
    (es.foldl Delta.push d).payload.toList =
      d.payload.toList ++ es.flatMap fun e => (Delta.ended e.payload).toList := by
  induction es generalizing d with
  | nil => simp
  | cons e es ih => simp [ih, Delta.push]

theorem toList_payload_ofEntries (es : List LogEntry) : (Delta.ofEntries es).payload.toList =
    es.flatMap fun e => (Delta.ended e.payload).toList := by
  simpa [Delta.ofEntries] using toList_payload_foldl_push es {}

theorem carried_ofEntries (es : List LogEntry) :
    carried (Delta.ofEntries es).payload.toList = es.flatMap fun e => carried e.payload.toList := by
  rw [toList_payload_ofEntries]
  induction es with
  | nil => rfl
  | cons e es ih => rw [List.flatMap_cons, carried_ended_append, ih, List.flatMap_cons]

/-- **The payloads of entries carry together what each of them carries**, with or without newlines
at their ends. -/
theorem parse_ofEntries {es : List LogEntry} {changes : LogEntry → List Edit}
    (h : ∀ e ∈ es, parse e.payload = .ok (changes e)) :
    parse (Delta.ofEntries es).payload = .ok (es.flatMap changes) := by
  rw [parse_eq_ok_iff, carried_ofEntries]
  induction es with
  | nil => rfl
  | cons e es ih =>
    rw [List.flatMap_cons, List.flatMap_cons, List.map_append, List.map_append,
      parse_eq_ok_iff.1 (h e (by simp)), ih fun e' he' => h e' (List.mem_cons_of_mem _ he')]

end Payload

end SharedSheet
