import SharedSheet.Proofs.Json.Documents
import SharedSheet.Proofs.Text.Pieces
import SharedSheet.Store.LogFile

/-!
# The files of a store read back

The log's file and the registry's file are written from values and read as values again. The only
values that do not read back are numbers that need more than 64 bits, so each law names the numbers
that have to fit: it is an equivalence where reading decides whether they do.

## Main results

* `Registry.parse_render_eq_ok_iff` — a written registry reads back just when its numbers fit
* `LogFile.parse_render` — a written log reads back, in the order of the entries' numbers
* `LogFile.written_and_appended_read_back` — so does a written log with one more line
-/

namespace SharedSheet

open Json (Decoder Document Fault)

/-! ### Records -/

namespace Visibility

theorem decoder_document (v : Visibility) : decoder v.toJson.document = .ok v := by
  cases v <;> rfl

end Visibility

/-- A written sheet reads back just when its number fits. -/
theorem Sheet.decode_eq_ok_iff (s t : Sheet) :
    Decoder.record recordForm s.toJson.document = .ok t ↔ s.id < UInt64.size ∧ t = s := by
  have hvisibility := s.visibility.decoder_document
  by_cases hid : s.id < UInt64.size
  · rw [and_iff_right hid]
    simp [toJson, Json.document, Json.memberDocuments, Decoder.record, Json.RecordForm.named,
      recordForm, Json.RecordField.of, Decoder.word64_of_lt hid, hvisibility, Decoder.text]
    exact eq_comm
  · refine iff_of_false ?_ fun h => hid h.1
    simp [toJson, Json.document, Json.memberDocuments, Decoder.record, Json.RecordForm.named,
      recordForm, Json.RecordField.of, Decoder.word64_of_not_lt hid]

/-- A time reads back. -/
theorem Timestamp.decoder_document (t : Timestamp) : decoder (.text (some t.text)) = .ok t := by
  simp [decoder, Decoder.textual, Decoder.text, ofString?, t.valid]

/-- A written entry reads back if its numbers fit. -/
theorem LogEntry.decode_of_lt (e : LogEntry) (hid : e.id < UInt64.size)
    (hsheet : e.sheet < UInt64.size) :
    Decoder.record recordForm e.toJson.document = .ok e := by
  have htime := e.timestamp.decoder_document
  simp [toJson, Json.document, Json.memberDocuments, Decoder.record, Json.RecordForm.named,
    recordForm, Json.RecordField.of, Decoder.word64_of_lt hid, Decoder.word64_of_lt hsheet, htime,
    Decoder.text, Decoder.truth]

/-- The numbers of a registry that have to fit. -/
structure Registry.Fits (g : Registry) : Prop where
  sheets : ∀ s ∈ g.sheets, s.id < UInt64.size
  lastSheetId : g.lastSheetId < UInt64.size
  lastUpdateId : g.lastUpdateId < UInt64.size

namespace Registry

theorem items_publishers (g : Registry) :
    Decoder.items Decoder.text (g.publishers.map fun s => .text (some s)) = .ok g.publishers := by
  have htext : ∀ s t : String, Decoder.text (.text (some s)) = .ok t ↔ True ∧ t = s :=
    fun s t => by simp [Decoder.text, eq_comm]
  exact (Decoder.items_eq_ok_iff htext).2 ⟨fun _ _ => trivial, rfl⟩

/-- A written registry is read list by list and number by number. -/
theorem parse_render (g : Registry) :
    parse g.render =
      match Decoder.items (Decoder.record Sheet.recordForm)
        (g.sheets.map fun s => s.toJson.document) with
      | .error e => .error e
      | .ok sheets =>
        match Decoder.word64 (.number (.ofNat g.lastSheetId)) with
        | .error e => .error e
        | .ok lastSheetId =>
          match Decoder.word64 (.number (.ofNat g.lastUpdateId)) with
          | .error e => .error e
          | .ok lastUpdateId => .ok ⟨g.publishers, sheets, lastSheetId, lastUpdateId⟩ := by
  rw [parse, render, Json.pretty, Decoder.decode_write]
  simp [toJson, Json.document, Json.memberDocuments, Json.documents_map, Decoder.record,
    Json.RecordForm.named, recordForm, Json.RecordField.of, Decoder.list, g.items_publishers]
  cases Decoder.items (Decoder.record Sheet.recordForm) (g.sheets.map fun s => s.toJson.document)
  · rfl
  · cases Decoder.word64 (.number (.ofNat g.lastSheetId))
    · rfl
    · cases Decoder.word64 (.number (.ofNat g.lastUpdateId)) <;> rfl

/-- **A written registry reads back just when its numbers fit.** -/
theorem parse_render_eq_ok_iff (g h : Registry) : parse g.render = .ok h ↔ g.Fits ∧ h = g := by
  have hsheets := @Decoder.items_eq_ok_iff _ _ _ _ Sheet.decode_eq_ok_iff g.sheets
  rw [parse_render]
  cases hitems : Decoder.items (Decoder.record Sheet.recordForm)
      (g.sheets.map fun s => s.toJson.document) with
  | error e =>
    have : ¬ g.Fits := fun hfits => by simp [hsheets.2 ⟨hfits.sheets, rfl⟩] at hitems
    simp [this]
  | ok ss =>
    obtain ⟨hall, rfl⟩ := hsheets.1 hitems
    by_cases hsheet : g.lastSheetId < UInt64.size
    · by_cases hupdate : g.lastUpdateId < UInt64.size
      · have : g.Fits := ⟨hall, hsheet, hupdate⟩
        simpa [Decoder.word64_of_lt hsheet, Decoder.word64_of_lt hupdate, this] using
          (eq_comm : g = h ↔ h = g)
      · have : ¬ g.Fits := fun hfits => hupdate hfits.lastUpdateId
        simp [Decoder.word64_of_lt hsheet, Decoder.word64_of_not_lt hupdate, this]
    · have : ¬ g.Fits := fun hfits => hsheet hfits.lastSheetId
      simp [Decoder.word64_of_not_lt hsheet, this]

end Registry

/-! ### The log -/

namespace Json

theorem toNat_of_mem_escaped {c d : Char} (h : d ∈ escaped c) : 0x20 ≤ d.toNat := by
  have hdigit : ∀ n < 16, 0x20 ≤ (Nat.digitChar n).toNat := by decide
  unfold escaped at h
  split at h
  case h_8 =>
    split at h
    · rename_i hc
      simp only [List.mem_cons, List.not_mem_nil, or_false] at h
      rcases h with rfl | rfl | rfl | rfl | rfl | rfl
      · decide
      · decide
      · decide
      · decide
      · exact hdigit _ (by omega)
      · exact hdigit _ (by omega)
    · rename_i hc
      rw [List.mem_singleton.1 h]
      omega
  all_goals
    simp only [List.mem_cons, List.not_mem_nil, or_false] at h
    rcases h with rfl | rfl <;> decide

theorem toNat_of_mem_quotedChars {s : String} {c : Char} (h : c ∈ quotedChars s) :
    0x20 ≤ c.toNat := by
  simp only [quotedChars, List.mem_cons, List.mem_append, List.not_mem_nil, or_false,
    List.mem_flatMap] at h
  rcases h with rfl | ⟨d, -, h⟩ | rfl
  · decide
  · exact toNat_of_mem_escaped h
  · decide

theorem toNat_of_isDigit {c : Char} (h : c.isDigit = true) : 0x20 ≤ c.toNat := by
  simp only [Char.isDigit, Bool.and_eq_true, decide_eq_true_eq] at h
  have := UInt32.le_iff_toNat_le.1 h.1
  simp at this
  exact Nat.le_trans (by decide) this

mutual

/-- On one line there are no control characters. -/
theorem toNat_of_mem_write {c : Char} : ∀ j : Json, c ∈ write .oneLine j → 0x20 ≤ c.toNat
  | .truth true, h => by
    simp only [write, List.mem_cons, List.not_mem_nil, or_false] at h
    rcases h with rfl | rfl | rfl | rfl <;> decide
  | .truth false, h => by
    simp only [write, List.mem_cons, List.not_mem_nil, or_false] at h
    rcases h with rfl | rfl | rfl | rfl | rfl <;> decide
  | .natural n, h => toNat_of_isDigit (Numeral.isDigit_of_mem_toDigits (by simpa [write] using h))
  | .text s, h => toNat_of_mem_quotedChars (by simpa [write] using h)
  | .list [], h => by
    simp only [write, List.mem_cons, List.not_mem_nil, or_false] at h
    rcases h with rfl | rfl <;> decide
  | .list (item :: items), h => by
    simp only [write, Layout.deeper, Layout.newline, List.nil_append, List.append_nil,
      List.mem_cons, List.mem_append, List.not_mem_nil, or_false] at h
    rcases h with rfl | (h | h) | rfl
    · decide
    · exact toNat_of_mem_write item h
    · exact toNat_of_mem_writeItems items h
    · decide
  | .record [], h => by
    simp only [write, List.mem_cons, List.not_mem_nil, or_false] at h
    rcases h with rfl | rfl <;> decide
  | .record ((name, value) :: members), h => by
    simp only [write, Layout.deeper, Layout.newline, Layout.colon, List.nil_append,
      List.append_nil, List.mem_cons, List.mem_append, List.not_mem_nil, or_false] at h
    rcases h with rfl | (((h | rfl) | h) | h) | rfl
    · decide
    · exact toNat_of_mem_quotedChars h
    · decide
    · exact toNat_of_mem_write value h
    · exact toNat_of_mem_writeMembers members h
    · decide

theorem toNat_of_mem_writeItems {c : Char} :
    ∀ items : List Json, c ∈ writeItems .oneLine items → 0x20 ≤ c.toNat
  | [], h => by simp [writeItems] at h
  | item :: items, h => by
    simp only [writeItems, Layout.newline, List.nil_append, List.mem_cons, List.mem_append] at h
    rcases h with rfl | h | h
    · decide
    · exact toNat_of_mem_write item h
    · exact toNat_of_mem_writeItems items h

theorem toNat_of_mem_writeMembers {c : Char} :
    ∀ members : List (String × Json), c ∈ writeMembers .oneLine members → 0x20 ≤ c.toNat
  | [], h => by simp [writeMembers] at h
  | (name, value) :: members, h => by
    simp only [writeMembers, Layout.newline, Layout.colon, List.nil_append, List.mem_cons,
      List.mem_append, List.not_mem_nil, or_false] at h
    rcases h with rfl | ((h | rfl) | h) | h
    · decide
    · exact toNat_of_mem_quotedChars h
    · decide
    · exact toNat_of_mem_write value h
    · exact toNat_of_mem_writeMembers members h

end

theorem not_mem_write {c : Char} (hc : c.toNat < 0x20) (j : Json) : c ∉ write .oneLine j :=
  fun h => Nat.not_lt_of_le (toNat_of_mem_write j h) hc

end Json

namespace LogFile

theorem toList_render (es : List LogEntry) :
    (render es).toList =
      (es.map fun e => Json.write .oneLine e.toJson).flatMap (· ++ ['\n']) := by
  simp [render, String.toList_join, List.flatMap_map, LogEntry.line, Json.compact]

/-- The lines of entries hold no control characters. -/
theorem not_mem_of_mem_map_write {c : Char} (hc : c.toNat < 0x20) (es : List LogEntry) :
    ∀ l ∈ es.map fun e => Json.write .oneLine e.toJson, c ∉ l := by
  intro l hl
  obtain ⟨e, -, rfl⟩ := List.mem_map.1 hl
  exact Json.not_mem_write hc e.toJson

/-- The lines of entries are not blank. -/
theorem filter_map_write (es : List LogEntry) :
    (es.map fun e => Json.write .oneLine e.toJson).filter (!Text.isAllBlank ·) =
      es.map fun e => Json.write .oneLine e.toJson := by
  refine List.filter_eq_self.2 fun l hl => ?_
  obtain ⟨e, -, rfl⟩ := List.mem_map.1 hl
  rfl

theorem lines_render (es : List LogEntry) :
    (Text.lines (render es).toList).filter (!Text.isAllBlank ·) =
      es.map fun e => Json.write .oneLine e.toJson := by
  rw [toList_render, Text.lines_flatMap_ended (not_mem_of_mem_map_write (by decide) es)
    (not_mem_of_mem_map_write (by decide) es), filter_map_write]

theorem endsTorn_render (es : List LogEntry) : endsTorn (render es).toList = false := by
  rw [toList_render]
  rcases List.eq_nil_or_concat es with rfl | ⟨es, e, rfl⟩
  · rfl
  · simp [endsTorn]

theorem parseLine_write {e : LogEntry} (h : e.id < UInt64.size ∧ e.sheet < UInt64.size) :
    parseLine (Json.write .oneLine e.toJson) = .ok e := by
  rw [parseLine, Decoder.decode_write]
  exact e.decode_of_lt h.1 h.2

/-- The lines of entries are read before those that follow. -/
theorem parseLines_map_write_append {es : List LogEntry}
    (h : ∀ e ∈ es, e.id < UInt64.size ∧ e.sheet < UInt64.size) {torn torn' : Bool}
    {lines : List (List Char)} {fs : List LogEntry}
    (hlines : parseLines torn lines = .ok (fs, torn')) :
    parseLines torn (es.map (fun e => Json.write .oneLine e.toJson) ++ lines) =
      .ok (es ++ fs, torn') := by
  induction es with
  | nil => exact hlines
  | cons e es ih =>
    have he := parseLine_write (h e (by simp))
    simp [parseLines, he, ih fun e' he' => h e' (List.mem_cons_of_mem _ he')]

theorem parseLines_map_write {es : List LogEntry}
    (h : ∀ e ∈ es, e.id < UInt64.size ∧ e.sheet < UInt64.size) :
    parseLines false (es.map fun e => Json.write .oneLine e.toJson) = .ok (es, false) := by
  have hnil : parseLines false [] = .ok ([], false) := rfl
  simpa using parseLines_map_write_append h hnil

/-- **A written log reads back** if the numbers in it fit, and its last line is not torn. -/
theorem parse_render {es : List LogEntry} (hsorted : es.Pairwise (·.id ≤ ·.id))
    (h : ∀ e ∈ es, e.id < UInt64.size ∧ e.sheet < UInt64.size) :
    parse (render es) = .ok (es, false) := by
  have hsort : es.mergeSort (fun a b => a.id ≤ b.id) = es :=
    List.mergeSort_of_pairwise (hsorted.imp fun hle => by simpa using hle)
  rw [parse, lines_render, endsTorn_render, parseLines_map_write h]
  simp only [hsort]

theorem render_concat (es : List LogEntry) (e : LogEntry) :
    render (es ++ [e]) = render es ++ e.line := by
  simp [render]

/-- **The format of the log loses nothing.** Whatever is in the texts of the entries, a log that is
written for entries in order reads back as these entries, and so it does with the line of a further
entry after it. Neither ends in a torn line. -/
theorem written_and_appended_read_back {es : List LogEntry} (hsorted : es.Pairwise (·.id ≤ ·.id))
    (hfits : ∀ e ∈ es, e.id < UInt64.size ∧ e.sheet < UInt64.size) :
    parse (render es) = .ok (es, false) ∧
      ∀ e : LogEntry, (∀ f ∈ es, f.id < e.id) → e.id < UInt64.size → e.sheet < UInt64.size →
        parse (render es ++ e.line) = .ok (es ++ [e], false) := by
  refine ⟨parse_render hsorted hfits, fun e hlast hid hsheet => ?_⟩
  rw [← render_concat]
  refine parse_render ?_ fun f hf => ?_
  · refine List.pairwise_append.2 ⟨hsorted, by simp, fun f hf f' hf' => ?_⟩
    rw [List.mem_singleton.1 hf']
    exact Nat.le_of_lt (hlast f hf)
  · rcases List.mem_append.1 hf with hf | hf
    · exact hfits f hf
    · rw [List.mem_singleton.1 hf]
      exact ⟨hid, hsheet⟩

/-- A proposal whose texts hold what JSON escapes and what some readers take for a line's end. -/
def awkwardEntry (id : Nat) : LogEntry :=
  ⟨⟨1, "ana \"\\\" \u2028", "\r\n\u0000\u0085\n", false, .epoch⟩, id⟩

theorem written_and_appended_read_back_awkward :
    parse (render [awkwardEntry 1, awkwardEntry 3]) =
        .ok ([awkwardEntry 1, awkwardEntry 3], false) ∧
      parse (render [awkwardEntry 1, awkwardEntry 3] ++ (awkwardEntry 7).line) =
        .ok ([awkwardEntry 1, awkwardEntry 3, awkwardEntry 7], false) := by
  have hsorted : [awkwardEntry 1, awkwardEntry 3].Pairwise (·.id ≤ ·.id) := by decide
  have hfits : ∀ e ∈ [awkwardEntry 1, awkwardEntry 3],
      e.id < UInt64.size ∧ e.sheet < UInt64.size := by decide
  obtain ⟨hwritten, happended⟩ := written_and_appended_read_back hsorted hfits
  exact ⟨hwritten, happended (awkwardEntry 7) (by decide) (by decide) (by decide)⟩

end LogFile

end SharedSheet
