import SharedSheet.Proofs.Json.Truncated
import SharedSheet.Proofs.Store.LogFile

/-!
# The log after an append that did not end

An entry is appended to the log's file byte by byte, and what is there when the program ends in the
middle of it is a prefix of the entry's line. What is read then is the entries before, and the new
one just when the whole of its JSON is there; only the newline may be missing. The last line of the
text is torn, unless nothing or everything of the new line is there. `LogFile.Tells` says both at
once, and is all that has to be known of such a text.

A prefix of the bytes is a text only if it ends between two characters. Otherwise the file is no
text, and reading it fails.

## Main definitions

* `LogFile.Readable` — entries that can be read when they are written
* `LogFile.Tells` — what a text says when it is read

## Main results

* `LogFile.tells_render_append` — what the log says after a prefix of a line was appended to it
* `exists_prefix_or_not_isValidUTF8` — a prefix of the bytes of a text
-/

namespace SharedSheet

namespace LogFile

variable {es : List LogEntry} {e : LogEntry}

/-! ### Entries that can be read -/

/-- Entries in the order of their numbers, and numbers that fit into 64 bits. -/
structure Readable (es : List LogEntry) : Prop where
  ascending : es.Pairwise (·.id < ·.id)
  fits : ∀ e ∈ es, e.id < UInt64.size ∧ e.sheet < UInt64.size

namespace Readable

theorem nil : Readable [] := ⟨.nil, by simp⟩

theorem sublist {fs : List LogEntry} (h : Readable es) (hfs : fs.Sublist es) : Readable fs :=
  ⟨h.ascending.sublist hfs, fun e he => h.fits e (hfs.mem he)⟩

theorem concat (h : Readable es) (hlast : ∀ f ∈ es, f.id < e.id)
    (he : e.id < UInt64.size ∧ e.sheet < UInt64.size) : Readable (es ++ [e]) := by
  constructor
  · refine List.pairwise_append.2 ⟨h.ascending, by simp, fun f hf f' hf' => ?_⟩
    rw [List.mem_singleton.1 hf']
    exact hlast f hf
  · intro f hf
    rcases List.mem_append.1 hf with hf | hf
    · exact h.fits f hf
    · rw [List.mem_singleton.1 hf]
      exact he

end Readable

/-! ### Reading a log that was cut off -/

/-- What a text says when it is read. Unless its last line is torn it is the text of its entries. -/
def Tells (text : String) (es : List LogEntry) : Prop :=
  ∃ torn, parse text = .ok (es, torn) ∧ (torn = false → text = render es)

theorem tells_render (h : Readable es) : Tells (render es) es :=
  ⟨false, parse_render (h.ascending.imp Nat.le_of_lt) h.fits, fun _ => rfl⟩

theorem endsTorn_append {cs ds : List Char} (hds : '\n' ∉ ds) (hne : ds ≠ []) :
    endsTorn (cs ++ ds) = true := by
  obtain ⟨ds, c, rfl⟩ := (List.eq_nil_or_concat ds).resolve_left hne
  have hc : c ≠ '\n' := by
    rintro rfl
    simp at hds
  unfold endsTorn
  split
  case h_1 heq => simp at heq
  case h_2 heq => simp [hc] at heq
  case h_3 => rfl

/-- What is read when a line without a newline was appended to the log. -/
theorem parse_render_append (h : Readable es) {line : List Char} (hline : '\n' ∉ line)
    (hne : line ≠ []) (hblank : Text.isAllBlank line = false) {fs : List LogEntry}
    (hlast : parseLines true [line] = .ok (fs, true))
    (hsorted : (es ++ fs).Pairwise (·.id < ·.id)) :
    parse (render es ++ String.ofList line) = .ok (es ++ fs, true) := by
  have hlines : (Text.lines ((render es).toList ++ line)).filter (!Text.isAllBlank ·) =
      es.map (fun e => Json.write .oneLine e.toJson) ++ [line] := by
    rw [toList_render, Text.lines_flatMap_ended_append (not_mem_of_mem_map_write (by decide) es)
      (not_mem_of_mem_map_write (by decide) es) hline hne, List.filter_append, filter_map_write]
    simp [hblank]
  have hsort : (es ++ fs).mergeSort (fun a b => a.id ≤ b.id) = es ++ fs :=
    List.mergeSort_of_pairwise (hsorted.imp fun hlt => by simpa using Nat.le_of_lt hlt)
  rw [parse, String.toList_append, String.toList_ofList, hlines, endsTorn_append hline hne,
    parseLines_map_write_append h.fits hlast]
  simp only [hsort]

/-- A last line that is a prefix of an entry's JSON is read if it is all of it, and else dropped. -/
theorem parseLines_beginning (he : e.id < UInt64.size ∧ e.sheet < UInt64.size) {cs : List Char}
    (h : cs <+: Json.write .oneLine e.toJson) :
    parseLines true [cs] = .ok (if cs = Json.write .oneLine e.toJson then [e] else [], true) := by
  split
  · rename_i hwhole
    simp [parseLines, hwhole, parseLine_write he]
  · rename_i hpart
    obtain ⟨fault, hfault⟩ := Json.Decoder.decode_of_prefix_write LogEntry.recordForm _ _ h hpart
    rw [← parseLine] at hfault
    simp [parseLines, hfault]

/-- A prefix of an entry's JSON is not blank. -/
theorem isAllBlank_beginning {cs : List Char} (h : cs <+: Json.write .oneLine e.toJson)
    (hne : cs ≠ []) : Text.isAllBlank cs = false := by
  obtain ⟨tail, htail⟩ := h
  obtain ⟨c, cs, rfl⟩ := List.exists_cons_of_ne_nil hne
  obtain ⟨rfl, -⟩ := List.cons.inj htail
  rfl

/-- A prefix of a text with as many bytes is the text. -/
theorem eq_iff_of_beginning {s t : String} (h : s.toList <+: t.toList) :
    s.toList = t.toList ↔ t.utf8ByteSize ≤ s.utf8ByteSize := by
  obtain ⟨tail, htail⟩ := h
  have ht : t = s ++ String.ofList tail := by
    rw [← String.toList_inj, String.toList_append, String.toList_ofList, htail]
  have hempty : tail = [] ↔ (String.ofList tail).utf8ByteSize = 0 := by
    rw [String.utf8ByteSize_eq_zero_iff, String.ofList_eq_empty_iff]
  rw [← htail, ht, String.utf8ByteSize_append, List.self_eq_append_right, hempty]
  omega

/-- **What the log says after a prefix of a line was appended to it**: the new entry as well if its
JSON is whole. -/
theorem tells_render_append (h : Readable (es ++ [e])) {s rest : String}
    (hline : e.line = s ++ rest) :
    Tells (render es ++ s)
      (es ++ if e.toJson.compact.utf8ByteSize ≤ s.utf8ByteSize then [e] else []) := by
  have hes : Readable es := h.sublist (List.sublist_append_left _ _)
  have hlist : s.toList <+: Json.write .oneLine e.toJson ++ ['\n'] :=
    ⟨rest.toList, by rw [← String.toList_append, ← hline]; simp [LogEntry.line, Json.compact]⟩
  rcases List.prefix_concat_iff.1 hlist with hwhole | hbegins
  · -- The newline is there too.
    obtain rfl : s = e.line := by
      rw [← String.toList_inj, hwhole]
      simp [LogEntry.line, Json.compact]
    have hsize : e.toJson.compact.utf8ByteSize ≤ e.line.utf8ByteSize := by simp [LogEntry.line]
    rw [if_pos hsize, ← render_concat]
    exact tells_render h
  · have hcompact : e.toJson.compact.toList = Json.write .oneLine e.toJson := String.toList_ofList
    have hwhole := eq_iff_of_beginning (hcompact.symm ▸ hbegins)
    simp only [← hwhole, hcompact]
    by_cases hempty : s.toList = []
    · -- Nothing is there.
      obtain rfl : s = "" := String.toList_eq_nil_iff.1 hempty
      have hpart : ¬ [] = Json.write .oneLine e.toJson := by simp [LogEntry.toJson, Json.write]
      simpa [hpart] using tells_render hes
    · -- There is a torn line.
      have hline : '\n' ∉ s.toList := fun hmem =>
        Json.not_mem_write (by decide) e.toJson (hbegins.subset hmem)
      have hparse := parse_render_append hes hline hempty (isAllBlank_beginning hbegins hempty)
        (parseLines_beginning (h.fits e (by simp)) hbegins) ?_
      · rw [String.ofList_toList] at hparse
        exact ⟨true, hparse, by simp⟩
      · split
        · exact h.ascending
        · simpa using hes.ascending

end LogFile

/-! ### Bytes -/

/-- What follows a text in a text is a text. -/
theorem isValidUTF8_of_append {s : String} {bytes : ByteArray}
    (h : (s.toUTF8 ++ bytes).IsValidUTF8) : bytes.IsValidUTF8 := by
  have hstart : s.rawEndPos.IsValid (String.ofByteArray _ h) := by
    refine String.Pos.Raw.isValid_iff_isValidUTF8_extract_zero.2 ⟨?_, ?_⟩
    · simp [String.Pos.Raw.le_iff]
    · simpa [ByteArray.extract_append_eq_left] using s.isValidUTF8
  have hrest := (String.Pos.Raw.isValid_iff_isValidUTF8_extract_utf8ByteSize.1 hstart).2
  simpa [ByteArray.extract_append_eq_right] using hrest

/-- A prefix of the bytes of a text is a prefix of the text, or it ends within a character. -/
theorem exists_prefix_or_not_isValidUTF8 (s : String) (n : Nat) :
    (∃ t rest : String, s = t ++ rest ∧ t.utf8ByteSize = min n s.utf8ByteSize ∧
      s.toUTF8.extract 0 n = t.toUTF8) ∨ ¬ (s.toUTF8.extract 0 n).IsValidUTF8 := by
  by_cases hvalid : (s.toUTF8.extract 0 n).IsValidUTF8
  · refine .inl ?_
    by_cases hn : n ≤ s.utf8ByteSize
    · have hpos : (⟨n⟩ : String.Pos.Raw).IsValid s :=
        String.Pos.Raw.isValid_iff_isValidUTF8_extract_zero.2
          ⟨by simpa [String.Pos.Raw.le_iff] using hn, hvalid⟩
      obtain ⟨t, rest, rfl, ht⟩ := String.Pos.Raw.isValid_iff_exists_append.1 hpos
      obtain rfl : n = t.utf8ByteSize := congrArg String.Pos.Raw.byteIdx ht
      refine ⟨t, rest, rfl, (Nat.min_eq_left hn).symm, ?_⟩
      simp [ByteArray.extract_append_eq_left]
    · refine ⟨s, "", by simp, by omega, ?_⟩
      have hsize : s.toUTF8.size ≤ n := by
        simp only [String.toUTF8_eq_toByteArray, String.size_toByteArray]
        omega
      rw [← Nat.max_eq_left hsize, ByteArray.extract_zero_max_size]
  · exact .inr hvalid

end SharedSheet
