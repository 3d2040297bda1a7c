import Mathlib.Data.List.Sort
import SharedSheet.Proofs.Service.Run
import SharedSheet.Proofs.Worksheet.Payloads

/-!
# Polling

Subscribers hold worksheets of their own and ask for changes since the last update that they know.
They are told the payloads of the log, one after another. Only who asks since zero is told
something else, the cells of the cache written out as one payload. Both are to lead to the worksheet
that the service shows.

The first way is exact. A subscriber may even ask since an earlier update than the last one it
knows, because making changes once more in their order changes nothing. The second way is exact up
to one character: a term is written out and read again, and a carriage return at its end is taken
for a part of the line's end.

## Main results

* `Service.polling_converges` — asking since an update leads to the worksheet that is shown
* `Service.bootstrap_up_to_carriage_returns` — asking since zero does so for all terms that do not
  end in a carriage return, and for no others
-/

namespace SharedSheet

/-! ### What subscribers are told -/

namespace Book

variable {b : Book}

/-- The sheet that is named so is found for everybody who may see it. -/
theorem Sound.resolveVisible (h : b.Sound) {sheet : Sheet} (hsheet : sheet ∈ b.registry.sheets)
    {requester : String} (hvisible : sheet.isVisibleTo requester = true) :
    b.resolveVisible requester sheet.address = .ok sheet := by
  simp only [Book.resolveVisible, resolve_address h.registry hsheet, hvisible, if_true]

theorem sheetUpdates_accepted (id since : Nat) :
    b.sheetUpdates id .accepted since = (b.acceptedOf id).filter (since < ·.id) := by
  rw [sheetUpdates, acceptedOf, List.filter_filter]
  refine List.filter_congr fun e _ => ?_
  show (e.sheet == id && decide (since < e.id) && e.accepted) = _
  ac_rfl

/-- The payloads of the later accepted entries carry their changes. -/
theorem Sound.parse_acceptedOf (h : b.Sound) (id since : Nat) :
    Payload.parse (Delta.ofEntries ((b.acceptedOf id).filter (since < ·.id))).payload =
      .ok (((b.acceptedOf id).filter (since < ·.id)).flatMap LogEntry.edits) :=
  Payload.parse_ofEntries fun e he =>
    (h.readable e (mem_acceptedOf.1 (List.mem_filter.1 he).1).1).1

/-- The accepted entries up to a number are the only list of them in the order of their numbers. -/
theorem Sound.eq_acceptedOf_filter (h : b.Sound) {id k : Nat} {es : List LogEntry}
    (horder : es.Pairwise (·.id < ·.id))
    (hall : ∀ e, e ∈ es ↔ e ∈ b.entries ∧ e.accepted = true ∧ e.sheet = id ∧ e.id ≤ k) :
    es = (b.acceptedOf id).filter (·.id ≤ k) := by
  have : Std.Asymm fun e f : LogEntry => e.id < f.id := ⟨fun _ _ => Nat.lt_asymm⟩
  refine List.Pairwise.eq_of_mem_iff horder ((h.ascending_acceptedOf id).filter _) fun e => ?_
  rw [hall, List.mem_filter, mem_acceptedOf, decide_eq_true_eq, and_assoc, and_assoc]

end Book

/-- The changes up to an update and the changes since an earlier one are all changes. -/
theorem Worksheet.apply_since (w : Worksheet) {es : List LogEntry}
    (horder : es.Pairwise (·.id < ·.id)) {since k : Nat} (hle : since ≤ k) :
    (w.apply ((es.filter (·.id ≤ k)).flatMap LogEntry.edits)).apply
        ((es.filter (since < ·.id)).flatMap LogEntry.edits) =
      w.apply (es.flatMap LogEntry.edits) := by
  -- Three parts: up to `since`, from there to `k`, and after `k`. The second is made twice.
  have hupto := LogEntry.filter_le_append_filter_lt (horder.filter (·.id ≤ k)) since
  have hsince := LogEntry.filter_le_append_filter_lt (horder.filter (since < ·.id)) k
  have hall := LogEntry.filter_le_append_filter_lt horder k
  have hmiddle : (es.filter (·.id ≤ k)).filter (since < ·.id) =
      (es.filter (since < ·.id)).filter (·.id ≤ k) := by
    simp only [List.filter_filter, Bool.and_comm]
  have hafter : (es.filter (since < ·.id)).filter (k < ·.id) = es.filter (k < ·.id) := by
    rw [List.filter_filter]
    refine List.filter_congr fun e _ => ?_
    rw [Bool.and_eq_left_iff_imp]
    simp only [decide_eq_true_eq]
    omega
  rw [hafter] at hsince
  conv_lhs => rw [← hupto, ← hsince, ← hmiddle]
  rw [List.flatMap_append, List.flatMap_append, apply_again, ← List.flatMap_append,
    ← List.flatMap_append, hupto, hall]

/-! ### The cells of a cache written out -/

namespace Edit

theorem map_reference_received (es : List Edit) :
    (es.map received).map (·.reference) = es.map (·.reference) := by
  rw [List.map_map]
  rfl

theorem lastTerm?_map_received (r : Reference) (es : List Edit) :
    lastTerm? r (es.map received) = (lastTerm? r es).map receivedTerm := by
  have hfilter : (es.map received).filter (·.reference = r) =
      (es.filter (·.reference = r)).map received := by
    rw [List.filter_map]
    rfl
  rw [lastTerm?, hfilter, List.getLast?_map, lastTerm?, Option.map_map, Option.map_map]
  rfl

end Edit

namespace CachedSheet

variable (extent : Extent) {es : List LogEntry}

/-- Every cell was written by an entry. -/
theorem exists_entry_of_mem_rows (horder : es.Pairwise (·.id < ·.id))
    {row : Reference × CachedCell} (hrow : row ∈ (ofEntries extent es).cells.rows) :
    ∃ e ∈ es, e.id = row.2.updateId ∧ ⟨row.1, row.2.term⟩ ∈ e.edits := by
  have hfind := Table.mem_rows_iff.1 (show (row.1, row.2) ∈ _ from hrow)
  rw [find?_ofEntries] at hfind
  obtain ⟨e, he, hid, hterm, -⟩ := CachedCell.exists_of_last? horder hfind
  exact ⟨e, he, hid, Edit.mem_of_lastTerm? hterm⟩

/-- Since zero all cells are written. -/
theorem writtenSince_zero (horder : es.Pairwise (·.id < ·.id)) (hpos : ∀ e ∈ es, 0 < e.id) :
    (ofEntries extent es).writtenSince 0 =
      (ofEntries extent es).cells.rows.mergeSort fun a b => a.2.updateId ≤ b.2.updateId := by
  rw [writtenSince, List.filter_eq_self.2]
  intro row hrow
  obtain ⟨e, he, hid, -⟩ := exists_entry_of_mem_rows extent horder hrow
  exact decide_eq_true (hid ▸ hpos e he)

/-- The changes written since zero are those of all cells, in another order. -/
theorem writtenSince_zero_perm (horder : es.Pairwise (·.id < ·.id)) (hpos : ∀ e ∈ es, 0 < e.id) :
    (((ofEntries extent es).writtenSince 0).map fun row => (⟨row.1, row.2.term⟩ : Edit)).Perm
      (ofEntries extent es).edits := by
  rw [writtenSince_zero extent horder hpos]
  exact (List.mergeSort_perm _ _).map _

/-- What the cells make of a worksheet when they are written out and read again. -/
theorem applyPayload_delta (w : Worksheet) (horder : es.Pairwise (·.id < ·.id))
    (hpos : ∀ e ∈ es, 0 < e.id) :
    ∃ n, w.applyPayload ((ofEntries extent es).delta 0).payload =
      .ok (w.apply ((ofEntries extent es).edits.map Edit.received), n) := by
  have hperm := writtenSince_zero_perm extent horder hpos
  have hsound : ∀ e ∈ ((ofEntries extent es).writtenSince 0).map
      fun row => (⟨row.1, row.2.term⟩ : Edit), e.IsSound := fun e he => by
    obtain ⟨row, hrow, rfl⟩ := List.mem_map.1 (hperm.mem_iff.1 he)
    obtain ⟨f, -, -, hmem⟩ := exists_entry_of_mem_rows extent horder hrow
    exact Payload.isSound_of_mem_edits hmem
  rw [delta, Worksheet.applyPayload_of_parse (Payload.parse_render hsound)]
  refine ⟨_, congrArg (fun w => Except.ok (w, _)) (Worksheet.apply_congr _ fun r => ?_)⟩
  rw [Edit.lastTerm?_map_received, Edit.lastTerm?_map_received,
    Edit.lastTerm?_perm hperm (hperm.symm.pairwise (distinct_edits _) fun h => Ne.symm h)]

theorem get?_worksheet (s : CachedSheet) (r : Reference) :
    s.worksheet.get? r = (Edit.lastTerm? r s.edits).bind Worksheet.kept := by
  rw [worksheet_eq_apply, Worksheet.get?_apply]
  cases Edit.lastTerm? r s.edits <;> rfl

theorem ne_empty_of_get?_worksheet (s : CachedSheet) (r : Reference) (term : String)
    (h : s.worksheet.get? r = some term) : term ≠ "" := by
  rw [get?_worksheet] at h
  obtain ⟨last, -, hkept⟩ := Option.bind_eq_some_iff.1 h
  obtain ⟨rfl, hne⟩ := Worksheet.kept_eq_some_iff.1 hkept
  exact hne

/-- Cells that were written out and read again have the terms that come back. -/
theorem get?_apply_received (s : CachedSheet) (r : Reference) :
    (({ extent } : Worksheet).apply (s.edits.map Edit.received)).get? r =
      (s.worksheet.get? r).bind fun term => Worksheet.kept (Edit.receivedTerm term) := by
  rw [Worksheet.get?_apply, Edit.lastTerm?_map_received, get?_worksheet]
  cases Edit.lastTerm? r s.edits with
  | none => rfl
  | some term =>
    by_cases h : term = ""
    · subst h
      rfl
    · simp [Worksheet.kept, h]

theorem extent_apply_received :
    (({ extent } : Worksheet).apply ((ofEntries extent es).edits.map Edit.received)).extent =
      (ofEntries extent es).worksheet.extent := by
  rw [Worksheet.extent_apply, Edit.map_reference_received, worksheet_eq_apply,
    Worksheet.extent_apply, references_edits, extent_ofEntries_eq_keys]
  exact (Extent.growAll_growAll extent fun _ hr => hr).symm

end CachedSheet

/-- Terms that come back are the terms that were there only if none ends in a carriage return. -/
theorem Worksheet.eq_iff_of_received {w v : Worksheet} (hextent : w.extent = v.extent)
    (hget : ∀ r, w.get? r = (v.get? r).bind fun term => kept (Edit.receivedTerm term))
    (hkept : ∀ r term, v.get? r = some term → term ≠ "") :
    w = v ↔ ∀ r term, v.get? r = some term → term.toList.getLast? ≠ some '\r' := by
  constructor
  · rintro rfl r term hterm
    have hback := hget r
    rw [hterm, Option.bind_some, eq_comm, kept_eq_some_iff] at hback
    exact Edit.receivedTerm_eq_self_iff.1 hback.1
  · intro hends
    refine ext hextent fun r => ?_
    rw [hget]
    cases hterm : v.get? r with
    | none => rfl
    | some term =>
      rw [Option.bind_some, Edit.receivedTerm_eq_self_iff.2 (hends r term hterm)]
      exact kept_eq_some_iff.2 ⟨rfl, hkept r term hterm⟩

/-! ### Subscribers converge -/

namespace Service

variable {σ : Type} [Medium σ] {s : Service σ}

/-- What a service shows of a sheet is made by all accepted changes. -/
theorem Sound.exec_snapshot (h : s.Sound) {sheet : Sheet} (hsheet : sheet ∈ s.book.registry.sheets)
    {requester : String} (hvisible : sheet.isVisibleTo requester = true) :
    (Call.exec (snapshot requester sheet.address) s).1 =
      .ok (s.book.sheetState s.extent sheet.id).worksheet := by
  rw [Service.exec_snapshot h.mirrors_current, h.book.resolveVisible hsheet hvisible]
  rfl

theorem Sound.exec_subscriptionDelta (h : s.Sound) {sheet : Sheet}
    (hsheet : sheet ∈ s.book.registry.sheets) {requester : String}
    (hvisible : sheet.isVisibleTo requester = true) (since : Nat) :
    (Call.exec (subscriptionDelta requester sheet.address since) s).1 =
      .ok (if since = 0 then (s.book.sheetState s.extent sheet.id).delta 0
        else .ofEntries (s.book.sheetUpdates sheet.id .accepted since)) := by
  rw [Service.exec_subscriptionDelta h.mirrors_current, h.book.resolveVisible hsheet hvisible]
  rfl

/-- **Asking since an update leads to the worksheet that is shown.** A subscriber that has made the
accepted changes up to any later update, in the order of their numbers, ends up there too. -/
theorem polling_converges (h : s.Reachable) {sheet : Sheet}
    (hsheet : sheet ∈ s.book.registry.sheets) {requester : String}
    (hvisible : sheet.isVisibleTo requester = true) {since k : Nat} (hpos : 1 ≤ since)
    (hle : since ≤ k) {known : List LogEntry} (horder : known.Pairwise (·.id < ·.id))
    (hknown : ∀ e, e ∈ known ↔
      e ∈ s.book.entries ∧ e.accepted = true ∧ e.sheet = sheet.id ∧ e.id ≤ k) :
    ∃ held delta shown n,
      ({ extent := s.extent } : Worksheet).applyPayloads (known.map (·.payload)) = .ok held ∧
      (Call.exec (subscriptionDelta requester sheet.address since) s).1 = .ok delta ∧
      (Call.exec (snapshot requester sheet.address) s).1 = .ok shown ∧
      held.applyPayload delta.payload = .ok (shown, n) := by
  have hsound := h.sound
  have hread : ∀ e ∈ s.book.acceptedOf sheet.id, Payload.IsUpdate e.payload := fun e he =>
    hsound.book.readable e (Book.mem_acceptedOf.1 he).1
  obtain rfl := hsound.book.eq_acceptedOf_filter horder hknown
  refine ⟨_, _, _, (((s.book.acceptedOf sheet.id).filter (since < ·.id)).flatMap
      LogEntry.edits).length,
    Worksheet.applyPayloads_of_isUpdate fun e he => hread e (List.mem_filter.1 he).1,
    hsound.exec_subscriptionDelta hsheet hvisible since, hsound.exec_snapshot hsheet hvisible, ?_⟩
  rw [if_neg (Nat.ne_of_gt hpos), Book.sheetUpdates_accepted,
    Worksheet.applyPayload_of_parse (hsound.book.parse_acceptedOf ..), Book.sheetState,
    CachedSheet.worksheet_ofEntries,
    Worksheet.apply_since _ (hsound.book.ascending_acceptedOf _) hle]

/-- A service after payloads were published to one sheet. -/
def published (payloads : List String) : Service Book :=
  (Server.history Book ⟨10, 10⟩ false (publishing payloads)).1.service

theorem polling_converges_after_clearing :
    (published ["$A1 1\n$B2 x", "$A1"]).Reachable ∧ ∃ held delta shown n,
      ({ extent := (published ["$A1 1\n$B2 x", "$A1"]).extent } : Worksheet).applyPayloads
        ["$A1 1\n$B2 x"] = .ok held ∧
      (Call.exec (subscriptionDelta "bob" planSheet.address 1)
        (published ["$A1 1\n$B2 x", "$A1"])).1 = .ok delta ∧
      (Call.exec (snapshot "bob" planSheet.address)
        (published ["$A1 1\n$B2 x", "$A1"])).1 = .ok shown ∧
      held.applyPayload delta.payload = .ok (shown, n) := by
  have hreachable : (published ["$A1 1\n$B2 x", "$A1"]).Reachable :=
    reachable_of_isOpen (by decide +kernel) (by decide +kernel)
  have hknown : ((published ["$A1 1\n$B2 x", "$A1"]).book.acceptedOf 1).filter (·.id ≤ 1) =
      [⟨⟨1, "ana", "$A1 1\n$B2 x", true, .epoch⟩, 1⟩] := by decide +kernel
  have hsheet : planSheet ∈ (published ["$A1 1\n$B2 x", "$A1"]).book.registry.sheets := by
    decide +kernel
  have horder : ([⟨⟨1, "ana", "$A1 1\n$B2 x", true, .epoch⟩, 1⟩] : List LogEntry).Pairwise
      (·.id < ·.id) := List.pairwise_singleton ..
  have hvisible : planSheet.isVisibleTo "bob" = true := by decide
  have hmem : ∀ e, e ∈ [⟨⟨1, "ana", "$A1 1\n$B2 x", true, .epoch⟩, 1⟩] ↔
      e ∈ (published ["$A1 1\n$B2 x", "$A1"]).book.entries ∧ e.accepted = true ∧
        e.sheet = planSheet.id ∧ e.id ≤ 1 := fun e => by
    rw [← hknown, List.mem_filter, Book.mem_acceptedOf, decide_eq_true_eq, and_assoc, and_assoc]
    exact Iff.rfl
  have hconverges := polling_converges hreachable hsheet hvisible (Nat.le_refl 1) (Nat.le_refl 1)
    horder hmem
  exact ⟨hreachable, hconverges⟩

/-- **Asking since zero leads to the worksheet that is shown** if and only if none of its terms ends
in a carriage return. It always succeeds and leads to a worksheet of the same extent, in which just
the final carriage return of terms is missing. -/
theorem bootstrap_up_to_carriage_returns (h : s.Reachable) {sheet : Sheet}
    (hsheet : sheet ∈ s.book.registry.sheets) {requester : String}
    (hvisible : sheet.isVisibleTo requester = true) :
    ∃ delta shown made n,
      (Call.exec (subscriptionDelta requester sheet.address 0) s).1 = .ok delta ∧
      (Call.exec (snapshot requester sheet.address) s).1 = .ok shown ∧
      ({ extent := s.extent } : Worksheet).applyPayload delta.payload = .ok (made, n) ∧
      made.extent = shown.extent ∧
      (∀ r, made.get? r =
        (shown.get? r).bind fun term => Worksheet.kept (Edit.receivedTerm term)) ∧
      (made = shown ↔
        ∀ r term, shown.get? r = some term → term.toList.getLast? ≠ some '\r') := by
  have hsound := h.sound
  obtain ⟨n, happly⟩ := CachedSheet.applyPayload_delta s.extent { extent := s.extent }
    (hsound.book.ascending_acceptedOf sheet.id)
    fun e he => hsound.book.id_pos e (List.mem_filter.1 he).1
  refine ⟨_, _, _, n, hsound.exec_subscriptionDelta hsheet hvisible 0,
    hsound.exec_snapshot hsheet hvisible, happly, CachedSheet.extent_apply_received _,
    CachedSheet.get?_apply_received _ _, ?_⟩
  exact Worksheet.eq_iff_of_received (CachedSheet.extent_apply_received _)
    (CachedSheet.get?_apply_received _ _) (CachedSheet.ne_empty_of_get?_worksheet _)

theorem bootstrap_of_blanks : (published ["$A1  x \n$B2"]).Reachable ∧ ∃ delta shown made n,
    (Call.exec (subscriptionDelta "bob" planSheet.address 0)
      (published ["$A1  x \n$B2"])).1 = .ok delta ∧
    (Call.exec (snapshot "bob" planSheet.address) (published ["$A1  x \n$B2"])).1 = .ok shown ∧
    ({ extent := (published ["$A1  x \n$B2"]).extent } : Worksheet).applyPayload delta.payload =
      .ok (made, n) ∧
    made.extent = shown.extent ∧
    (∀ r, made.get? r =
      (shown.get? r).bind fun term => Worksheet.kept (Edit.receivedTerm term)) ∧
    (made = shown ↔
      ∀ r term, shown.get? r = some term → term.toList.getLast? ≠ some '\r') := by
  have hreachable : (published ["$A1  x \n$B2"]).Reachable :=
    reachable_of_isOpen (by decide +kernel) (by decide +kernel)
  have hsheet : planSheet ∈ (published ["$A1  x \n$B2"]).book.registry.sheets := by decide +kernel
  exact ⟨hreachable, bootstrap_up_to_carriage_returns hreachable hsheet (by decide)⟩

/-- Asking since zero does not always lead to the worksheet that is shown. -/
theorem not_forall_bootstrap_exact : ¬ ∀ s : Service Book, s.Reachable →
    ∀ sheet ∈ s.book.registry.sheets, ∀ requester, sheet.isVisibleTo requester = true →
      ∃ delta shown n,
        (Call.exec (subscriptionDelta requester sheet.address 0) s).1 = .ok delta ∧
        (Call.exec (snapshot requester sheet.address) s).1 = .ok shown ∧
        ({ extent := s.extent } : Worksheet).applyPayload delta.payload = .ok (shown, n) := by
  intro hexact
  obtain ⟨delta, shown, n, hdelta, hshown, happly⟩ := hexact (published ["$A1 x\r\r\n"])
    (reachable_of_isOpen (by decide +kernel) (by decide +kernel)) planSheet (by decide +kernel)
    "ana" (by decide +kernel)
  have hpayload : (Call.exec (subscriptionDelta "ana" planSheet.address 0)
      (published ["$A1 x\r\r\n"])).1.toOption = some ⟨"$A1 x\r\n", 1⟩ := by decide +kernel
  have hterm : (Call.exec (snapshot "ana" planSheet.address)
      (published ["$A1 x\r\r\n"])).1.toOption.bind (·.get? ⟨1, 1⟩) = some "x\r" := by
    decide +kernel
  have hmade : (({ extent := (published ["$A1 x\r\r\n"]).extent } : Worksheet).applyPayload
      "$A1 x\r\n").toOption.bind (·.1.get? ⟨1, 1⟩) = some "x" := by decide +kernel
  rw [hdelta] at hpayload
  rw [hshown] at hterm
  obtain rfl := Option.some.inj hpayload
  rw [happly] at hmade
  exact absurd (hterm.symm.trans hmade) (by decide)

end Service

end SharedSheet
