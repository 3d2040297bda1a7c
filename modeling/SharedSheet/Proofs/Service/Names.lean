import SharedSheet.Proofs.Service.Cursors

/-!
# What names and numbers stand for

Callers name a sheet by its owner and its name, entries of the log by its number. A name means at
most one sheet at any moment, but it may mean another one later: names get free when sheets are
deleted, and the service looks for a free name when it makes a sheet. A number means the same sheet
for good.

At one moment this is what soundness of the registry says. Over time it follows from the count of
sheets alone. The count never goes back, also when the store is opened again, and a sheet whose
number is not beyond the count was there before. So whoever finds a number twice has found one
sheet, and the sheet was there all the time.

## Main definitions

* `Registry.Unambiguous` — what names and numbers mean at one moment
* `Server.registryAfter` — the registry that events lead to

## Main results

* `Book.Grows.eq_of_id_eq` — a number means the same sheet in a book that grew
* `Server.names_identify_sheets` — names and numbers identify sheets in every run
-/

namespace SharedSheet

/-- Publishers are different, sheets have different numbers and different addresses, and every sheet
is a publisher's. -/
structure Registry.Unambiguous (g : Registry) : Prop where
  publishers : g.publishers.Nodup
  ids : g.sheets.Pairwise (·.id ≠ ·.id)
  addresses : g.sheets.Pairwise (·.address ≠ ·.address)
  owners : ∀ s ∈ g.sheets, s.owner ∈ g.publishers

theorem Registry.Sound.unambiguous {g : Registry} (h : g.Sound) : g.Unambiguous where
  publishers := h.publishers
  ids := h.ascending.imp Nat.ne_of_lt
  addresses := h.addresses
  owners s hs := List.contains_iff_mem.1 (h.owners s hs)

namespace Book.Grows

variable {b b' : Book} {s t : Sheet}

/-- **A number means the same sheet in a book that grew.** -/
theorem eq_of_id_eq (h : b.Grows b') (hb : b.Sound) (hs : s ∈ b.registry.sheets)
    (ht : t ∈ b'.registry.sheets) (hid : t.id = s.id) : t = s := by
  have hold : t ∈ b.registry.sheets := h.sheets t ht (hid ▸ hb.registry.id_le s hs)
  exact hb.registry.eq_of_id_eq hold hs hid

/-- A sheet with the number of one that was there before is that one, and was there in between. -/
theorem eq_and_mem_between {b'' : Book} (h : b.Grows b') (h' : b'.Grows b'') (hb : b.Sound)
    (hs : s ∈ b.registry.sheets) (ht : t ∈ b''.registry.sheets) (hid : t.id = s.id) :
    t = s ∧ s ∈ b'.registry.sheets := by
  have hold : t.id ≤ b'.registry.lastSheetId :=
    hid ▸ Nat.le_trans (hb.registry.id_le s hs) h.lastSheetId
  have hbetween : t ∈ b'.registry.sheets := h'.sheets t ht hold
  obtain rfl := h.eq_of_id_eq hb hs hbetween hid
  exact ⟨rfl, hbetween⟩

end Book.Grows

namespace Server

variable {σ : Type} [Medium σ]

/-- The registry of a server that starts on an empty store, after some events. -/
def registryAfter (σ : Type) [Medium σ] (extent : Extent) (keepsCheckpoint : Bool)
    (es : List Event) : Registry :=
  (history σ extent keepsCheckpoint es).1.service.book.registry

/-- **Names and numbers identify sheets**, on any medium and whatever requests, checkpoints,
restarts and refused accesses there were. At every moment they are unambiguous, and the address of a
sheet leads to that sheet. If a sheet of some moment has the number of a sheet that was there
before, it is that sheet, and was never gone in between: the number of a deleted sheet belongs to no
other one. Numbers of updates have 64 bits, so there are fewer than 2^64 updates. -/
theorem names_identify_sheets (extent : Extent) (keepsCheckpoint : Bool) (es : List Event)
    (hfew : (issuedIds (history σ extent keepsCheckpoint es).2).length < UInt64.size) :
    (registryAfter σ extent keepsCheckpoint es).Unambiguous ∧
    (∀ sheet ∈ (registryAfter σ extent keepsCheckpoint es).sheets,
      (Call.exec (Service.resolve sheet.address)
        (history σ extent keepsCheckpoint es).1.service).1 = .ok sheet) ∧
    ∀ earlier between, earlier <+: between → between <+: es →
      ∀ former ∈ (registryAfter σ extent keepsCheckpoint earlier).sheets,
      ∀ sheet ∈ (registryAfter σ extent keepsCheckpoint es).sheets, sheet.id = former.id →
        sheet = former ∧ former ∈ (registryAfter σ extent keepsCheckpoint between).sheets := by
  have hsound := (sound_history hfew).1.book.registry
  refine ⟨hsound.unambiguous, fun sheet hsheet => ?_, ?_⟩
  · rw [Service.exec_resolve]
    exact Book.resolve_address hsound hsheet
  · rintro earlier _ ⟨next, rfl⟩ ⟨last, rfl⟩ former hformer sheet hsheet hid
    have hbetween := (few_of_history_append hfew).1
    have hearlier := (sound_history (few_of_history_append hbetween).1).1.book
    have hgrows := grows_history hbetween
    exact hgrows.eq_and_mem_between (grows_history hfew) hearlier hformer hsheet hid

/-- A name is asked for that the service gave to another sheet, and one that got free. -/
def reusingNames : List Event :=
  publishing [] ++
    [.request .epoch (.create "ana" ⟨"ana", "plan"⟩),
      .request .epoch (.create "ana" ⟨"ana", "plan (1)"⟩),
      .request .epoch (.delete "ana" planSheet.address),
      .request .epoch (.create "ana" ⟨"ana", " plan "⟩)]

theorem names_identify_sheets_reusingNames :
    (registryAfter Book ⟨10, 10⟩ false reusingNames).sheets.map (fun s => (s.id, s.name)) =
        [(2, "plan (1)"), (3, "plan (1) (1)"), (4, "plan")] ∧
      (registryAfter Book ⟨10, 10⟩ false reusingNames).Unambiguous ∧
      planSheet.id ∉ (registryAfter Book ⟨10, 10⟩ false reusingNames).sheets.map (·.id) := by
  have hidentify := names_identify_sheets (σ := Book) ⟨10, 10⟩ false reusingNames (by decide +kernel)
  refine ⟨by decide +kernel, hidentify.1, fun hmem => ?_⟩
  obtain ⟨sheet, hsheet, hid⟩ := List.mem_map.1 hmem
  -- It was there after two events and gone after five.
  have hformer : planSheet ∈ (registryAfter Book ⟨10, 10⟩ false (reusingNames.take 2)).sheets := by
    decide +kernel
  have hgone : planSheet ∉ (registryAfter Book ⟨10, 10⟩ false (reusingNames.take 5)).sheets := by
    decide +kernel
  exact hgone (hidentify.2.2 (reusingNames.take 2) (reusingNames.take 5)
    (List.take_prefix_take_left (by decide)) (List.take_prefix 5 reusingNames)
    planSheet hformer sheet hsheet hid).2

end Server

end SharedSheet
