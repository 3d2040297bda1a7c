import SharedSheet.Proofs.Service.Run

/-!
# Whose entries are in the log

What counts in a sheet is what its owner says: an accepted entry is the owner's, and a private sheet
has no entries but the owner's, accepted or not. The log itself does not say who owns a sheet, the
registry does, and both change while a server runs. So the invariant is about the two together, and
it has to survive the deletion of a sheet and the making of a new one besides the entries
themselves. It does because numbers of sheets are not given twice: an entry is never found under a
sheet that was made after it.

## Main definitions

* `Sheet.Admits` — whose updates a sheet takes
* `Book.Authorized` — every entry is one that its sheet takes
* `Book.Lawful` — the log is in order, and everything in it is homed, readable and authorized

## Main results

* `Book.Authorized.respond` — every answer keeps the log authorized
* `Server.lawful_history` — the log of every server that is reached is lawful
-/

namespace SharedSheet

/-! ### Updates that a sheet takes -/

/-- Accepted updates are the owner's, and so are all updates of a sheet that only the owner sees. -/
def Sheet.Admits (s : Sheet) (d : Draft) : Prop :=
  (d.accepted = true → d.submitter = s.owner) ∧
    (s.visibility = .ownerOnly → d.submitter = s.owner)

theorem Sheet.Takes.admits {s : Sheet} {d : Draft} (h : s.Takes d) : s.Admits d := by
  have howner : s.isOwnedBy d.submitter = true → d.submitter = s.owner := fun howned =>
    (beq_iff_eq.1 howned).symm
  refine ⟨fun haccepted => howner (h.owned haccepted), fun hprivate => howner ?_⟩
  simpa [isVisibleTo, hprivate] using h.visible

namespace Book

variable {b : Book} {extent : Extent} {now : Timestamp} {d : Draft}

/-! ### Authorized books -/

/-- Every entry is one that its sheet takes. -/
def Authorized (b : Book) : Prop :=
  ∀ e ∈ b.entries, ∀ s ∈ b.registry.sheets, s.id = e.sheet → s.Admits e.toDraft

namespace Authorized

theorem empty : Authorized {} := by simp [Authorized]

theorem registerPublisher (h : b.Authorized) (p : String) :
    (b.registerPublisher p).2.Authorized := by
  unfold Book.registerPublisher
  split <;> exact h

/-- No entry is found under a new sheet: the sheet of every entry has a number already. -/
theorem insertSheet (h : b.Authorized) (hsound : b.Sound) (a : SheetAddress) (v : Visibility) :
    (b.insertSheet a v).2.Authorized := by
  intro e he
  refine Registry.forall_mem_addSheet (h e he) fun hid => ?_
  have hle := hsound.registry.le_of_hasSheet (hsound.homed e he)
  have hid : b.registry.lastSheetId + 1 = e.sheet := hid
  omega

theorem deleteSheet (h : b.Authorized) (sheet : Nat) : (b.deleteSheet sheet).2.Authorized :=
  fun e he s hs => h e (List.mem_filter.1 he).1 s (List.mem_filter.1 hs).1

/-- The sheet that takes an update is the only one with its number. -/
theorem append (h : b.Authorized) (hsound : b.Sound) {t : Sheet} (ht : t ∈ b.registry.sheets)
    (htakes : t.Takes d) : (b.append d).2.Authorized := by
  refine forall_mem_append h fun s hs hid => ?_
  obtain rfl := hsound.registry.eq_of_id_eq ht hs (htakes.sheet.symm.trans hid.symm)
  exact htakes.admits

/-- **Every answer keeps the log authorized.** -/
theorem respond (h : b.Authorized) (hsound : b.Sound) (extent : Extent) (now : Timestamp)
    (q : Request) : (b.respond extent now q).2.Authorized := by
  unfold Book.respond
  cases hplan : b.plan extent now q with
  | error e => exact h
  | ok action =>
    cases action with
    | tell answer => exact h
    | list publisher => exact h.registerPublisher publisher
    | make a v => exact h.insertSheet hsound a v
    | drop sheet => exact h.deleteSheet sheet
    | enter d =>
      obtain ⟨t, ht, htakes⟩ := exists_takes_of_plan hplan
      exact h.append hsound ht htakes

end Authorized

/-! ### Lawful books -/

/-- The log is in order, and everything in it is homed, readable and authorized. -/
structure Lawful (b : Book) : Prop where
  /-- Numbers grow. -/
  ascending : b.entries.Pairwise (·.id < ·.id)
  /-- Every entry is one of a sheet of the registry. -/
  homed : ∀ e ∈ b.entries, ∃ s ∈ b.registry.sheets, s.id = e.sheet
  /-- Every payload can be read and has a change. -/
  readable : ∀ e ∈ b.entries, ∃ edit edits, Payload.parse e.payload = .ok (edit :: edits)
  /-- What counts was said by the owner of the sheet. -/
  accepted : ∀ e ∈ b.entries, ∀ s ∈ b.registry.sheets, s.id = e.sheet → e.accepted = true →
    e.submitter = s.owner
  /-- Nobody but the owner said anything in a private sheet. -/
  hidden : ∀ e ∈ b.entries, ∀ s ∈ b.registry.sheets, s.id = e.sheet →
    s.visibility = .ownerOnly → e.submitter = s.owner

theorem Sound.lawful (h : b.Sound) (hauthorized : b.Authorized) : b.Lawful where
  ascending := h.ascending
  homed e he := Registry.hasSheet_iff.1 (h.homed e he)
  readable e he := by
    obtain ⟨hparse, hne⟩ := h.readable e he
    obtain ⟨edit, edits, hedits⟩ := List.exists_cons_of_ne_nil hne
    exact ⟨edit, edits, hedits ▸ hparse⟩
  accepted e he s hs hid := (hauthorized e he s hs hid).1
  hidden e he s hs hid := (hauthorized e he s hs hid).2

end Book

namespace Server

variable {σ : Type} [Medium σ]

/-- **The log of every server that is reached is lawful**, on any medium and whatever requests,
checkpoints, restarts and refused accesses there were. Numbers of updates have 64 bits, so there are
fewer than 2^64 updates. -/
theorem lawful_history (extent : Extent) (keepsCheckpoint : Bool) (es : List Event)
    (hfew : (issuedIds (history σ extent keepsCheckpoint es).2).length < UInt64.size) :
    (history σ extent keepsCheckpoint es).1.service.book.Lawful :=
  (sound_history hfew).1.book.lawful
    (book_history .empty (fun _ extent now q hsound h => h.respond hsound extent now q) hfew)

/-- A private sheet, in which nobody else may propose, beside one in which others do. -/
def proposing : List Event :=
  publishing ["$A1 1"] ++
    [.request .epoch (.create "ana" ⟨"ana", "diary-private"⟩),
      .request .epoch (.submit "ana" ⟨"ana", "diary-private"⟩ "$A1 secret"),
      .request .epoch (.submit "bea" ⟨"ana", "diary-private"⟩ "$A1 guess"),
      .request .epoch (.submit "bea" planSheet.address "$A1 2")]

theorem lawful_history_proposing :
    (history Book ⟨10, 10⟩ false proposing).1.service.book.entries.map (·.submitter) =
        ["ana", "ana", "bea"] ∧
      (history Book ⟨10, 10⟩ false proposing).1.service.book.Lawful :=
  ⟨by decide +kernel, lawful_history ⟨10, 10⟩ false proposing (by decide +kernel)⟩

end Server

end SharedSheet
