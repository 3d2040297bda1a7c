import SharedSheet.Proofs.Store.Numbers

/-!
# Opening a store after a crash

The store may crash in the middle of any call. What the next opening makes of the files is, for a
change of the registry, the book before the change or the book after it, and for an append the book
before it, with the new entry if the whole of its JSON was written.

Three things are lost on the way. Entries of sheets that are not there are dropped whenever the store
is opened, and the new entry is no exception. The number of such an entry is given again if only the
program that crashed knew it. And if the crash cuts a character of the new line in two then the log
is no text, and the store is never opened again.

## Main definitions

* `Book.afterCut` — the book that the files are those of after an append that was cut off

## Main results

* `Keeper.history_append_cut` — the life of a store goes on after an append that was cut off
* `Keeper.history_append_cut_within` — or it ends there, if a character was cut in two
* `Keeper.history_change_cut` — the life of a store goes on after a change that was cut off
* `Keeper.updateIds_change_cut` — a number that is given again
-/

namespace SharedSheet

namespace Keeper

variable {events before later : List StoreEvent} {k : Keeper} {b : Book} {lasting : Prop}
  {u : Nat}

/-! ### Running programs -/

theorem Knows.mirrors (h : Knows lasting u k b) {b' : Book} (hrunning : k.book? = some b') :
    b = b' ∧ ∃ g es, k.disk.Holds g es ∧ b'.Mirrors lasting u g es := by
  cases h with
  | running hd h =>
    obtain rfl := Option.some.inj hrunning
    exact ⟨rfl, _, _, hd, h⟩
  | ended | stuck => simp at hrunning

/-- What holds of a program that runs: its files mirror its book, and it has given no more numbers
than there were updates. -/
theorem mirrors_history (hfit : StoreEvent.Fit events)
    (hrunning : (history events).1.book? = some b) :
    (∃ g es, (history events).1.disk.Holds g es ∧ b.Mirrors True 0 g es) ∧
      b.registry.lastUpdateId ≤ (StoreEvent.drafts events).length ∧
      ∀ i ∈ StoreAnswer.sheetIds (history events).2, i ≤ b.registry.lastSheetId := by
  obtain ⟨b', hknows, hupdate, -, hsheets⟩ := (knows_empty True).run (.empty hfit)
  obtain ⟨rfl, hmirrors⟩ := hknows.mirrors hrunning
  exact ⟨hmirrors, by simpa using hupdate, hsheets.below⟩

theorem drafts_append (events more : List StoreEvent) :
    StoreEvent.drafts (events ++ more) = StoreEvent.drafts events ++ StoreEvent.drafts more := by
  simp [StoreEvent.drafts]

/-- Numbers that fit altogether fit in the beginning, and there is room for the others. -/
theorem fit_append (hfit : StoreEvent.Fit (before ++ later)) :
    StoreEvent.Fit before ∧ ∀ b : Book,
      b.registry.lastUpdateId ≤ (StoreEvent.drafts before).length → RoomFor b later := by
  have hfew := hfit.few
  have hsheet := hfit.sheet_lt
  rw [drafts_append, List.length_append] at hfew
  simp only [drafts_append, List.mem_append] at hsheet
  exact ⟨⟨fun d hd => hsheet d (.inl hd), by omega⟩,
    fun b hb => ⟨fun d hd => hsheet d (.inr hd), by omega⟩⟩

/-- A program that runs crashes, and the store is opened again. -/
theorem history_crash_start (hrunning : (history before).1.book? = some b) (c : StoreCall)
    (done : Nat) (begun : Option Nat) :
    (history (before ++ [.crash c done begun, .start])).1 =
      (step ⟨(history before).1.disk.performUntil (c.effects b) done begun, none⟩ .start).1 := by
  rw [history] at hrunning
  simp only [history, run_append, run, step, hrunning]

/-! ### Appends -/

/-- A store whose log is no text is never opened again. -/
theorem not_running_of_illegible {d : Disk} (h : d.Illegible) (events : List StoreEvent) :
    (run ⟨d, none⟩ events).1.book? = none ∧ (run ⟨d, none⟩ events).2 = [] := by
  induction events generalizing d with
  | nil => exact ⟨rfl, rfl⟩
  | cons event events ih =>
    cases event with
    | start =>
      obtain ⟨fault, hopen⟩ := h.openDisk
      simp only [run, step, hopen]
      exact ih h
    | call c => exact ih h
    | refuse r => exact ih (h.refuse r)
    | crash c done begun => exact ih h

section Appends

variable {d : Disk} {g : Registry} {es : List LogEntry}

theorem step_start_of_mirrors (h : b.Mirrors True u g es) (hd : d.Tells g es)
    (hsteady : d.Steady) (hsheet : b.registry.lastSheetId < UInt64.size)
    (hupdate : b.registry.lastUpdateId < UInt64.size) (b? : Option Book) :
    ∃ d' b' es', d'.Holds g es' ∧ b'.Mirrors True u g es' ∧ d'.Steady ∧ b.Reopened b' ∧
      step ⟨d, b?⟩ .start = (⟨d', some b'⟩, none) := by
  obtain ⟨d', hd', hsteady', hstep⟩ :=
    step_start_of_tells hd hsteady (h.fits hsheet hupdate) b?
  exact ⟨d', _, _, hd', h.opened, hsteady', h.reopened, hstep⟩

/-- Entries that are appended to a store that is opened again and again are all read back, but for
those of sheets that are not there. -/
theorem run_appends (hd : d.Holds g es) (h : b.Mirrors True u g es) (hsteady : d.Steady)
    (hsheet : b.registry.lastSheetId < UInt64.size) (hroom : RoomFor b later)
    (hlater : ∀ event ∈ later, event = .start ∨ ∃ d', event = .call (.append d')) :
    (StoreAnswer.newEntries (run ⟨d, some b⟩ later).2).map (·.toDraft) = StoreEvent.drafts later ∧
      ∃ b', (run ⟨d, some b⟩ (later ++ [.start])).1.book? = some b' ∧
        b'.entries = (b.entries ++ StoreAnswer.newEntries (run ⟨d, some b⟩ later).2).filter
          fun e => b.registry.hasSheet e.sheet := by
  -- An opening in between drops only what the last one would have dropped.
  induction later generalizing d b es with
  | nil =>
    obtain ⟨d', b', es', -, -, -, hreopened, hstep⟩ := step_start_of_mirrors h
      (hd.tells h.readable) hsteady hsheet (Nat.lt_of_le_of_lt (Nat.le_add_right ..) hroom.few)
      (some b)
    refine ⟨rfl, b', by simp only [List.nil_append, run, hstep], ?_⟩
    rw [hreopened.entries]
    simp [run, StoreAnswer.newEntries]
  | cons event later ih =>
    have hlater' := fun event' hevent => hlater event' (List.mem_cons_of_mem _ hevent)
    rcases hlater event (by simp) with rfl | ⟨draft, rfl⟩
    · obtain ⟨d', b₁, es', hd', h', hsteady', hreopened, hstep⟩ := step_start_of_mirrors h
        (hd.tells h.readable) hsteady hsheet (Nat.lt_of_le_of_lt (Nat.le_add_right ..) hroom.few)
        (some b)
      obtain ⟨hdrafts, b', hbook, hentries⟩ := ih hd' h' hsteady' (hreopened.lastSheetId ▸ hsheet)
        (hroom.tail hreopened.lastUpdateId_le) hlater'
      simp only [List.cons_append, run, hstep]
      refine ⟨hdrafts, b', hbook, ?_⟩
      simp only [hentries, hreopened.hasSheet, hreopened.entries]
      simp
    · obtain ⟨d', hd', hsteady', hstep⟩ := step_append_of_holds hd hsteady b draft
      obtain ⟨hsheet', hid⟩ := hroom.head draft rfl
      obtain ⟨hdrafts, b', hbook, hentries⟩ := ih hd' (h.append hsheet' hid) hsteady' hsheet
        (hroom.tail (counters_onFiles b (.append draft)).1) hlater'
      have hnew : ∀ answers, StoreAnswer.newEntries
          ((some (StoreAnswer.entry (b.nextEntry draft))).toList ++ answers) =
            b.nextEntry draft :: StoreAnswer.newEntries answers := fun answers => rfl
      simp only [List.cons_append, run, hstep, hnew]
      refine ⟨congrArg (draft :: ·) hdrafts, b', hbook, ?_⟩
      rw [hentries]
      simp [Book.append, Book.addEntry]

end Appends

end Keeper

/-- The book that the files are those of after an append of which some bytes were written. -/
def Book.afterCut (b : Book) (draft : Draft) (written : Nat) : Book :=
  if (b.nextEntry draft).toJson.compact.utf8ByteSize ≤ written then (b.append draft).2 else b

namespace Book

variable {b b' : Book} {draft : Draft} {written : Nat}

theorem lastUpdateId_afterCut_le :
    (b.afterCut draft written).registry.lastUpdateId ≤ b.registry.lastUpdateId + 1 := by
  unfold afterCut
  split
  · exact Nat.max_le.2 ⟨Nat.le_succ _, Nat.le_refl _⟩
  · exact Nat.le_succ _

theorem lastSheetId_afterCut :
    (b.afterCut draft written).registry.lastSheetId = b.registry.lastSheetId := by
  unfold afterCut
  split <;> rfl

theorem hasSheet_afterCut (id : Nat) :
    (b.afterCut draft written).registry.hasSheet id = b.registry.hasSheet id := by
  unfold afterCut
  split <;> rfl

/-- The new entry is found again if its JSON is whole and its sheet is there. -/
theorem Reopened.entries_afterCut (h : (b.afterCut draft written).Reopened b') (hhomed : b.Homed) :
    b'.entries = b.entries ++ if (b.nextEntry draft).toJson.compact.utf8ByteSize ≤ written ∧
      b.registry.hasSheet draft.sheet = true then [b.nextEntry draft] else [] := by
  have hentries : b.entries.filter (fun e => b.registry.hasSheet e.sheet) = b.entries :=
    List.filter_eq_self.2 hhomed
  simp only [h.entries, hasSheet_afterCut]
  unfold afterCut
  by_cases hwhole : (b.nextEntry draft).toJson.compact.utf8ByteSize ≤ written
  · have hafter : (b.append draft).2.entries = b.entries ++ [b.nextEntry draft] := rfl
    rw [if_pos hwhole, hafter, List.filter_append, hentries]
    have hnext : (b.nextEntry draft).sheet = draft.sheet := rfl
    cases hsheet : b.registry.hasSheet draft.sheet <;> simp [hwhole, hnext, hsheet]
  · simp [hwhole, hentries]

/-- The append of an entry was cut off between two characters. -/
theorem Mirrors.append_cut {lasting : Prop} {u : Nat} {g : Registry} {es : List LogEntry} {d : Disk}
    (h : b.Mirrors lasting u g es) (hd : d.Holds g es) (hsteady : d.Steady)
    (hsheet : draft.sheet < UInt64.size) (hid : b.registry.lastUpdateId + 1 < UInt64.size)
    (hcut : (⟨written⟩ : String.Pos.Raw).IsValid (b.nextEntry draft).line) :
    ∃ es', (d.performUntil ((StoreCall.append draft).effects b) 0 (some written)).Tells g es' ∧
      (b.afterCut draft written).Mirrors lasting u g es' := by
  obtain ⟨s, rest, hline, hwritten⟩ := String.Pos.Raw.isValid_iff_exists_append.1 hcut
  obtain rfl : written = s.utf8ByteSize := congrArg String.Pos.Raw.byteIdx hwritten
  have hafter := h.append hsheet hid
  refine ⟨_, hd.append_cut hafter.readable hsteady hline, ?_⟩
  unfold afterCut
  split
  · exact hafter
  · rw [List.append_nil]
    exact h

end Book

namespace Keeper

variable {before later : List StoreEvent} {b : Book}

/-- The store is opened after an append that was cut off between two characters. -/
theorem step_start_append_cut {u : Nat} {g : Registry} {es : List LogEntry} {d : Disk}
    {draft : Draft} {written : Nat} (h : b.Mirrors True u g es) (hd : d.Holds g es)
    (hsteady : d.Steady) (hsheet : b.registry.lastSheetId < UInt64.size)
    (hdraft : draft.sheet < UInt64.size) (hid : b.registry.lastUpdateId + 1 < UInt64.size)
    (hcut : (⟨written⟩ : String.Pos.Raw).IsValid (b.nextEntry draft).line) :
    ∃ d' b' es', d'.Holds g es' ∧ b'.Mirrors True u g es' ∧ d'.Steady ∧
      (b.afterCut draft written).Reopened b' ∧
      step ⟨d.performUntil ((StoreCall.append draft).effects b) 0 (some written), none⟩ .start =
        (⟨d', some b'⟩, none) := by
  obtain ⟨es', htells, hmirrors⟩ := h.append_cut hd hsteady hdraft hid hcut
  have hstill : (d.performUntil ((StoreCall.append draft).effects b) 0 (some written)).Steady :=
    FileStore.steady_of_refuses_eq (s := ⟨b, d⟩) (Disk.refuses_performUntil ..) hsteady
  have hfew : (b.afterCut draft written).registry.lastUpdateId < UInt64.size :=
    Nat.lt_of_le_of_lt Book.lastUpdateId_afterCut_le hid
  have hsheet' : (b.afterCut draft written).registry.lastSheetId < UInt64.size := by
    rw [Book.lastSheetId_afterCut]
    exact hsheet
  exact step_start_of_mirrors hmirrors htells hstill hsheet' hfew none

/-- **The life of a store goes on after an append that was cut off.** The entries before it were ones
of sheets that are there, and the bytes written end where a character ends. The store is opened
again with these entries, and with the new one if its JSON is whole and its sheet is there. What is
appended from then on is read back after them, again but for entries of sheets that are not there. -/
theorem history_append_cut {draft : Draft} {written : Nat}
    (hfit : StoreEvent.Fit
      (before ++ .crash (.append draft) 0 (some written) :: .start :: later))
    (hrunning : (history before).1.book? = some b) (hsteady : (history before).1.disk.Steady)
    (hsheet : b.registry.lastSheetId < UInt64.size) (hhomed : b.Homed)
    (hcut : (⟨written⟩ : String.Pos.Raw).IsValid (b.nextEntry draft).line)
    (hlater : ∀ event ∈ later, event = .start ∨ ∃ d, event = .call (.append d)) :
    let opened :=
      (history (before ++ [.crash (.append draft) 0 (some written), .start])).1
    let recovered := b.entries ++
      if (b.nextEntry draft).toJson.compact.utf8ByteSize ≤ written ∧
        b.registry.hasSheet draft.sheet = true then [b.nextEntry draft] else []
    (∃ b', opened.book? = some b' ∧ b'.entries = recovered) ∧
      (StoreAnswer.newEntries (opened.run later).2).map (·.toDraft) = StoreEvent.drafts later ∧
      ∃ b', (opened.run (later ++ [.start])).1.book? = some b' ∧
        b'.entries = recovered ++ (StoreAnswer.newEntries (opened.run later).2).filter
          fun e => b.registry.hasSheet e.sheet := by
  obtain ⟨hfitBefore, hroom⟩ := fit_append hfit
  obtain ⟨⟨g, es, hd, h⟩, hcount, -⟩ := mirrors_history hfitBefore hrunning
  have hroom := hroom b hcount
  obtain ⟨hdraft, hid⟩ := hroom.head draft rfl
  obtain ⟨d₁, b₁, es₁, hd₁, h₁, hsteady₁, hreopened, hstep⟩ :=
    step_start_append_cut h hd hsteady hsheet hdraft hid hcut
  have hthere : ∀ id, b₁.registry.hasSheet id = b.registry.hasSheet id := fun id =>
    (hreopened.hasSheet id).trans (Book.hasSheet_afterCut id)
  have hkept : b₁.entries.filter (fun e => b.registry.hasSheet e.sheet) = b₁.entries :=
    List.filter_eq_self.2 fun e he => hthere e.sheet ▸ hreopened.homed e he
  have hroom₁ : RoomFor b₁ (.start :: later) :=
    hroom.tail (Nat.le_trans hreopened.lastUpdateId_le Book.lastUpdateId_afterCut_le)
  obtain ⟨hdrafts, b', hrunning', hentries'⟩ := run_appends hd₁ h₁ hsteady₁
    (by rw [hreopened.lastSheetId, Book.lastSheetId_afterCut]; exact hsheet)
    (hroom₁.tail (Nat.le_refl _)) hlater
  rw [history_crash_start hrunning, hstep]
  refine ⟨⟨b₁, rfl, hreopened.entries_afterCut hhomed⟩, hdrafts, b', hrunning', ?_⟩
  simp only [hentries', hthere, List.filter_append, hkept]
  rw [hreopened.entries_afterCut hhomed]

/-- The JSON of an entry ends where a character ends. -/
theorem isValid_line (e : LogEntry) :
    (⟨e.toJson.compact.utf8ByteSize⟩ : String.Pos.Raw).IsValid e.line :=
  String.Pos.Raw.isValid_iff_exists_append.2 ⟨e.toJson.compact, "\n", rfl, rfl⟩

/-- An update of a sheet. -/
def shortDraft : Draft := StoreCall.updateOf 1 .epoch

/-- The life of a store with one sheet and one update. -/
def shortLife : List StoreEvent :=
  [.start, .call (.insertSheet ⟨"ana", "plan"⟩ .everyone), .call (.append shortDraft)]

/-- The book at the end of it. -/
def shortBook : Book :=
  ((Book.insertSheet ⟨"ana", "plan"⟩ .everyone {}).2.append shortDraft).2

theorem book_shortLife : (history shortLife).1.book? = some shortBook := rfl

theorem steady_shortLife : (history shortLife).1.disk.Steady := fun _ => rfl

theorem homed_shortBook : shortBook.Homed := fun e he => by
  obtain rfl := List.mem_singleton.1 he
  rfl

/-- Of the line of the next entry all is there but the newline. -/
def shortCut : StoreEvent :=
  .crash (.append shortDraft) 0
    (some (shortBook.nextEntry shortDraft).toJson.compact.utf8ByteSize)

theorem history_append_cut_shortLife :
    StoreEvent.Fit (shortLife ++ shortCut :: .start :: [.call (.append shortDraft), .start]) ∧
      (history shortLife).1.book? = some shortBook ∧ (history shortLife).1.disk.Steady ∧
      shortBook.registry.lastSheetId < UInt64.size ∧ shortBook.Homed ∧
      (⟨(shortBook.nextEntry shortDraft).toJson.compact.utf8ByteSize⟩ : String.Pos.Raw).IsValid
        (shortBook.nextEntry shortDraft).line ∧
      ∃ b', (history (shortLife ++ [shortCut, .start])).1.book? = some b' ∧
        b'.entries = shortBook.entries ++ [shortBook.nextEntry shortDraft] := by
  have hfit : StoreEvent.Fit
      (shortLife ++ shortCut :: .start :: [.call (.append shortDraft), .start]) :=
    ⟨by decide, by decide⟩
  have hsheet : shortBook.registry.lastSheetId < UInt64.size := by decide
  have hcut := isValid_line (shortBook.nextEntry shortDraft)
  have hlater : ∀ event ∈ [.call (.append shortDraft), .start],
      event = StoreEvent.start ∨ ∃ d, event = .call (.append d) := by simp
  obtain ⟨⟨b', hbook, hentries⟩, -⟩ := history_append_cut hfit book_shortLife steady_shortLife
    hsheet homed_shortBook hcut hlater
  rw [if_pos ⟨Nat.le_refl _, rfl⟩] at hentries
  refine ⟨hfit, book_shortLife, steady_shortLife, hsheet, homed_shortBook, hcut, b', ?_, hentries⟩
  rw [shortCut]
  exact hbook

/-- An entry of a sheet that is not there is not found again, though all of its line is there. -/
theorem entries_append_cut_of_not_hasSheet (draft : Draft) (hdraft : draft.sheet < UInt64.size) :
    ∃ b', (history [.start, .crash (.append draft) 0
        (some (Book.nextEntry {} draft).line.utf8ByteSize), .start]).1.book? = some b' ∧
      b'.entries = [] := by
  have hrunning : (history [.start]).1.book? = some {} := rfl
  have hdisk : (history [.start]).1.disk = {} := rfl
  have hcut := String.Pos.Raw.isValid_rawEndPos (s := (Book.nextEntry {} draft).line)
  obtain ⟨d, b', -, -, -, -, hreopened, hstep⟩ := step_start_append_cut (Book.mirrors_empty True)
    Disk.holds_empty (fun _ => rfl) (show 0 < UInt64.size by decide) hdraft
    (show 1 < UInt64.size by decide) hcut
  have hcrash := history_crash_start hrunning (.append draft) 0
    (some (Book.nextEntry {} draft).line.utf8ByteSize)
  rw [hdisk, hstep, List.singleton_append] at hcrash
  refine ⟨b', ?_, ?_⟩
  · rw [hcrash]
  · rw [hreopened.entries_afterCut (by simp [Book.Homed]), if_neg fun h => Bool.noConfusion h.2]
    rfl

/-- It is not enough that the JSON of the new entry is whole. -/
theorem not_forall_history_append_cut :
    ¬ ∀ (before later : List StoreEvent) (b : Book) (draft : Draft) (written : Nat),
      StoreEvent.Fit (before ++ .crash (.append draft) 0 (some written) :: .start :: later) →
      (history before).1.book? = some b → (history before).1.disk.Steady →
      b.registry.lastSheetId < UInt64.size → b.Homed →
      written ≤ (b.nextEntry draft).line.utf8ByteSize →
      (∀ event ∈ later, event = .start ∨ ∃ d, event = .call (.append d)) →
      let opened := (history (before ++ [.crash (.append draft) 0 (some written), .start])).1
      let recovered := b.entries ++
        if (b.nextEntry draft).toJson.compact.utf8ByteSize ≤ written then [b.nextEntry draft] else []
      (∃ b', opened.book? = some b' ∧ b'.entries = recovered) ∧
        ∃ b', (opened.run (later ++ [.start])).1.book? = some b' ∧
          b'.entries = recovered ++ StoreAnswer.newEntries (opened.run later).2 := by
  intro h
  have hwhole : (Book.nextEntry {} (StoreCall.updateOf 7 .epoch)).toJson.compact.utf8ByteSize ≤
      (Book.nextEntry {} (StoreCall.updateOf 7 .epoch)).line.utf8ByteSize := by
    simp [LogEntry.line]
  obtain ⟨⟨b', hbook, hentries⟩, -⟩ := h [.start] [] {} (StoreCall.updateOf 7 .epoch) _
    ⟨by decide, by decide⟩ rfl (fun _ => rfl) (by decide) (by simp [Book.Homed])
    (Nat.le_refl _) (by simp)
  obtain ⟨b'', hbook', hlost⟩ :=
    entries_append_cut_of_not_hasSheet (StoreCall.updateOf 7 .epoch) (by decide)
  obtain rfl : b' = b'' := Option.some.inj (hbook.symm.trans hbook')
  rw [hlost, if_pos hwhole] at hentries
  simp at hentries

/-- **A store is lost when an append is cut off within a character.** Its log is no text any more. -/
theorem history_append_cut_within {draft : Draft} {written : Nat} (hfit : StoreEvent.Fit before)
    (hrunning : (history before).1.book? = some b) (hsteady : (history before).1.disk.Steady)
    (hle : written ≤ (b.nextEntry draft).line.utf8ByteSize)
    (hcut : ¬ (⟨written⟩ : String.Pos.Raw).IsValid (b.nextEntry draft).line)
    (later : List StoreEvent) :
    (history (before ++ .crash (.append draft) 0 (some written) :: later)).1.book? = none ∧
      (history (before ++ .crash (.append draft) 0 (some written) :: later)).2 =
        (history before).2 := by
  obtain ⟨⟨g, es, hd, -⟩, -, -⟩ := mirrors_history hfit hrunning
  obtain ⟨hstopped, hsilent⟩ :=
    not_running_of_illegible (hd.append_cut_illegible hsteady hle hcut) later
  have hcrash : step (history before).1 (.crash (.append draft) 0 (some written)) =
      (⟨(history before).1.disk.performUntil [.append .log (b.nextEntry draft).line.toUTF8] 0
        (some written), none⟩, none) := by
    simp only [step, hrunning]
    rfl
  rw [history] at hcrash ⊢
  simp only [run_append, run, hcrash]
  exact ⟨hstopped, (congrArg ((history before).2 ++ ·) hsilent).trans (List.append_nil _)⟩

/-! ### Changes of the registry -/

section Changes

variable {u : Nat} {d : Disk} {g : Registry} {es : List LogEntry} {c : StoreCall}

/-- A call that appends nothing keeps all entries ones of sheets that are there. -/
theorem homed_onFiles (hb : ∀ s ∈ b.registry.sheets, s.id ≤ b.registry.lastSheetId)
    (hc : c.draft? = none) (hhomed : b.Homed) : (c.onFiles b).2.Homed := by
  rcases c.effects_cases hb with ⟨draft, rfl⟩ | ⟨-, -, hbook⟩ | ⟨-, -, hchanges⟩
  · exact absurd rfl (StoreCall.ne_append hc draft)
  · rw [hbook]
    exact hhomed
  · exact hchanges.homed hhomed

/-- The call is made, and the program does not crash. -/
theorem book_history_call (hrunning : (history before).1.book? = some b)
    (h : b.Mirrors True u g es) (hd : (history before).1.disk.Holds g es)
    (hsteady : (history before).1.disk.Steady) (hc : c.draft? = none) :
    (history (before ++ [.call c])).1.book? = some (c.onFiles b).2 := by
  obtain ⟨d', -, -, -, ⟨hrun, -⟩ | ⟨-, -, hunsteady⟩⟩ := h.perform hd c
    fun draft happend => absurd happend (StoreCall.ne_append hc draft)
  · rw [history] at hrunning hrun
    simp only [history, run_append, run, step, hrunning, hrun]
  · exact absurd hsteady hunsteady

/-- Where the counters are if a call was made or not. -/
theorem counters_cut {b₁ : Book} (hb₁ : b₁ = b ∨ b₁ = (c.onFiles b).2) :
    b₁.registry.lastUpdateId ≤ b.registry.lastUpdateId + c.draft?.toList.length ∧
      b.registry.lastSheetId ≤ b₁.registry.lastSheetId ∧
      b₁.registry.lastSheetId ≤ (c.onFiles b).2.registry.lastSheetId := by
  obtain ⟨hupdate, hsheet⟩ := counters_onFiles b c
  rcases hb₁ with rfl | rfl
  · exact ⟨Nat.le_add_right .., Nat.le_refl _, hsheet⟩
  · exact ⟨hupdate, hsheet, Nat.le_refl _⟩

/-- The store is opened after a call that was cut off: it is the one before the call or the one
after it. -/
theorem step_start_change_cut (h : b.Mirrors True u g es) (hd : d.Holds g es) (hsteady : d.Steady)
    (hc : c.draft? = none) (hsheet : (c.onFiles b).2.registry.lastSheetId < UInt64.size)
    (hupdate : b.registry.lastUpdateId < UInt64.size) (done : Nat) (begun : Option Nat) :
    ∃ d' b₁ b' g' es', (b₁ = b ∨ b₁ = (c.onFiles b).2) ∧ b₁.Reopened b' ∧ d'.Holds g' es' ∧
      b'.Mirrors True u g' es' ∧
      step ⟨d.performUntil (c.effects b) done begun, none⟩ .start = (⟨d', some b'⟩, none) := by
  have hstill : (d.performUntil (c.effects b) done begun).Steady :=
    FileStore.steady_of_refuses_eq (s := ⟨b, d⟩) (Disk.refuses_performUntil ..) hsteady
  rcases h.performUntil hd c (fun draft happend => absurd happend (StoreCall.ne_append hc draft))
      done begun with ⟨-, draft, happend⟩ | ⟨b₁, g', es', hb₁, htells, hmirrors⟩
  · exact absurd happend (StoreCall.ne_append hc draft)
  · obtain ⟨hcount, -, hle⟩ := counters_cut hb₁
    rw [hc] at hcount
    obtain ⟨d', b', es'', hd', h', -, hreopened, hstep⟩ :=
      step_start_of_mirrors hmirrors htells hstill (Nat.lt_of_le_of_lt hle hsheet)
        (Nat.lt_of_le_of_lt hcount hupdate) none
    exact ⟨d', b₁, b', g', es'', hb₁, hreopened, hd', h', hstep⟩

end Changes

/-- What is known of the numbers of updates at the end of a life, if all programs ended well in it and
the last one could. -/
theorem mirrors_history_endsWell (hfit : StoreEvent.Fit events)
    (hrunning : (history events).1.book? = some b) (hnewest : b.NewestHomed) :
    ∃ u g es, (history events).1.disk.Holds g es ∧ b.Mirrors True u g es ∧
      (EndsWell {} events → ∀ i ∈ StoreAnswer.updateIds (history events).2, i ≤ u) := by
  by_cases hends : EndsWell {} events
  · obtain ⟨u, b', hknows, hascends⟩ := (knows_empty False).run_endsWell (.empty hfit) hends
    obtain ⟨rfl, g, es, hd, h⟩ := hknows.mirrors hrunning
    exact ⟨u, g, es, hd, h.last (.inr hnewest), fun _ => hascends.below⟩
  · obtain ⟨⟨g, es, hd, h⟩, -⟩ := mirrors_history hfit hrunning
    exact ⟨0, g, es, hd, h, fun hends' => absurd hends' hends⟩

/-- **The life of a store goes on after a change that was cut off.** The entries before it were ones
of sheets that are there. The store is opened again, and answers all questions as it did before the
call or as it would have done after it. Numbers of sheets that are given from then on are greater
than all that were given before, and so are numbers of updates if the programs before ended well. -/
theorem history_change_cut {c : StoreCall} {done : Nat} {begun : Option Nat}
    (hfit : StoreEvent.Fit (before ++ .crash c done begun :: .start :: later))
    (hrunning : (history before).1.book? = some b) (hsteady : (history before).1.disk.Steady)
    (hhomed : b.Homed) (hc : c.draft? = none)
    (hsheet : (c.onFiles b).2.registry.lastSheetId < UInt64.size) :
    let opened := (history (before ++ [.crash c done begun, .start])).1
    (∃ b', opened.book? = some b' ∧ ((∀ q, b'.answer q = b.answer q) ∨
      ∃ after, (history (before ++ [.call c])).1.book? = some after ∧
        ∀ q, b'.answer q = after.answer q)) ∧
      (∀ i ∈ StoreAnswer.sheetIds (history before).2,
        ∀ j ∈ StoreAnswer.sheetIds (opened.run later).2, i < j) ∧
      (EndsWell {} before → ∀ i ∈ StoreAnswer.updateIds (history before).2,
        ∀ j ∈ StoreAnswer.updateIds (opened.run later).2, i < j) := by
  obtain ⟨hfitBefore, hroom⟩ := fit_append hfit
  obtain ⟨-, hcount, hsheets⟩ := mirrors_history hfitBefore hrunning
  obtain ⟨u, g, es, hd, h, hupdates⟩ :=
    mirrors_history_endsWell hfitBefore hrunning hhomed.newestHomed
  have hroom := hroom b hcount
  have hupdate : b.registry.lastUpdateId < UInt64.size :=
    Nat.lt_of_le_of_lt (Nat.le_add_right ..) hroom.few
  obtain ⟨d', b₁, b', g', es', hb₁, hreopened, hd', h', hstep⟩ :=
    step_start_change_cut h hd hsteady hc hsheet hupdate done begun
  obtain ⟨hcount₁, hle₁, -⟩ := counters_cut hb₁
  have hroom' : RoomFor b' (.start :: later) :=
    hroom.tail (Nat.le_trans hreopened.lastUpdateId_le hcount₁)
  obtain ⟨_, -, -, habove, hsheets'⟩ :=
    (Knows.running hd' h').run (hroom'.tail (Nat.le_refl _))
  rw [history_crash_start hrunning, hstep]
  refine ⟨⟨b', rfl, ?_⟩, fun i hi j hj => ?_, fun hends i hi j hj => ?_⟩
  · rcases hb₁ with rfl | rfl
    · exact .inl (hreopened.answer hhomed)
    · exact .inr ⟨_, book_history_call hrunning h hd hsteady hc,
        hreopened.answer (homed_onFiles h.registry_sheet_le hc hhomed)⟩
  · exact Nat.lt_of_le_of_lt (Nat.le_trans (hsheets i hi) hle₁)
      (hreopened.lastSheetId ▸ hsheets'.above j hj)
  · exact Nat.lt_of_le_of_lt (hupdates hends i hi) (habove j hj)

/-- The sheet's deletion is cut off when its registry was replaced but its log was not. -/
def shortDeletion : StoreEvent := .crash (.deleteSheet 1) 2 none

/-- After that the sheet is made again, and updated. -/
def shortSequel : List StoreEvent :=
  [.call (.insertSheet ⟨"ana", "plan"⟩ .everyone), .call (.append (StoreCall.updateOf 2 .epoch))]

theorem history_change_cut_shortLife :
    StoreEvent.Fit (shortLife ++ shortDeletion :: .start :: shortSequel) ∧
      (history shortLife).1.book? = some shortBook ∧ (history shortLife).1.disk.Steady ∧
      shortBook.Homed ∧ (StoreCall.deleteSheet 1).draft? = none ∧
      ((StoreCall.deleteSheet 1).onFiles shortBook).2.registry.lastSheetId < UInt64.size ∧
      EndsWell {} shortLife ∧
      ∃ opened, opened = (history (shortLife ++ [shortDeletion, .start])).1 ∧
        (∃ b', opened.book? = some b' ∧ ((∀ q, b'.answer q = shortBook.answer q) ∨
          ∃ after, (history (shortLife ++ [.call (.deleteSheet 1)])).1.book? = some after ∧
            ∀ q, b'.answer q = after.answer q)) ∧
        (∀ i ∈ StoreAnswer.sheetIds (history shortLife).2,
          ∀ j ∈ StoreAnswer.sheetIds (opened.run shortSequel).2, i < j) ∧
        ∀ i ∈ StoreAnswer.updateIds (history shortLife).2,
          ∀ j ∈ StoreAnswer.updateIds (opened.run shortSequel).2, i < j := by
  have hfit : StoreEvent.Fit (shortLife ++ shortDeletion :: .start :: shortSequel) :=
    ⟨by decide, by decide⟩
  have hsheet :
      ((StoreCall.deleteSheet 1).onFiles shortBook).2.registry.lastSheetId < UInt64.size := by decide
  have hends : EndsWell {} shortLife :=
    .cons_of_not_ends (.inr rfl) (.cons_of_not_ends (.inl rfl) (.cons_of_not_ends (.inl rfl)
      (.nil _)))
  obtain ⟨hopened, hsheets, hupdates⟩ :=
    history_change_cut hfit book_shortLife steady_shortLife homed_shortBook rfl hsheet
  exact ⟨hfit, book_shortLife, steady_shortLife, homed_shortBook, rfl, hsheet, hends, _, rfl,
    hopened, hsheets, hupdates hends⟩

/-- **A number is given again after a change that was cut off.** It was that of an orphan, and only
the program that crashed knew it. -/
theorem updateIds_change_cut {draft : Draft} (hdraft : draft.sheet < UInt64.size) (p : String)
    (begun : Option Nat) :
    StoreAnswer.updateIds ((history ([.start, .call (.append draft), .start] ++
      [.crash (.registerPublisher p) 0 begun, .start])).1.run [.call (.append draft)]).2 = [1] := by
  obtain ⟨d, hd, hsteady, horphan⟩ := history_orphan hdraft
  let b : Book := ⟨{ lastUpdateId := 1 }, []⟩
  have hrunning : (history [.start, .call (.append draft), .start]).1.book? = some b := by
    rw [horphan]
  have heffects : (StoreCall.registerPublisher p).effects b =
      FileStore.rewriteRegistry (b.registry.addPublisher p) := rfl
  have hcut := hd.rewriteRegistry_begun (b.registry.addPublisher p) begun
  have hstill := FileStore.steady_of_refuses_eq (s := ⟨b, d⟩)
    (d.refuses_performUntil (FileStore.rewriteRegistry (b.registry.addPublisher p)) 0 begun) hsteady
  have hfirst := updateIds_of_holds_empty hcut hstill none draft
  rw [run, step_start_answer] at hfirst
  rw [history_crash_start hrunning, horphan, heffects]
  exact hfirst

theorem not_forall_history_change_cut :
    ¬ ∀ (before later : List StoreEvent) (b : Book) (c : StoreCall) (done : Nat)
      (begun : Option Nat), StoreEvent.Fit (before ++ .crash c done begun :: .start :: later) →
      (history before).1.book? = some b → (history before).1.disk.Steady → b.Homed →
      c.draft? = none → (c.onFiles b).2.registry.lastSheetId < UInt64.size →
      let opened := (history (before ++ [.crash c done begun, .start])).1
      (∃ b', opened.book? = some b' ∧ ((∀ q, b'.answer q = b.answer q) ∨
        ∃ after, (history (before ++ [.call c])).1.book? = some after ∧
          ∀ q, b'.answer q = after.answer q)) ∧
        (∀ i ∈ StoreAnswer.sheetIds (history before).2,
          ∀ j ∈ StoreAnswer.sheetIds (opened.run later).2, i < j) ∧
        ∀ i ∈ StoreAnswer.updateIds (history before).2,
          ∀ j ∈ StoreAnswer.updateIds (opened.run later).2, i < j := by
  intro h
  obtain ⟨disk, -, hsteady, horphan⟩ := history_orphan (d := StoreCall.updateOf 7 .epoch) (by decide)
  obtain ⟨-, -, hascend⟩ := h [.start, .call (.append (StoreCall.updateOf 7 .epoch)), .start]
    [.call (.append (StoreCall.updateOf 7 .epoch))] ⟨{ lastUpdateId := 1 }, []⟩
    (.registerPublisher "ana") 0 (some 18) ⟨by decide, by decide⟩ (by rw [horphan])
    (by rw [horphan]; exact hsteady) (by simp [Book.Homed]) rfl (by decide)
  rw [updateIds_change_cut (by decide), horphan] at hascend
  exact absurd (hascend 1 (List.mem_singleton_self 1) 1 (List.mem_singleton_self 1))
    (Nat.lt_irrefl 1)

end Keeper

end SharedSheet
