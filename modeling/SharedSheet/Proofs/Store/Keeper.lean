import SharedSheet.Proofs.Store.Mirror

/-!
# The life of a store on disk

A program keeps a store in a directory. It opens the store, makes calls, ends, and opens the store
again, and it may crash in the middle of any call. In between, accesses to the files may be refused.
All that is an event, and `Keeper.run` says what becomes of the files and of the program's book, and
what is answered.

Most of what is proved about such lives compares a number that was given with those that are given
later. This does not need the files but only a book: that of the program while it runs, and else the
one that the files were last written for. `Keeper.Knows` relates a keeper to that book. No event
takes its counters back but the opening of the store, and the number `u` which the relation keeps
track of is not forgotten then.

## Main definitions

* `StoreEvent` — what happens to a store
* `Keeper`, `Keeper.run`, `Keeper.history` — its files, and the book of the program while it runs
* `Keeper.Knows` — the book that a keeper's files were last written for

## Main results

* `Keeper.Knows.step` — what one event does
* `Keeper.Knows.run` — numbers given in a run, and a number that is remembered for good
-/

namespace SharedSheet

/-! ### Events -/

/-- What happens to a store on disk. -/
inductive StoreEvent where
  /-- The store is opened. If the program runs it has ended before. -/
  | start
  | call (c : StoreCall)
  /-- Other accesses to the files are refused from now on. -/
  | refuse (r : Access → Bool)
  /-- The program crashes in the middle of a call: of its effects `done` were made, and as many bytes
  of the next one as `begun` says if it was begun. -/
  | crash (c : StoreCall) (done : Nat) (begun : Option Nat)

/-- The update that a call puts into the log. -/
def StoreCall.draft? : StoreCall → Option Draft
  | append d => some d
  | _ => none

theorem StoreCall.draft?_eq_some {c : StoreCall} {d : Draft} :
    c.draft? = some d ↔ c = .append d := by
  cases c <;> simp [draft?]

theorem StoreCall.ne_append {c : StoreCall} (h : c.draft? = none) (d : Draft) : c ≠ .append d := by
  rintro rfl
  simp [draft?] at h

namespace StoreEvent

/-- The update that an event puts into the log, or begins to. -/
def draft? : StoreEvent → Option Draft
  | call c | crash c _ _ => c.draft?
  | start | refuse _ => none

/-- Whether the program has ended, if it ran. -/
def endsProgram : StoreEvent → Bool
  | start | crash .. => true
  | call _ | refuse _ => false

/-- The updates that events put into the log, or begin to. -/
def drafts (events : List StoreEvent) : List Draft := events.filterMap draft?

/-- The numbers that events bring fit into 64 bits. -/
structure Fit (events : List StoreEvent) : Prop where
  sheet_lt : ∀ d ∈ drafts events, d.sheet < UInt64.size
  /-- The greatest number of 64 bits is not reached. -/
  few : (drafts events).length < UInt64.size

end StoreEvent

namespace StoreAnswer

/-- The entry that was put into the log. -/
def entry? : StoreAnswer → Option LogEntry
  | entry e => some e
  | _ => none

/-- The sheet that was made. -/
def sheet? : StoreAnswer → Option Sheet
  | sheet s => some s
  | _ => none

/-- The entries that were put into the log. -/
def newEntries (answers : List StoreAnswer) : List LogEntry := answers.filterMap entry?

/-- The numbers that were given to updates. -/
def updateIds (answers : List StoreAnswer) : List Nat := (newEntries answers).map (·.id)

/-- The numbers that were given to sheets. -/
def sheetIds (answers : List StoreAnswer) : List Nat := (answers.filterMap sheet?).map (·.id)

theorem newEntries_append (as bs : List StoreAnswer) :
    newEntries (as ++ bs) = newEntries as ++ newEntries bs := by
  simp [newEntries]

theorem updateIds_append (as bs : List StoreAnswer) :
    updateIds (as ++ bs) = updateIds as ++ updateIds bs := by
  rw [updateIds, newEntries_append, List.map_append, updateIds, updateIds]

theorem sheetIds_append (as bs : List StoreAnswer) :
    sheetIds (as ++ bs) = sheetIds as ++ sheetIds bs := by
  simp [sheetIds]

end StoreAnswer

/-- Numbers that ascend, all above `lo` and none above `hi`. -/
structure Ascends (lo : Nat) (ids : List Nat) (hi : Nat) : Prop where
  pairwise : ids.Pairwise (· < ·)
  above : ∀ i ∈ ids, lo < i
  below : ∀ i ∈ ids, i ≤ hi
  le : lo ≤ hi

namespace Ascends

variable {lo mid hi i : Nat} {ids more : List Nat}

theorem nil (h : lo ≤ hi) : Ascends lo [] hi := ⟨.nil, by simp, by simp, h⟩

theorem singleton (hlo : lo < i) (hhi : i ≤ hi) : Ascends lo [i] hi :=
  ⟨by simp, by simpa using hlo, by simpa using hhi, by omega⟩

theorem append (h : Ascends lo ids mid) (hmore : Ascends mid more hi) :
    Ascends lo (ids ++ more) hi where
  pairwise := List.pairwise_append.2 ⟨h.pairwise, hmore.pairwise,
    fun i hi j hj => Nat.lt_of_le_of_lt (h.below i hi) (hmore.above j hj)⟩
  above i hi := (List.mem_append.1 hi).elim (h.above i)
    fun hi => Nat.lt_of_le_of_lt h.le (hmore.above i hi)
  below i hi := (List.mem_append.1 hi).elim (fun hi => Nat.le_trans (h.below i hi) hmore.le)
    (hmore.below i)
  le := Nat.le_trans h.le hmore.le

end Ascends

/-! ### Keepers -/

/-- The files of a store, and the book of the program that keeps it while it runs. -/
structure Keeper where
  disk : Disk := {}
  book? : Option Book := none

namespace Keeper

/-- What becomes of a keeper at an event, and what is answered. A call that fails is not answered. -/
def step (k : Keeper) : StoreEvent → Keeper × Option StoreAnswer
  | .start =>
    match FileStore.openDisk k.disk with
    | (.ok b, d) => (⟨d, some b⟩, none)
    | (.error _, d) => (⟨d, none⟩, none)
  | .call c =>
    match k.book? with
    | none => (k, none)
    | some b =>
      let (answer, s) := c.perform (⟨b, k.disk⟩ : FileStore)
      (⟨s.disk, some s.book⟩, answer.toOption)
  | .refuse r => (⟨{ k.disk with refuses := r }, k.book?⟩, none)
  | .crash c done begun =>
    match k.book? with
    | none => (k, none)
    | some b => (⟨k.disk.performUntil (c.effects b) done begun, none⟩, none)

/-- What becomes of a keeper, and all answers in order. -/
def run (k : Keeper) : List StoreEvent → Keeper × List StoreAnswer
  | [] => (k, [])
  | event :: events =>
    (((k.step event).1.run events).1, (k.step event).2.toList ++ ((k.step event).1.run events).2)

/-- The life of a store in a directory that is empty at first. -/
def history (events : List StoreEvent) : Keeper × List StoreAnswer := run {} events

/-- Whenever the program ends, the newest entry of its book is one of a sheet that is there. -/
def EndsWell (k : Keeper) (events : List StoreEvent) : Prop :=
  ∀ before event, before ++ [event] <+: events → event.endsProgram = true →
    ∀ b, (k.run before).1.book? = some b → b.NewestHomed

theorem run_append (k : Keeper) (events more : List StoreEvent) :
    k.run (events ++ more) =
      (((k.run events).1.run more).1, (k.run events).2 ++ ((k.run events).1.run more).2) := by
  induction events generalizing k with
  | nil => rfl
  | cons event events ih => simp only [List.cons_append, run, ih, List.append_assoc]

theorem step_start_answer (k : Keeper) : (k.step .start).2 = none := by
  simp only [step]
  split <;> rfl

variable {k : Keeper} {event : StoreEvent} {events : List StoreEvent}

theorem EndsWell.head (h : k.EndsWell (event :: events)) (hend : event.endsProgram = true) :
    ∀ b, k.book? = some b → b.NewestHomed :=
  h [] event (by simp) hend

theorem EndsWell.tail (h : k.EndsWell (event :: events)) : (k.step event).1.EndsWell events :=
  fun before event' hbefore => h (event :: before) event' (by simpa using hbefore)

theorem EndsWell.nil (k : Keeper) : k.EndsWell [] := fun before event h => by simp at h

theorem EndsWell.cons (hhead : event.endsProgram = true → ∀ b, k.book? = some b → b.NewestHomed)
    (htail : (k.step event).1.EndsWell events) : k.EndsWell (event :: events) := by
  intro before event' hbefore hend b hb
  cases before with
  | nil =>
    obtain rfl : event' = event := by simpa using hbefore
    exact hhead hend b hb
  | cons first before =>
    obtain ⟨rfl, hrest⟩ := List.cons_prefix_cons.1 hbefore
    exact htail before event' hrest hend b hb

/-- A program that does not end, or has not run, ends well. -/
theorem EndsWell.cons_of_not_ends (hend : event.endsProgram = false ∨ k.book? = none)
    (htail : (k.step event).1.EndsWell events) : k.EndsWell (event :: events) := by
  refine .cons (fun hends b hb => ?_) htail
  rcases hend with hend | hend
  · simp [hend] at hends
  · simp [hend] at hb

/-! ### When no access is refused -/

section Steady

variable {d : Disk} {b : Book} {g : Registry} {es : List LogEntry}

theorem step_append_of_holds (hd : d.Holds g es) (hsteady : d.Steady) (b : Book) (draft : Draft) :
    ∃ d', d'.Holds g (es ++ [b.nextEntry draft]) ∧ d'.Steady ∧
      step ⟨d, some b⟩ (.call (.append draft)) =
        (⟨d', some (b.append draft).2⟩, some (.entry (b.nextEntry draft))) := by
  obtain ⟨ok, d', hrun, hdone, hfailed⟩ := hd.append (b.nextEntry draft)
  cases ok with
  | false => exact absurd hsteady (hfailed rfl).2
  | true =>
    have hrefuses := d.refuses_performAll [.append .log (b.nextEntry draft).line.toUTF8]
    rw [hrun] at hrefuses
    refine ⟨d', hdone rfl, FileStore.steady_of_refuses_eq (s := ⟨b, d⟩) hrefuses hsteady, ?_⟩
    simp only [step, FileStore.perform_eq, StoreCall.commits, hrun]
    rfl

theorem step_start_of_tells (hd : d.Tells g es) (hsteady : d.Steady) (hfits : g.Fits)
    (b? : Option Book) :
    ∃ d', d'.Holds g (es.filter fun e => g.hasSheet e.sheet) ∧ d'.Steady ∧
      step ⟨d, b?⟩ .start = (⟨d', some ⟨FileStore.recovered g es,
        es.filter fun e => g.hasSheet e.sheet⟩⟩, none) := by
  rcases hd.openDisk with ⟨d', hopen, hholds⟩ | ⟨-, hwhy⟩
  · have hrefuses := d.refuses_openDisk
    rw [hopen] at hrefuses
    refine ⟨d', hholds, FileStore.steady_of_refuses_eq (s := ⟨{}, d⟩) hrefuses hsteady, ?_⟩
    simp only [step, hopen]
  · exact absurd ⟨hsteady, hfits⟩ hwhy

end Steady

/-! ### The book that the files were last written for -/

/-- The book of the program, or the one that the files were last written for. A number `u` of an
update is remembered. -/
inductive Knows (lasting : Prop) (u : Nat) : Keeper → Book → Prop
  | running {d : Disk} {b : Book} {g : Registry} {es : List LogEntry} (hd : d.Holds g es)
      (h : b.Mirrors lasting u g es) : Knows lasting u ⟨d, some b⟩ b
  | ended {d : Disk} {b : Book} {g : Registry} {es : List LogEntry} (hd : d.Tells g es)
      (h : b.Mirrors True u g es) : Knows lasting u ⟨d, none⟩ b
  /-- The log is no text, and cannot be opened any more. -/
  | stuck {d : Disk} {b : Book} (hd : d.Illegible) (h : u ≤ b.registry.lastUpdateId) :
      Knows lasting u ⟨d, none⟩ b

variable {lasting : Prop} {u : Nat} {b b' : Book}

theorem knows_empty (lasting : Prop) : Knows lasting 0 {} {} :=
  .ended (Disk.holds_empty.tells .nil) (Book.mirrors_empty True)

/-- What one event does: `b` is the book before, and `b'` the book after it. -/
structure Advances (lasting : Prop) (u : Nat) (b : Book) (event : StoreEvent)
    (done : Keeper × Option StoreAnswer) (b' : Book) : Prop where
  knows : Knows lasting u done.1 b'
  lastUpdateId_le : b'.registry.lastUpdateId ≤ b.registry.lastUpdateId + event.draft?.toList.length
  lastSheetId_le : b.registry.lastSheetId ≤ b'.registry.lastSheetId
  /-- An entry that is answered has the next number, and so far this number is remembered. -/
  entry : ∀ e, done.2 = some (.entry e) →
    e.id = b.registry.lastUpdateId + 1 ∧ Knows False e.id done.1 b'
  sheet : ∀ s, done.2 = some (.sheet s) →
    s.id = b.registry.lastSheetId + 1 ∧ s.id ≤ b'.registry.lastSheetId

namespace Knows

theorem le_lastUpdateId (h : Knows lasting u k b) : u ≤ b.registry.lastUpdateId := by
  cases h with
  | running hd h => exact h.le_lastUpdateId
  | ended hd h => exact h.le_lastUpdateId
  | stuck hd h => exact h

/-- Nothing happens that matters. -/
theorem unchanged {k' : Keeper} (h : Knows lasting u k' b) (event : StoreEvent) :
    Advances lasting u b event (k', none) b :=
  ⟨h, Nat.le_add_right .., Nat.le_refl _, by simp, by simp⟩

end Knows

/-- A call does not take counters back, and takes one on where it gives a number. -/
theorem counters_onFiles (b : Book) (c : StoreCall) :
    (c.onFiles b).2.registry.lastUpdateId ≤
        b.registry.lastUpdateId + c.draft?.toList.length ∧
      b.registry.lastSheetId ≤ (c.onFiles b).2.registry.lastSheetId := by
  cases c with
  | append d => exact ⟨Nat.max_le.2 ⟨Nat.le_succ _, Nat.le_refl _⟩, Nat.le_refl _⟩
  | registerPublisher p =>
    simp only [StoreCall.onFiles, StoreCall.onBook, Book.registerPublisher]
    split <;> exact ⟨Nat.le_refl _, Nat.le_refl _⟩
  | insertSheet a v => exact ⟨Nat.le_refl _, Nat.le_succ _⟩
  | deleteSheet id =>
    simp only [StoreCall.onFiles, StoreCall.onBook, Book.deleteSheet]
    split <;> exact ⟨Nat.le_refl _, Nat.le_refl _⟩
  | ask q => exact ⟨Nat.le_refl _, Nat.le_refl _⟩

/-- An answer with an entry is one to an append, and one with a sheet is one to its making. -/
theorem answer_onFiles {b : Book} {c : StoreCall} :
    (∀ e, (c.onFiles b).1 = .entry e → ∃ d, c = .append d ∧ e = b.nextEntry d) ∧
      ∀ s, (c.onFiles b).1 = .sheet s → s.id = b.registry.lastSheetId + 1 ∧
        s.id ≤ (c.onFiles b).2.registry.lastSheetId := by
  cases c with
  | append d => simp [StoreCall.onFiles, StoreCall.onBook, Book.append]
  | registerPublisher p => simp [StoreCall.onFiles, StoreCall.onBook]
  | insertSheet a v =>
    simp [StoreCall.onFiles, StoreCall.onBook, Book.insertSheet, Registry.nextSheet,
      Registry.addSheet]
  | deleteSheet id =>
    simp only [StoreCall.onFiles]
    split <;> simp [StoreCall.onBook]
  | ask q => cases q <;> simp [StoreCall.onFiles, StoreCall.onBook, Book.answer]

namespace Knows

/-- The event's update has a number that fits. -/
def Room (b : Book) (event : StoreEvent) : Prop :=
  ∀ d, event.draft? = some d → d.sheet < UInt64.size ∧ b.registry.lastUpdateId + 1 < UInt64.size

theorem step_call (h : Knows lasting u k b) (c : StoreCall) (hroom : Room b (.call c)) :
    ∃ b', Advances lasting u b (.call c) (k.step (.call c)) b' := by
  have hfits := fun draft (hc : c = .append draft) =>
    hroom draft (StoreCall.draft?_eq_some.2 hc)
  cases h with
  | ended hd h => exact ⟨b, (ended hd h).unchanged _⟩
  | stuck hd h => exact ⟨b, (stuck hd h).unchanged _⟩
  | running hd h =>
    obtain ⟨d', g', es', hd', ⟨hrun, h'⟩ | ⟨⟨fault, hrun⟩, h', -⟩⟩ := h.perform hd c hfits
    · refine ⟨(c.onFiles b).2, ?_⟩
      obtain ⟨hupdate, hsheet⟩ := counters_onFiles b c
      obtain ⟨hentry, hnewSheet⟩ := answer_onFiles (b := b) (c := c)
      simp only [step, hrun]
      refine ⟨running hd' h', hupdate, hsheet, fun e he => ?_,
        fun s hs => hnewSheet s (Option.some.inj hs)⟩
      obtain ⟨draft, rfl, rfl⟩ := hentry e (Option.some.inj he)
      exact ⟨rfl, running hd' h'.recall_append⟩
    · refine ⟨b, ?_⟩
      simp only [step, hrun]
      exact (running hd' h').unchanged _

theorem step_refuse (h : Knows lasting u k b) (r : Access → Bool) :
    Advances lasting u b (.refuse r) (k.step (.refuse r)) b := by
  cases h with
  | running hd h => exact (running (hd.refuse r) h).unchanged _
  | ended hd h => exact (ended (hd.refuse r) h).unchanged _
  | stuck hd h => exact (stuck (hd.refuse r) h).unchanged _

/-- The program ends. -/
theorem ends (h : Knows lasting u k b)
    (hend : ∀ b, k.book? = some b → lasting ∨ b.NewestHomed) :
    Knows lasting u ⟨k.disk, none⟩ b := by
  cases h with
  | running hd h => exact ended (hd.tells h.readable) (h.last (hend b rfl))
  | ended hd h => exact ended hd h
  | stuck hd h => exact stuck hd h

theorem step_start (h : Knows lasting u k b)
    (hend : ∀ b, k.book? = some b → lasting ∨ b.NewestHomed) :
    ∃ b', Advances lasting u b .start (k.step .start) b' := by
  have hended := h.ends hend
  have hstep : k.step .start = step ⟨k.disk, none⟩ .start := rfl
  rw [hstep]
  generalize k.disk = d at hended
  cases hended with
  | ended hd h =>
    obtain ⟨d', hopen, hd'⟩ | ⟨⟨fault, d', hopen, hd'⟩, -⟩ := hd.openDisk
    · simp only [step, hopen]
      exact ⟨_, running hd' (h.opened.weaken lasting),
        Nat.le_add_right_of_le h.reopened.lastUpdateId_le,
        Nat.le_of_eq h.reopened.lastSheetId.symm, by simp, by simp⟩
    · refine ⟨b, ?_⟩
      simp only [step, hopen]
      exact (ended hd' h).unchanged _
  | stuck hd h =>
    obtain ⟨fault, hopen⟩ := hd.openDisk
    refine ⟨b, ?_⟩
    simp only [step, hopen]
    exact (stuck hd h).unchanged _

theorem step_crash (h : Knows lasting u k b)
    (hend : ∀ b, k.book? = some b → lasting ∨ b.NewestHomed) (c : StoreCall) (done : Nat)
    (begun : Option Nat) (hroom : Room b (.crash c done begun)) :
    ∃ b', Advances lasting u b (.crash c done begun) (k.step (.crash c done begun)) b' := by
  cases h with
  | ended hd h => exact ⟨b, (ended hd h).unchanged _⟩
  | stuck hd h => exact ⟨b, (stuck hd h).unchanged _⟩
  | running hd h =>
    have hfits := fun draft (hc : c = .append draft) =>
      hroom draft (StoreCall.draft?_eq_some.2 hc)
    have hlast := h.last (hend b rfl)
    simp only [step]
    rcases hlast.performUntil hd c hfits done begun with
      ⟨hillegible, -⟩ | ⟨b', g', es', rfl | rfl, htells, h'⟩
    · exact ⟨b, (stuck hillegible h.le_lastUpdateId).unchanged _⟩
    · exact ⟨b', (ended htells h').unchanged _⟩
    · obtain ⟨hupdate, hsheet⟩ := counters_onFiles b c
      exact ⟨_, ended htells h', hupdate, hsheet, by simp, by simp⟩

/-- **What one event does.** If the program ends then its newest entry has to last, unless the
number `u` is known to be remembered for good. -/
theorem step (h : Knows lasting u k b) (event : StoreEvent) (hroom : Room b event)
    (hend : event.endsProgram = true → ∀ b, k.book? = some b → lasting ∨ b.NewestHomed) :
    ∃ b', Advances lasting u b event (k.step event) b' := by
  cases event with
  | start => exact h.step_start (hend rfl)
  | call c => exact h.step_call c hroom
  | refuse r => exact ⟨b, h.step_refuse r⟩
  | crash c done begun => exact h.step_crash (hend rfl) c done begun hroom

end Knows

/-! ### Runs -/

namespace Advances

variable {done : Keeper × Option StoreAnswer}

theorem ascends_sheetIds (h : Advances lasting u b event done b') :
    Ascends b.registry.lastSheetId (StoreAnswer.sheetIds done.2.toList) b'.registry.lastSheetId := by
  have hsheet := h.sheet
  rcases hanswer : done.2 with _ | answer
  · exact .nil h.lastSheetId_le
  · cases answer with
    | sheet s =>
      obtain ⟨hid, hle⟩ := hsheet s hanswer
      exact .singleton (Nat.lt_of_lt_of_eq (Nat.lt_succ_self _) hid.symm) hle
    | _ => exact .nil h.lastSheetId_le

/-- An event gives no number to an update, or the next one. -/
theorem updateIds (h : Advances lasting u b event done b') :
    StoreAnswer.updateIds done.2.toList = [] ∨
      StoreAnswer.updateIds done.2.toList = [b.registry.lastUpdateId + 1] ∧
        Knows False (b.registry.lastUpdateId + 1) done.1 b' := by
  have hentry := h.entry
  rcases hanswer : done.2 with _ | answer
  · exact .inl rfl
  · cases answer with
    | entry e =>
      obtain ⟨hid, hknows⟩ := hentry e hanswer
      rw [← hid]
      exact .inr ⟨rfl, hknows⟩
    | _ => exact .inl rfl

end Advances

/-- There is room for the numbers that events bring. -/
structure RoomFor (b : Book) (events : List StoreEvent) : Prop where
  sheet_lt : ∀ d ∈ StoreEvent.drafts events, d.sheet < UInt64.size
  few : b.registry.lastUpdateId + (StoreEvent.drafts events).length < UInt64.size

namespace RoomFor

theorem empty (h : StoreEvent.Fit events) : RoomFor {} events := ⟨h.sheet_lt, by simpa using h.few⟩

theorem drafts_cons (event : StoreEvent) (events : List StoreEvent) :
    StoreEvent.drafts (event :: events) = event.draft?.toList ++ StoreEvent.drafts events := by
  cases h : event.draft? <;> simp [StoreEvent.drafts, h]

theorem head (h : RoomFor b (event :: events)) : Knows.Room b event := by
  intro d hd
  have hfew := h.few
  simp only [drafts_cons, hd, Option.toList_some, List.length_append, List.length_cons,
    List.length_nil] at hfew
  exact ⟨h.sheet_lt d (by simp [drafts_cons, hd]), by omega⟩

theorem tail (h : RoomFor b (event :: events))
    (hle : b'.registry.lastUpdateId ≤ b.registry.lastUpdateId + event.draft?.toList.length) :
    RoomFor b' events where
  sheet_lt d hd := h.sheet_lt d (by rw [drafts_cons]; exact List.mem_append_right _ hd)
  few := by
    have hfew := h.few
    rw [drafts_cons, List.length_append] at hfew
    omega

end RoomFor

namespace Knows

/-- **What a run does**, however programs end in it. The number `u` is remembered, so the numbers
given to updates are greater. Those given to sheets ascend. -/
theorem run (h : Knows True u k b) (hroom : RoomFor b events) :
    ∃ b', Knows True u (k.run events).1 b' ∧
      b'.registry.lastUpdateId ≤
        b.registry.lastUpdateId + (StoreEvent.drafts events).length ∧
      (∀ i ∈ StoreAnswer.updateIds (k.run events).2, u < i) ∧
      Ascends b.registry.lastSheetId (StoreAnswer.sheetIds (k.run events).2)
        b'.registry.lastSheetId := by
  -- The number stays `u` all along: what is known for good is never lost again.
  induction events generalizing k b with
  | nil => exact ⟨b, h, Nat.le_refl _, by simp [Keeper.run, StoreAnswer.updateIds,
      StoreAnswer.newEntries], .nil (Nat.le_refl _)⟩
  | cons event events ih =>
    obtain ⟨b₁, hstep⟩ := h.step event hroom.head fun _ _ _ => .inl trivial
    obtain ⟨b', hknows, hupdate, habove, hsheets⟩ := ih hstep.knows (hroom.tail hstep.lastUpdateId_le)
    refine ⟨b', hknows, ?_, ?_, ?_⟩
    · have hle := hstep.lastUpdateId_le
      rw [RoomFor.drafts_cons, List.length_append]
      omega
    · intro i hi
      rw [Keeper.run, StoreAnswer.updateIds_append, List.mem_append] at hi
      rcases hi with hi | hi
      · have hle := h.le_lastUpdateId
        rcases hstep.updateIds with hids | ⟨hids, -⟩
        · simp [hids] at hi
        · simp only [hids, List.mem_singleton] at hi
          omega
      · exact habove i hi
    · rw [Keeper.run, StoreAnswer.sheetIds_append]
      exact hstep.ascends_sheetIds.append hsheets

/-- **What a run does if all programs end well**: the numbers given to updates ascend, and the last
of them is remembered. -/
theorem run_endsWell (h : Knows False u k b) (hroom : RoomFor b events)
    (hends : k.EndsWell events) :
    ∃ u' b', Knows False u' (k.run events).1 b' ∧
      Ascends u (StoreAnswer.updateIds (k.run events).2) u' := by
  -- With each number that is given, `u` becomes that number.
  induction events generalizing k b u with
  | nil => exact ⟨u, b, h, .nil (Nat.le_refl _)⟩
  | cons event events ih =>
    obtain ⟨b₁, hstep⟩ := h.step event hroom.head fun hend b hb => .inr (hends.head hend b hb)
    rw [Keeper.run, StoreAnswer.updateIds_append]
    rcases hstep.updateIds with hids | ⟨hids, hknows⟩
    · obtain ⟨u', b', hknows, hascends⟩ := ih hstep.knows (hroom.tail hstep.lastUpdateId_le) hends.tail
      rw [hids]
      exact ⟨u', b', hknows, hascends⟩
    · obtain ⟨u', b', hknows', hascends⟩ := ih hknows (hroom.tail hstep.lastUpdateId_le) hends.tail
      have hfirst : Ascends u [b.registry.lastUpdateId + 1] (b.registry.lastUpdateId + 1) :=
        .singleton (Nat.lt_succ_of_le h.le_lastUpdateId) (Nat.le_refl _)
      rw [hids]
      exact ⟨u', b', hknows', hfirst.append hascends⟩

end Knows

end Keeper

end SharedSheet
