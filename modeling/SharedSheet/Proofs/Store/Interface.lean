import SharedSheet.Proofs.Store.Alike

/-!
# The stores as callers see them

Callers of a store append updates, change the registry and ask questions, and get an answer to each
call. Here a call is a value, so that sequences of calls can be spoken of.

The store on disk performs every call in the same way (`FileStore.perform_eq`). It makes effects, and
if all of them were made it changes its book and answers; the deletion of a sheet makes further
effects then, which may fail. On a disk on which nothing stands in the way the effects are made, and
the store answers like a book.

There is one exception. Deleting a sheet that is not in the registry takes entries of that sheet out
of a plain book, while the store on disk leaves everything as it is. Nothing but such entries can
tell the two apart, and they do: `answers_eq_iff` says just when.

## Main definitions

* `StoreQuery`, `StoreCall`, `StoreAnswer` — what a store is asked, and what it answers
* `StoreCall.onBook`, `StoreCall.onFiles` — what a call does to the book of either store
* `Book.OrphanFree` — a sheet that is there, or has no entries

## Main results

* `FileStore.perform_eq` — how the store on disk performs a call
* `answers_eq_iff` — when the two stores answer alike
-/

namespace SharedSheet

/-! ### Calls -/

/-- What a store is asked. -/
inductive StoreQuery where
  | acceptedAfter (after : Nat)
  | sheetUpdates (sheet : Nat) (scope : Scope) (after : Nat)
  | publishers
  | sheets
  | findSheet (a : SheetAddress)

/-- What callers do with a store. -/
inductive StoreCall where
  | append (d : Draft)
  | registerPublisher (publisher : String)
  | insertSheet (a : SheetAddress) (v : Visibility)
  | deleteSheet (id : Nat)
  | ask (q : StoreQuery)

/-- What a store answers. -/
inductive StoreAnswer where
  | entry (e : LogEntry)
  | entries (es : List LogEntry)
  | truth (holds : Bool)
  | publishers (ps : List String)
  | sheet (s : Sheet)
  | sheets (ss : List Sheet)
  | found (s? : Option Sheet)
  deriving DecidableEq

/-- The answer to a question. -/
def Book.answer (b : Book) : StoreQuery → StoreAnswer
  | .acceptedAfter after => .entries (b.acceptedAfter after)
  | .sheetUpdates sheet scope after => .entries (b.sheetUpdates sheet scope after)
  | .publishers => .publishers b.registry.publishers
  | .sheets => .sheets b.registry.sheets
  | .findSheet a => .found (b.registry.findSheet? a)

namespace StoreCall

/-- Makes a call. -/
def perform {σ : Type} [Store σ] : StoreCall → Operation σ StoreError StoreAnswer
  | append d => Operation.andThen (Store.append d) .entry id
  | registerPublisher p => Operation.andThen (Store.registerPublisher p) .truth id
  | insertSheet a v => Operation.andThen (Store.insertSheet a v) .sheet id
  | deleteSheet n => Operation.andThen (Store.deleteSheet n) .truth id
  | ask q => fun s => (.ok ((Store.book s).answer q), s)

/-- Makes calls one after another. A call that fails does not stop the others. -/
def performAll {σ : Type} [Store σ] (s : σ) :
    List StoreCall → σ × List (Except StoreError StoreAnswer)
  | [] => (s, [])
  | c :: cs =>
    let done := performAll (c.perform s).2 cs
    (done.1, (c.perform s).1 :: done.2)

/-- What is answered to calls that are made one after another. -/
def answers (σ : Type) [Medium σ] (cs : List StoreCall) : List (Except StoreError StoreAnswer) :=
  (performAll (Medium.fresh : σ) cs).2

theorem performAll_append {σ : Type} [Store σ] (s : σ) (cs ds : List StoreCall) :
    performAll s (cs ++ ds) =
      ((performAll (performAll s cs).1 ds).1,
        (performAll s cs).2 ++ (performAll (performAll s cs).1 ds).2) := by
  induction cs generalizing s with
  | nil => rfl
  | cons c cs ih => simp only [List.cons_append, performAll, ih]

/-! ### The plain book -/

/-- What a call does to a plain book. -/
def onBook (b : Book) : StoreCall → StoreAnswer × Book
  | append d => (.entry (b.append d).1, (b.append d).2)
  | registerPublisher p => (.truth (b.registerPublisher p).1, (b.registerPublisher p).2)
  | insertSheet a v => (.sheet (b.insertSheet a v).1, (b.insertSheet a v).2)
  | deleteSheet n => (.truth (b.deleteSheet n).1, (b.deleteSheet n).2)
  | ask q => (b.answer q, b)

/-- A book performs every call. -/
theorem perform_book (c : StoreCall) (b : Book) : c.perform b = (.ok (c.onBook b).1, (c.onBook b).2) := by
  cases c <;> rfl

/-! ### The store on disk -/

/-- What a call does to the book of a store on disk. A sheet that is not there is not deleted. -/
def onFiles (b : Book) : StoreCall → StoreAnswer × Book
  | deleteSheet n => if b.registry.hasSheet n then (deleteSheet n).onBook b else (.truth false, b)
  | c => c.onBook b

/-- The effects that make a call count. -/
def commits (b : Book) : StoreCall → List Effect
  | append d => [.append .log (b.nextEntry d).line.toUTF8]
  | registerPublisher p =>
    if b.registry.knows p then [] else FileStore.rewriteRegistry (b.registry.addPublisher p)
  | insertSheet a v => FileStore.rewriteRegistry (b.registry.addSheet a v)
  | deleteSheet n =>
    if b.registry.hasSheet n then FileStore.rewriteRegistry (b.registry.removeSheet n) else []
  | ask _ => []

/-- The effects that are made once a call counts. Nothing depends on them. -/
def cleansUp (b : Book) : StoreCall → List Effect
  | deleteSheet n =>
    if b.registry.hasSheet n then FileStore.rewriteLog (b.withoutSheet n) else []
  | _ => []

/-- All effects of a call. -/
def effects (b : Book) (c : StoreCall) : List Effect := c.commits b ++ c.cleansUp b

end StoreCall

/-- **How the store on disk performs a call.** -/
theorem FileStore.perform_eq (c : StoreCall) (b : Book) (d : Disk) :
    c.perform (⟨b, d⟩ : FileStore) =
      match d.performAll (c.commits b) with
      | (true, d) => (.ok (c.onFiles b).1, ⟨(c.onFiles b).2, (d.performAll (c.cleansUp b)).2⟩)
      | (false, d) => (.error .io, ⟨b, d⟩) := by
  cases c with
  | append draft =>
    simp only [StoreCall.perform, StoreCall.commits, Operation.andThen, Store.append, append]
    rcases d.performAll [.append .log (b.nextEntry draft).line.toUTF8] with ⟨_ | _, _⟩ <;> rfl
  | registerPublisher p =>
    by_cases hknows : b.registry.knows p = true
    · simp [StoreCall.perform, StoreCall.commits, StoreCall.onFiles, StoreCall.onBook,
        StoreCall.cleansUp, Operation.andThen, Store.registerPublisher, registerPublisher,
        Book.registerPublisher, Disk.performAll, hknows]
    · simp only [StoreCall.perform, StoreCall.commits, StoreCall.onFiles, StoreCall.onBook,
        Operation.andThen, Store.registerPublisher, registerPublisher, Book.registerPublisher,
        commit, hknows, Bool.false_eq_true, if_false]
      rcases d.performAll (rewriteRegistry (b.registry.addPublisher p)) with ⟨_ | _, _⟩ <;> rfl
  | insertSheet a v =>
    simp only [StoreCall.perform, StoreCall.commits, Operation.andThen, Store.insertSheet,
      insertSheet, commit]
    rcases d.performAll (rewriteRegistry (b.registry.addSheet a v)) with ⟨_ | _, _⟩ <;> rfl
  | deleteSheet n =>
    by_cases hn : b.registry.hasSheet n = true
    · simp only [StoreCall.perform, StoreCall.commits, StoreCall.onFiles, StoreCall.onBook,
        StoreCall.cleansUp, Operation.andThen, Store.deleteSheet, deleteSheet, Book.deleteSheet,
        commit, hn, if_true]
      rcases d.performAll (rewriteRegistry (b.registry.removeSheet n)) with ⟨_ | _, _⟩ <;> rfl
    · simp [StoreCall.perform, StoreCall.commits, StoreCall.onFiles, StoreCall.cleansUp,
        Operation.andThen, Store.deleteSheet, deleteSheet, Disk.performAll, hn]
  | ask q => rfl

/-! ### Disks on which nothing stands in the way -/

namespace Disk

/-- Nothing is refused, and no directory is in the place of a file. -/
structure Clear (d : Disk) : Prop where
  steady : d.Steady
  unblocked : ∀ f, (d.slot f).isDirectory = false

namespace Clear

variable {d : Disk}

theorem setSlot (h : d.Clear) (f : FileName) {s : Slot} (hs : s.isDirectory = false) :
    (d.setSlot f s).Clear where
  steady a := by rw [refuses_setSlot, h.steady a]
  unblocked f' := by
    rw [slot_setSlot]
    split
    · exact hs
    · exact h.unblocked f'

theorem performAll_append (h : d.Clear) (f : FileName) (content : ByteArray) :
    ∃ d', d.performAll [.append f content] = (true, d') ∧ d'.Clear := by
  have hblocked := h.unblocked f
  cases hslot : d.slot f with
  | directory => simp [hslot, Slot.isDirectory] at hblocked
  | absent =>
    refine ⟨d.setSlot f (.file content), ?_, h.setSlot f rfl⟩
    simp [performAll, perform?, Effect.access, h.steady _, hslot, Slot.append?]
  | file old =>
    refine ⟨d.setSlot f (.file (old ++ content)), ?_, h.setSlot f rfl⟩
    simp [performAll, perform?, Effect.access, h.steady _, hslot, Slot.append?]

theorem performAll_replace (h : d.Clear) {temp target : FileName} (hne : temp ≠ target)
    (content : String) :
    ∃ d', d.performAll (Effect.replace temp target content) = (true, d') ∧ d'.Clear := by
  refine ⟨(d.setSlot temp .absent).setSlot target (.file content.toUTF8), ?_,
    (h.setSlot temp rfl).setSlot target rfl⟩
  simp [performAll_replace_eq content hne, h.steady _, h.unblocked]

theorem performAll_commits (h : d.Clear) (b : Book) (c : StoreCall) :
    ∃ d', d.performAll (c.commits b) = (true, d') ∧ d'.Clear := by
  cases c with
  | append draft => exact h.performAll_append .log _
  | registerPublisher p =>
    simp only [StoreCall.commits]
    split
    · exact ⟨d, rfl, h⟩
    · exact h.performAll_replace (by decide) _
  | insertSheet a v => exact h.performAll_replace (by decide) _
  | deleteSheet n =>
    simp only [StoreCall.commits]
    split
    · exact h.performAll_replace (by decide) _
    · exact ⟨d, rfl, h⟩
  | ask q => exact ⟨d, rfl, h⟩

theorem performAll_cleansUp (h : d.Clear) (b : Book) (c : StoreCall) :
    (d.performAll (c.cleansUp b)).2.Clear := by
  cases c with
  | deleteSheet n =>
    simp only [StoreCall.cleansUp]
    split
    · obtain ⟨d', hrun, hd'⟩ := h.performAll_replace (show FileName.logTemp ≠ .log by decide)
        (LogFile.render (b.withoutSheet n))
      rw [FileStore.rewriteLog, hrun]
      exact hd'
    · exact h
  | _ => exact h

end Clear

end Disk

theorem FileStore.perform_of_clear {d : Disk} (hd : d.Clear) (b : Book) (c : StoreCall) :
    ∃ d', d'.Clear ∧
      c.perform (⟨b, d⟩ : FileStore) = (.ok (c.onFiles b).1, ⟨(c.onFiles b).2, d'⟩) := by
  obtain ⟨d', hrun, hd'⟩ := hd.performAll_commits b c
  exact ⟨_, hd'.performAll_cleansUp b c, by rw [perform_eq, hrun]⟩

/-! ### Calls without times -/

/-- A call without the time of the update in it. -/
def StoreCall.untimed : StoreCall → StoreCall
  | append d => append d.untimed
  | c => c

/-- An answer without the times of the entries in it. -/
def StoreAnswer.untimed : StoreAnswer → StoreAnswer
  | entry e => entry e.untimed
  | entries es => entries (es.map LogEntry.untimed)
  | answer => answer

/-- Answers without the times of the entries in them. -/
def untimedAnswers (answers : List (Except StoreError StoreAnswer)) :
    List (Except StoreError StoreAnswer) :=
  answers.map (Except.map StoreAnswer.untimed)

theorem Book.answer_untimed (b : Book) (q : StoreQuery) :
    b.untimed.answer q = (b.answer q).untimed := by
  cases q with
  | acceptedAfter after =>
    simp only [answer, StoreAnswer.untimed, acceptedAfter, untimed, List.filter_map]
    rfl
  | sheetUpdates sheet scope after =>
    simp only [answer, StoreAnswer.untimed, sheetUpdates_untimed]
  | _ => rfl

namespace StoreCall

theorem onBook_untimed (b : Book) (c : StoreCall) :
    c.untimed.onBook b.untimed = ((c.onBook b).1.untimed, (c.onBook b).2.untimed) := by
  cases c with
  | append d => simp [untimed, onBook, StoreAnswer.untimed, Book.append, Book.addEntry, Book.untimed,
      LogEntry.untimed, Book.nextEntry, Draft.untimed]
  | registerPublisher p =>
    by_cases hknows : b.registry.knows p = true
    · simp [untimed, onBook, Book.registerPublisher, Book.untimed, StoreAnswer.untimed, hknows]
    · simp [untimed, onBook, Book.registerPublisher, Book.untimed, StoreAnswer.untimed, hknows]
  | insertSheet a v => rfl
  | deleteSheet n =>
    simp only [untimed, onBook, Book.deleteSheet, Book.withoutSheet, Book.untimed, List.filter_map]
    rfl
  | ask q => simp only [untimed, onBook, b.answer_untimed]

theorem performAll_untimed (b : Book) (cs : List StoreCall) :
    performAll b.untimed (cs.map untimed) =
      ((performAll b cs).1.untimed, untimedAnswers (performAll b cs).2) := by
  induction cs generalizing b with
  | nil => rfl
  | cons c cs ih =>
    simp only [List.map_cons, performAll, perform_book, onBook_untimed, ih]
    rfl

/-- What a book answers does not depend on the times. -/
theorem untimedAnswers_book {cs cs' : List StoreCall} (h : cs.map untimed = cs'.map untimed) :
    untimedAnswers (answers Book cs) = untimedAnswers (answers Book cs') := by
  have hcs := congrArg Prod.snd (performAll_untimed {} cs)
  have hcs' := congrArg Prod.snd (performAll_untimed {} cs')
  rw [h] at hcs
  exact hcs.symm.trans hcs'

end StoreCall

/-! ### The two stores side by side -/

/-- A sheet that is there, or has no entries. -/
def Book.OrphanFree (b : Book) (id : Nat) : Prop :=
  b.registry.hasSheet id = true ∨ ∀ e ∈ b.entries, e.sheet ≠ id

namespace StoreCall

theorem onFiles_eq_onBook {b : Book} {c : StoreCall}
    (h : ∀ id, c = deleteSheet id → b.OrphanFree id) : c.onFiles b = c.onBook b := by
  cases c with
  | deleteSheet id =>
    by_cases hid : b.registry.hasSheet id = true
    · simp [onFiles, hid]
    · have hentries := (h id rfl).resolve_left hid
      have hkept : b.withoutSheet id = b.entries :=
        List.filter_eq_self.2 fun e he => by simpa using hentries e he
      have hregistry : b.registry.removeSheet id = b.registry := by
        have hsheets : b.registry.sheets.filter (·.id != id) = b.registry.sheets :=
          List.filter_eq_self.2 fun s hs => by
            simp only [Registry.hasSheet_iff, not_exists, not_and] at hid
            simpa using hid s hs
        simp [Registry.removeSheet, hsheets]
      simp [onFiles, onBook, Book.deleteSheet, hid, hkept, hregistry]
  | _ => rfl

/-- While no sheet is deleted that is not there but has entries, the stores do the same. -/
theorem performAll_eq {b : Book} {d : Disk} (hd : d.Clear) (cs : List StoreCall)
    (h : ∀ before id, before ++ [deleteSheet id] <+: cs →
      (performAll b before).1.OrphanFree id) :
    ∃ d', d'.Clear ∧
      performAll (⟨b, d⟩ : FileStore) cs = (⟨(performAll b cs).1, d'⟩, (performAll b cs).2) := by
  induction cs generalizing b d with
  | nil => exact ⟨d, hd, rfl⟩
  | cons c cs ih =>
    obtain ⟨d', hd', hfirst⟩ := FileStore.perform_of_clear hd b c
    have hc : ∀ id, c = deleteSheet id → b.OrphanFree id := fun id hid => h [] id (by simp [hid])
    rw [onFiles_eq_onBook hc] at hfirst
    obtain ⟨d'', hd'', hrest⟩ := ih (b := (c.onBook b).2) hd' fun before id hbefore => by
      have := h (c :: before) id (by simpa using hbefore)
      rwa [performAll, perform_book] at this
    exact ⟨d'', hd'', by simp only [performAll, hfirst, perform_book, hrest]⟩

theorem id_pos_performAll {b : Book} (h : ∀ e ∈ b.entries, 0 < e.id) (cs : List StoreCall) :
    ∀ e ∈ (performAll b cs).1.entries, 0 < e.id := by
  induction cs generalizing b with
  | nil => exact h
  | cons c cs ih =>
    simp only [performAll, perform_book]
    refine ih ?_
    cases c with
    | append d => exact Book.forall_mem_append h (Nat.succ_pos _)
    | registerPublisher p => simpa [onBook] using h
    | insertSheet a v => exact h
    | deleteSheet id => exact fun e he => h e (List.mem_filter.1 he).1
    | ask q => exact h

/-- A sheet that is not there is deleted, and then asked for its entries: the store on disk still has
them, and the book does not. -/
theorem answers_deleteSheet {b : Book} {d : Disk} (hd : d.Clear) {id : Nat}
    (hid : b.registry.hasSheet id = false) :
    (performAll (⟨b, d⟩ : FileStore) [deleteSheet id, ask (.sheetUpdates id .any 0)]).2 =
        [.ok (.truth false), .ok (.entries (b.sheetUpdates id .any 0))] ∧
      (performAll b [deleteSheet id, ask (.sheetUpdates id .any 0)]).2 =
        [.ok (.truth false), .ok (.entries [])] := by
  constructor
  · obtain ⟨d', -, hrun⟩ := FileStore.perform_of_clear hd b (deleteSheet id)
    simp only [performAll, hrun, onFiles, hid]
    rfl
  · have hnone : (b.deleteSheet id).2.sheetUpdates id .any 0 = [] := by
      simp only [Book.sheetUpdates, Book.deleteSheet, Book.withoutSheet, List.filter_filter,
        List.filter_eq_nil_iff]
      intro e he
      by_cases hsheet : e.sheet = id <;> simp [hsheet]
    simp only [performAll, perform_book, onBook, Book.answer, hnone]
    simp only [Book.deleteSheet, hid]

/-- The question for the entries of a sheet finds out whether deleting it made a difference. -/
theorem orphanFree_of_answers {before : List StoreCall} {d : Disk} {id : Nat} (hd : d.Clear)
    (hrun : performAll (⟨{}, {}⟩ : FileStore) before =
      (⟨(performAll ({} : Book) before).1, d⟩, (performAll ({} : Book) before).2))
    (hanswers : untimedAnswers
        (answers FileStore (before ++ [deleteSheet id, ask (.sheetUpdates id .any 0)])) =
      untimedAnswers (answers Book (before ++ [deleteSheet id, ask (.sheetUpdates id .any 0)]))) :
    (performAll ({} : Book) before).1.OrphanFree id := by
  refine or_iff_not_imp_left.2 fun hid e he hsheet => ?_
  obtain ⟨hfiles, hmemory⟩ := answers_deleteSheet hd (Bool.eq_false_iff.2 hid)
  have hpos := id_pos_performAll (b := {}) (by simp) before e he
  have hfound : e ∈ (performAll ({} : Book) before).1.sheetUpdates id .any 0 := by
    simp [Book.sheetUpdates, he, hsheet, hpos, Scope.admits]
  rw [answers, answers, performAll_append, performAll_append] at hanswers
  simp only [Medium.fresh, hrun, hfiles, hmemory, untimedAnswers, List.map_append] at hanswers
  have hempty := List.append_cancel_left hanswers
  simp [Except.map, StoreAnswer.untimed] at hempty
  simp [hempty] at hfound

/-- **When the two stores answer alike.** No caller can tell a store on disk from a plain book by
any sequence of calls, and any question after a part of it, just when no sheet is deleted that is
not in the registry but has entries. The two are never asked at the same time, so the times of
entries may differ. -/
theorem answers_eq_iff {cs cs' : List StoreCall} (hsame : cs.map untimed = cs'.map untimed) :
    (∀ n q, untimedAnswers (answers FileStore (cs.take n ++ [ask q])) =
        untimedAnswers (answers Book (cs'.take n ++ [ask q]))) ↔
      ∀ before id, before ++ [deleteSheet id] <+: cs →
        (performAll ({} : Book) before).1.OrphanFree id := by
  have hbook : ∀ n q, untimedAnswers (answers Book (cs'.take n ++ [ask q])) =
      untimedAnswers (answers Book (cs.take n ++ [ask q])) := fun n q =>
    untimedAnswers_book (by simp only [List.map_append, List.map_take, hsame])
  have hclear : Disk.Clear {} := ⟨fun _ => rfl, fun f => by cases f <;> rfl⟩
  simp only [hbook]
  constructor
  · intro hanswers before
    -- No deletion before this one made a difference, so up to here the stores have done the same.
    induction hlength : before.length using Nat.strongRecOn generalizing before with
    | _ length ih =>
      intro id hbefore
      have hearlier : ∀ before' id', before' ++ [deleteSheet id'] <+: before →
          (performAll ({} : Book) before').1.OrphanFree id' := fun before' id' hbefore' =>
        ih before'.length (by have := hbefore'.length_le; simp at this; omega) before' rfl id'
          (hbefore'.trans ((List.prefix_append _ _).trans hbefore))
      obtain ⟨d, hd, hrun⟩ := performAll_eq (b := {}) hclear before hearlier
      have htake : cs.take (length + 1) = before ++ [deleteSheet id] := by
        rw [List.prefix_iff_eq_take.1 hbefore]
        simp [hlength]
      have hanswer := hanswers (length + 1) (.sheetUpdates id .any 0)
      rw [htake, List.append_assoc, List.singleton_append] at hanswer
      exact orphanFree_of_answers hd hrun hanswer
  · intro hdeletions n q
    obtain ⟨d, -, hrun⟩ := performAll_eq (b := {}) hclear (cs.take n ++ [ask q])
      fun before id hbefore => by
        rcases List.prefix_concat_iff.1 hbefore with heq | hbefore
        · simpa using (List.append_inj' heq rfl).2
        · exact hdeletions before id (hbefore.trans (List.take_prefix n cs))
    rw [answers, answers]
    exact congrArg (fun done => untimedAnswers done.2) hrun

/-- An update of a sheet, made at some time. -/
def updateOf (sheet : Nat) (time : Timestamp) : Draft := ⟨sheet, "ana", "$A1 1", true, time⟩

/-- A sheet is made, updated and deleted. -/
def deletingCalls (time : Timestamp) : List StoreCall :=
  [insertSheet ⟨"ana", "plan"⟩ .everyone, append (updateOf 1 time), deleteSheet 1]

/-- Some later time. -/
def newYear : Timestamp := ⟨"2024-01-01T00:00:00Z", by decide +kernel⟩

theorem answers_eq_deletingCalls :
    (deletingCalls .epoch).map untimed = (deletingCalls newYear).map untimed ∧
      ∀ n q, untimedAnswers (answers FileStore ((deletingCalls .epoch).take n ++ [ask q])) =
        untimedAnswers (answers Book ((deletingCalls newYear).take n ++ [ask q])) := by
  have hsame : (deletingCalls .epoch).map untimed = (deletingCalls newYear).map untimed := rfl
  refine ⟨hsame, (answers_eq_iff hsame).2 fun before id hbefore => ?_⟩
  -- There is one deletion, and the sheet is there.
  obtain ⟨rest, hrest⟩ := hbefore
  rcases before with _ | ⟨c, _ | ⟨c', _ | ⟨c'', before⟩⟩⟩
  · simp [deletingCalls] at hrest
  · simp [deletingCalls] at hrest
  · simp only [deletingCalls, List.cons_append, List.nil_append, List.cons.injEq,
      deleteSheet.injEq] at hrest
    obtain ⟨rfl, rfl, rfl, -⟩ := hrest
    exact .inl rfl
  · simp [deletingCalls] at hrest

/-- The stores do not always answer alike: an update of a sheet that is not there outlives the
deletion of that sheet in the store on disk. -/
theorem not_forall_answers_eq : ¬ ∀ cs cs' : List StoreCall, cs.map untimed = cs'.map untimed →
    untimedAnswers (answers FileStore cs) = untimedAnswers (answers Book cs') := by
  intro h
  have hanswers := h [append (updateOf 7 .epoch), deleteSheet 7, ask (.acceptedAfter 0)] _ rfl
  revert hanswers
  decide

end StoreCall

end SharedSheet
