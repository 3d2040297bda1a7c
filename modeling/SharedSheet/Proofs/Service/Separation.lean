import SharedSheet.Proofs.Service.Restarts
import SharedSheet.Proofs.Service.Secrecy

/-!
# Sheets apart

All sheets share one log with one count of updates, one cache and, on disk, one file that the
deletion of any of them rewrites. Still a sheet is told of as if it were alone: whatever is done to
other sheets, in any order and however often the store is opened again, no answer about it changes.

What is told of a sheet is made from its line in the registry and from its own entries, so it is
enough to follow these two through a run. That a rewrite of the log fails, that a checkpoint is out
of date or that entries of a deleted sheet are still in the file has been dealt with before: it does
not show in the book of a sound service.

## Main definitions

* `Request.changed?`, `Request.asked?` — the sheet that a request changes or asks about
* `Book.Holds` — a book has a sheet with certain entries

## Main results

* `Book.Holds.plan` — books that hold a sheet alike tell the same of it
* `Book.Holds.respond` — requests that change other sheets keep what a book holds
* `Server.asked_alike` — in a run that does not change a sheet, nothing told of it changes
-/

namespace SharedSheet

namespace Request

/-- The sheet that a request changes. -/
def changed? : Request → Option SheetAddress
  | delete _ a => some a
  | q => q.updated?

/-- The sheet that a request asks about, without changing it. -/
def asked? : Request → Option SheetAddress
  | resolve a | publishedDelta _ a _ | subscriptionDelta _ a _ | snapshot _ a
  | evaluate _ a _ => some a
  | _ => none

end Request

/-! ### Books that hold a sheet -/

namespace Book

variable {b b' : Book} {t : Sheet} {es : List LogEntry} {extent : Extent} {now now' : Timestamp}
  {q : Request}

/-- A request that asks about a sheet is only told something. -/
theorem exists_tell_of_asked {a : SheetAddress} {action : Action} (hq : q.asked? = some a)
    (h : b.plan extent now q = .ok action) : ∃ answer, action = .tell answer := by
  cases q with
  | publishedDelta | subscriptionDelta | snapshot | evaluate => exact exists_tell_of_plan rfl h
  | resolve a =>
    obtain ⟨sheet, -, htell⟩ := bind_eq_ok_iff.1 h
    exact ⟨_, (Except.ok.inj htell).symm⟩
  | register | publishers | sheets | create | delete | publish | propose | submit =>
    simp [Request.asked?] at hq

/-- A book has a sheet, and these are its entries. -/
structure Holds (b : Book) (t : Sheet) (es : List LogEntry) : Prop where
  sheet : t ∈ b.registry.sheets
  entries : b.entriesOf t.id = es

namespace Holds

theorem resolve (h : b.Holds t es) (hb : b.Sound) : b.resolve t.address = .ok t :=
  resolve_address hb.registry h.sheet

/-- What is made of the entries of the sheet is the same in both books. -/
theorem visible_congr (h : b.Holds t es) (h' : b'.Holds t es) (hb : b.Sound) (hb' : b'.Sound)
    (caller : String) {k k' : Sheet → Except Refusal Action}
    (hk : b.entriesOf t.id = b'.entriesOf t.id → k t = k' t) :
    b.resolveVisible caller t.address >>= k = b'.resolveVisible caller t.address >>= k' := by
  simp only [resolveVisible, h.resolve hb, h'.resolve hb']
  split
  · exact hk (h.entries.trans h'.entries.symm)
  · rfl

/-- **Books that hold a sheet alike tell the same of it.** -/
theorem plan (h : b.Holds t es) (h' : b'.Holds t es) (hb : b.Sound) (hb' : b'.Sound)
    (hq : q.asked? = some t.address) : b.plan extent now q = b'.plan extent now' q := by
  cases q with
  | resolve a =>
    obtain rfl := Option.some.inj hq
    simp only [Book.plan, h.resolve hb, h'.resolve hb']
  | publishedDelta caller a since =>
    obtain rfl := Option.some.inj hq
    exact h.visible_congr h' hb hb' caller fun hentries => by
      rw [sheetUpdates_eq, sheetUpdates_eq, hentries]
  | subscriptionDelta caller a since =>
    obtain rfl := Option.some.inj hq
    exact h.visible_congr h' hb hb' caller fun hentries => by
      rw [sheetUpdates_eq, sheetUpdates_eq, sheetState, sheetState, acceptedOf_eq, acceptedOf_eq,
        hentries]
  | snapshot caller a =>
    obtain rfl := Option.some.inj hq
    exact h.visible_congr h' hb hb' caller fun hentries => by
      rw [sheetState, sheetState, acceptedOf_eq, acceptedOf_eq, hentries]
  | evaluate caller a term =>
    obtain rfl := Option.some.inj hq
    exact h.visible_congr h' hb hb' caller fun hentries => by
      rw [sheetState, sheetState, acceptedOf_eq, acceptedOf_eq, hentries]
  | register | publishers | sheets | create | delete | publish | propose | submit =>
    simp [Request.asked?] at hq

theorem answer (h : b.Holds t es) (h' : b'.Holds t es) (hb : b.Sound) (hb' : b'.Sound)
    (hq : q.asked? = some t.address) :
    (b.respond extent now q).1 = (b'.respond extent now' q).1 := by
  have hplan : b.plan extent now q = b'.plan extent now' q := h.plan h' hb hb' hq
  rw [Book.respond, Book.respond, hplan]
  cases hplan' : b'.plan extent now' q with
  | error e => rfl
  | ok action =>
    obtain ⟨answer, rfl⟩ := exists_tell_of_asked hq hplan'
    rfl

/-! ### Requests about other sheets -/

theorem registerPublisher (h : b.Holds t es) (p : String) :
    (b.registerPublisher p).2.Holds t es :=
  ⟨by simpa using h.sheet, (entriesOf_registerPublisher p t.id).trans h.entries⟩

theorem insertSheet (h : b.Holds t es) (a : SheetAddress) (v : Visibility) :
    (b.insertSheet a v).2.Holds t es :=
  ⟨List.mem_append_left _ h.sheet, h.entries⟩

theorem deleteSheet (h : b.Holds t es) {id : Nat} (hid : t.id ≠ id) :
    (b.deleteSheet id).2.Holds t es := by
  refine ⟨List.mem_filter.2 ⟨h.sheet, by simpa using hid⟩, ?_⟩
  rw [entriesOf_deleteSheet, if_neg hid, h.entries]

theorem append (h : b.Holds t es) {d : Draft} (hd : d.sheet ≠ t.id) :
    (b.append d).2.Holds t es := by
  refine ⟨h.sheet, ?_⟩
  rw [entriesOf_append, if_neg hd, List.append_nil, h.entries]

/-- The sheet that is named differently has a different number. -/
theorem id_ne (h : b.Holds t es) (hb : b.Sound) {a : SheetAddress} {sheet : Sheet}
    (hresolve : b.resolve a = .ok sheet) (ha : a ≠ t.address) : t.id ≠ sheet.id := by
  obtain ⟨-, hsheet, haddress⟩ := resolve_eq_ok hresolve
  rintro hid
  obtain rfl := hb.registry.eq_of_id_eq h.sheet hsheet hid
  exact ha haddress.symm

/-- Nothing but a deletion plans a deletion. -/
theorem exists_delete_of_plan {id : Nat} (h : b.plan extent now q = .ok (.drop id)) :
    ∃ caller a, q = .delete caller a := by
  cases q with
  | delete caller a => exact ⟨caller, a, rfl⟩
  | publish | propose | submit =>
    obtain ⟨_, _, _, _, hdrop⟩ := takes_of_plan rfl h
    nomatch hdrop
  | publishedDelta | subscriptionDelta | snapshot | evaluate =>
    obtain ⟨answer, hdrop⟩ := exists_tell_of_plan rfl h
    nomatch hdrop
  | resolve a =>
    obtain ⟨sheet, -, hdrop⟩ := bind_eq_ok_iff.1 h
    nomatch hdrop
  | register | publishers | sheets | create => grind [Book.plan, planCreate]

/-- **Requests that change other sheets keep what a book holds**, and so do those that change
none. -/
theorem respond (h : b.Holds t es) (hb : b.Sound) (hq : q.changed? ≠ some t.address) :
    (b.respond extent now q).2.Holds t es := by
  unfold Book.respond
  cases hplan : b.plan extent now q with
  | error e => exact h
  | ok action =>
    cases action with
    | tell answer => exact h
    | list p => exact h.registerPublisher p
    | make a v => exact h.insertSheet a v
    | drop id =>
      obtain ⟨caller, a, rfl⟩ := exists_delete_of_plan hplan
      obtain ⟨sheet, howned, hdrop⟩ := bind_eq_ok_iff.1 hplan
      obtain rfl := Action.drop.inj (Except.ok.inj hdrop)
      exact h.deleteSheet
        (h.id_ne hb (resolveOwned_eq_ok howned).1 fun ha => hq (congrArg some ha))
    | enter d =>
      cases hupdated : q.updated? with
      | none => exact absurd rfl ((permits_plan_of_updated?_eq_none hupdated hplan).2 d)
      | some a =>
        have hchanged : q.changed? = some a := by
          cases q <;> simp_all [Request.changed?, Request.updated?]
        obtain ⟨sheet, d', hresolve, htakes, hd⟩ := takes_of_plan hupdated hplan
        obtain rfl := Action.enter.inj hd
        have hne := h.id_ne hb hresolve fun ha => hq (hchanged.trans (congrArg some ha))
        exact h.append (htakes.sheet ▸ hne.symm)

end Holds

end Book

/-! ### Services and servers -/

/-- What a service is asked about a sheet is answered as its book answers it. No file is needed for
that, so the store cannot fail. -/
theorem Service.Sound.exec_asked {σ : Type} [Medium σ] {s : Service σ} (h : s.Sound) {q : Request}
    {a : SheetAddress} (hq : q.asked? = some a) (now : Timestamp) :
    (Call.exec (q.call now) s).1 = (s.book.respond s.extent now q).1 := by
  obtain ⟨s', -, hrun⟩ := q.exec_call h.mirrors_current now
  rw [hrun, Book.respond]
  cases hplan : s.book.plan s.extent now q with
  | error e => rfl
  | ok action =>
    obtain ⟨answer, rfl⟩ := Book.exists_tell_of_asked hq hplan
    rfl

namespace Server

variable {σ : Type} [Medium σ]

/-- **What is done to other sheets does not show.** From any server that is reached, let any events
come of which no request changes a certain sheet: others are published to, proposed to or deleted,
the cache is saved or not, the store is opened again, and accesses to files are refused, also while
the log is rewritten. If the server answers at the end, it answers all that is asked about the sheet
as it did before. -/
theorem asked_alike {s : Service σ} (hs : s.Reachable) {t : Sheet}
    (ht : t ∈ s.book.registry.sheets) {es : List Event}
    (hother : ∀ now q, .request now q ∈ es → q.changed? ≠ some t.address)
    (hfew : s.book.registry.lastUpdateId + (issuedIds (run ⟨s, true⟩ es).2).length < UInt64.size)
    (hopen : (run ⟨s, true⟩ es).1.isOpen = true) {q : Request} (hq : q.asked? = some t.address)
    (now now' : Timestamp) :
    ((run ⟨s, true⟩ es).1.step (.request now' q)).2 = (step ⟨s, true⟩ (.request now q)).2 := by
  obtain ⟨hsound, hextent, -, -⟩ := @sound_run σ _ ⟨s, true⟩ es hs.sound hfew
  have hholds : s.book.Holds t (s.book.entriesOf t.id) := ⟨ht, rfl⟩
  have hholds' : (run ⟨s, true⟩ es).1.service.book.Holds t (s.book.entriesOf t.id) :=
    @book_run_of σ _ ⟨s, true⟩ (·.Holds t _) (·.changed? ≠ some t.address)
      (fun b extent now q hb hq h => h.respond hb hq) es hother hs.sound hholds hfew
  simp only [step, hopen, if_true, hsound.exec_asked hq, hs.sound.exec_asked hq, hextent]
  rw [hholds'.answer hholds hsound.book hs.sound.book hq]

/-- A second sheet beside the first one. -/
def diarySheet : Sheet := ⟨2, "diary", "ana", .everyone⟩

/-- A run in which two sheets are made and published to. -/
def publishingTwo : List Event :=
  [.request .epoch (.register "ana"), .request .epoch (.create "ana" planSheet.address),
    .request .epoch (.create "ana" diarySheet.address),
    .request .epoch (.publish "ana" planSheet.address "$A1 1"),
    .request .epoch (.publish "ana" diarySheet.address "$A1 2"), .checkpoint]

/-- One sheet is deleted although the log cannot be rewritten, and the store is opened again. -/
def deletingPlan : List Event :=
  [.refuse fun a => a == .rename .logTemp .log, .request .epoch (.delete "ana" planSheet.address),
    .refuse fun _ => false, .restart]

/-- The service on files after the run with two sheets. -/
def heldTwo : Service FileStore := (history FileStore ⟨10, 10⟩ true publishingTwo).1.service

theorem asked_alike_deletingPlan :
    heldTwo.Reachable ∧ diarySheet ∈ heldTwo.book.registry.sheets ∧
      (run ⟨heldTwo, true⟩ deletingPlan).2 = [.ok .done] ∧
      (run ⟨heldTwo, true⟩ deletingPlan).1.isOpen = true ∧
      ((run ⟨heldTwo, true⟩ deletingPlan).1.step
        (.request .epoch (.snapshot "bob" diarySheet.address))).2 =
      (step ⟨heldTwo, true⟩ (.request .epoch (.snapshot "bob" diarySheet.address))).2 := by
  have hreachable : heldTwo.Reachable :=
    Service.reachable_of_isOpen (by decide +kernel) (by decide +kernel)
  have hsheet : diarySheet ∈ heldTwo.book.registry.sheets := by decide +kernel
  have hopen : (run ⟨heldTwo, true⟩ deletingPlan).1.isOpen = true := by
    have hfollows : (run ⟨heldTwo, true⟩ deletingPlan.dropLast).1.Follows ⟨10, 10⟩
        (run ⟨heldTwo, true⟩ deletingPlan.dropLast).1.service.book.untimed :=
      ⟨rfl, (sound_run hreachable.sound (by decide +kernel)).1, fun _ => rfl, rfl, rfl⟩
    have hrestart := hfollows.restart FileStore.reopens (by decide +kernel) (by decide +kernel)
    rw [show deletingPlan = deletingPlan.dropLast ++ [.restart] from rfl, run_append]
    exact hrestart.isOpen
  refine ⟨hreachable, hsheet, rfl, hopen,
    asked_alike hreachable hsheet (fun now q hq => ?_) (by decide +kernel) hopen rfl .epoch .epoch⟩
  obtain rfl : q = .delete "ana" planSheet.address := by
    simp only [deletingPlan, List.mem_cons, List.not_mem_nil, reduceCtorEq, Event.request.injEq,
      or_false, false_or] at hq
    exact hq.2
  decide

end Server

end SharedSheet
