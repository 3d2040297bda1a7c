import SharedSheet.Proofs.Service.Run
import SharedSheet.Proofs.Store.Alike

/-!
# Failures leave no trace

A request that is refused may still have done something: the cache may have been built for it, and
the store may have begun to replace a file. Neither is ever seen. Services that differ in such
things only are `Alike`, and services that are alike answer all later events alike, a restart among
them. So it is enough to look at one request, and to see that a service after a failure is like the
service before it.

That later events are answered alike needs nothing but the two services being alike. They may come
from anywhere, and what is kept in files may be anything. That a failure leaves a service alike is
different: a publication writes to the log before it writes to the cache, so that it must not fail
in between. It does not, because the cache of a service that is reached knows all its sheets.

## Main definitions

* `Service.Alike`, `Server.Alike` — services and servers that answer everything alike
* `Call.Respects` — a call that is answered alike

## Main results

* `Request.respects_call` — requests are answered alike
* `Server.Alike.run` — servers that are alike stay alike and give the same replies
* `Service.Sound.alike_of_fails` — a failure leaves a service like the one before
* `Service.Reachable.run_failed` — after a failure all events are answered as if there had been none
-/

namespace SharedSheet

variable {σ : Type} [CleanMedium σ]

/-! ### Caches that are still to be built -/

/-- A cache is built from the sheets and the entries of a book and from nothing else in it. -/
theorem Cache.broughtUpTo_congr (c : Cache) {b b' : Book}
    (hsheets : b.registry.sheets = b'.registry.sheets) (hentries : b.entries = b'.entries) :
    c.broughtUpTo b = c.broughtUpTo b' := by
  obtain ⟨⟨_, sheets, _, _⟩, entries⟩ := b
  obtain ⟨⟨_, _, _, _⟩, _⟩ := b'
  obtain rfl := hsheets
  obtain rfl := hentries
  rfl

namespace Service

variable {s t u : Service σ}

/-- A store makes a difference to the cache by its sheets and its entries. -/
theorem current_setStore {store : σ}
    (hsheets : (Store.book store).registry.sheets = s.book.registry.sheets)
    (hentries : (Store.book store).entries = s.book.entries) :
    { s with store : Service σ }.current = s.current := by
  unfold current
  cases s.cache with
  | some c => rfl
  | none => exact Cache.broughtUpTo_congr _ hsheets hentries

/-! ### Services that are alike -/

/-- Services that answer everything alike: they differ in what failures leave in the store, and in
whether the cache is built yet. -/
structure Alike (s t : Service σ) : Prop where
  store : CleanMedium.Alike s.store t.store
  extent : s.extent = t.extent
  keepsCheckpoint : s.keepsCheckpoint = t.keepsCheckpoint
  checkpoint : s.checkpoint = t.checkpoint
  current : s.current = t.current

namespace Alike

theorem refl (s : Service σ) : s.Alike s := ⟨CleanMedium.alike_refl s.store, rfl, rfl, rfl, rfl⟩

theorem book (h : s.Alike t) : s.book = t.book := CleanMedium.book_eq h.store

theorem warmed (h : s.Alike t) : s.warmed.Alike t.warmed := { h with }

/-- It makes no difference whether the cache is built. -/
theorem of_warmed (h : s.Alike t) {s' t' : Service σ} (hs : s' = s ∨ s' = s.warmed)
    (ht : t' = t ∨ t' = t.warmed) : s'.Alike t' := by
  rcases hs with rfl | rfl <;> rcases ht with rfl | rfl <;> exact { h with }

/-- Caches that are both still to be built will be the same. -/
theorem of_uncached (hstore : CleanMedium.Alike s.store t.store) (hextent : s.extent = t.extent)
    (hkeeps : s.keepsCheckpoint = t.keepsCheckpoint) (hcheckpoint : s.checkpoint = t.checkpoint)
    (hs : s.cache = none) (ht : t.cache = none) : s.Alike t := by
  refine ⟨hstore, hextent, hkeeps, hcheckpoint, ?_⟩
  have hbook : s.book = t.book := CleanMedium.book_eq hstore
  rw [Service.current, Service.current, hs, ht, Option.getD_none, Option.getD_none, builtCache,
    builtCache, hextent, hkeeps, hcheckpoint, hbook]

/-- A store that is like the one before makes no difference. -/
theorem setStore {store : σ} (h : CleanMedium.Alike s.store store) : s.Alike { s with store } := by
  have hbook := CleanMedium.book_eq h
  exact ⟨h, rfl, rfl, rfl, (current_setStore (congrArg (·.registry.sheets) hbook.symm)
    (congrArg (·.entries) hbook.symm)).symm⟩

end Alike

end Service

/-! ### Calls that are answered alike -/

/-- A call that is answered alike by services that are alike, and that leaves them alike. -/
def Call.Respects {α : Type} (c : Call σ α) : Prop :=
  ∀ ⦃s t : Service σ⦄, s.Alike t →
    (Call.exec c s).1 = (Call.exec c t).1 ∧ (Call.exec c s).2.Alike (Call.exec c t).2

namespace Call.Respects

variable {α β : Type}

theorem bind {c : Call σ α} {k : α → Call σ β} (hc : Respects c) (hk : ∀ a, Respects (k a)) :
    Respects (c >>= k) := by
  intro s t h
  obtain ⟨answer, s', t', hs, ht, hafter⟩ := outcomes_eq (hc h)
  rw [Call.exec_bind, Call.exec_bind, hs, ht]
  cases answer with
  | error e => exact ⟨rfl, hafter⟩
  | ok a => exact hk a hafter

theorem map {c : Call σ α} (hc : Respects c) (f : α → β) : Respects (f <$> c) := by
  intro s t h
  obtain ⟨hanswer, hafter⟩ := hc h
  simp only [Call.exec_map, hanswer]
  exact ⟨trivial, hafter⟩

end Call.Respects

namespace Action

open Service

theorem respects_list (publisher : String) : Call.Respects (σ := σ) (list publisher).carryOut := by
  intro s t h
  obtain ⟨hanswer, hstore⟩ := (CleanMedium.clean_registerPublisher publisher).respects h.store
  simp only [carryOut, Call.exec_map, exec_onStore, hanswer]
  -- The cache may not be built here, but it would be the same with one publisher more.
  have hcurrent : ∀ s : Service σ,
      { s with store := (Store.registerPublisher publisher s.store).2 : Service σ }.current =
        s.current := fun s =>
    current_setStore (CleanMedium.sheets_registerPublisher publisher s.store)
      (CleanMedium.entries_registerPublisher publisher s.store)
  exact ⟨trivial, hstore, h.extent, h.keepsCheckpoint, h.checkpoint,
    (hcurrent s).trans (h.current.trans (hcurrent t).symm)⟩

/-- The course of all actions that change the cache. -/
theorem respects_warm {α : Type} {op : Operation σ StoreError α} {k : Cache → α → Call σ Answer}
    (hop : Operation.Respects CleanMedium.Alike op) (hk : ∀ c a, Call.Respects (k c a)) :
    Call.Respects (do k (← warmCache) (← onStore op)) := by
  intro s t h
  obtain ⟨hanswer, hstore⟩ := hop h.store
  have hafter : Service.Alike { s.warmed with store := (op s.store).2 }
      { t.warmed with store := (op t.store).2 } := { h.warmed with store := hstore }
  simp only [Call.exec_bind, exec_warmCache_eq, exec_onStore]
  rw [show s.warmed.store = s.store from rfl, show t.warmed.store = t.store from rfl, hanswer,
    h.current]
  cases (op t.store).1 with
  | error e => exact ⟨rfl, hafter⟩
  | ok a => exact hk t.current a hafter

theorem respects_setCache {c : Cache} {answer : Answer} :
    Call.Respects (σ := σ) (do setCache c; return answer) := fun _ _ h =>
  ⟨rfl, { h with current := rfl }⟩

/-- Actions are answered alike. -/
theorem respects_carryOut (action : Action) : Call.Respects (σ := σ) action.carryOut := by
  cases action with
  | tell answer => exact fun _ _ h => ⟨rfl, h⟩
  | list publisher => exact respects_list publisher
  | make a v =>
    exact respects_warm (CleanMedium.clean_insertSheet a v).respects fun _ _ => respects_setCache
  | drop sheet =>
    exact respects_warm (CleanMedium.clean_deleteSheet sheet).respects fun _ _ => respects_setCache
  | enter d =>
    refine respects_warm (CleanMedium.clean_append d).respects fun c e => ?_
    cases d.accepted with
    | false => exact fun _ _ h => ⟨rfl, h⟩
    | true =>
      intro s t h
      simp only [if_true, Call.exec_bind, exec_orRefuse]
      cases c.update d.sheet (Payload.edits d.payload) e.id with
      | error e => exact ⟨rfl, h⟩
      | ok c => exact respects_setCache h

end Action

namespace Request

open Service

theorem respects_snapshot (caller : String) (a : SheetAddress) :
    Call.Respects (σ := σ) (Service.snapshot caller a) := fun s t h => by
  rw [exec_snapshot_eq, exec_snapshot_eq, h.book, h.current]
  exact ⟨rfl, h.warmed⟩

theorem respects_subscriptionDelta (caller : String) (a : SheetAddress) (since : Nat) :
    Call.Respects (σ := σ) (Service.subscriptionDelta caller a since) := fun s t h => by
  rw [exec_subscriptionDelta_eq, exec_subscriptionDelta_eq, h.book, h.current]
  exact ⟨rfl, h.warmed⟩

theorem respects_evaluate (caller : String) (a : SheetAddress) (term : String) :
    Call.Respects (σ := σ) (Service.evaluate caller a term) :=
  (respects_snapshot caller a).bind fun w s t h => by
    rw [exec_orRefuse, exec_orRefuse]
    exact ⟨rfl, h⟩

/-- **Requests are answered alike.** -/
theorem respects_call (now : Timestamp) (q : Request) : Call.Respects (σ := σ) (q.call now) := by
  cases hreads : q.readsState with
  | false =>
    intro s t h
    obtain ⟨s', hs', hrun⟩ := exec_call_of_not_readsState (s := s) hreads now
    obtain ⟨t', ht', hrun'⟩ := exec_call_of_not_readsState (s := t) hreads now
    have halike := h.of_warmed hs' ht'
    rw [hrun, hrun', h.book, h.extent]
    cases t.book.plan t.extent now q with
    | error e => exact ⟨rfl, halike⟩
    | ok action => exact action.respects_carryOut halike
  | true =>
    cases q with
    | subscriptionDelta caller a since => exact (respects_subscriptionDelta caller a since).map _
    | snapshot caller a => exact (respects_snapshot caller a).map _
    | evaluate caller a term => exact (respects_evaluate caller a term).map _
    | register | publishers | sheets | create | delete | resolve | publish | propose | submit
    | publishedDelta => simp [readsState] at hreads

end Request

/-! ### Servers that are alike -/

namespace Service

/-- The cache is saved alike. -/
theorem respects_saveCheckpoint : Call.Respects (σ := σ) saveCheckpoint := by
  intro s t h
  unfold saveCheckpoint
  simp only [Call.exec_bind, Call.exec_get, h.keepsCheckpoint]
  cases t.keepsCheckpoint with
  | false => exact ⟨rfl, h⟩
  | true =>
    simp only [Bool.not_true, Bool.false_eq_true, if_false, Call.exec_bind, exec_warmCache_eq,
      Call.exec_get, h.current, h.warmed.checkpoint]
    cases t.warmed.checkpoint.save? t.current with
    | none => exact ⟨rfl, h.warmed⟩
    | some checkpoint => exact ⟨rfl, { h.warmed with checkpoint := rfl }⟩

end Service

namespace Server

/-- Servers that answer everything alike. -/
structure Alike (v w : Server σ) : Prop where
  service : v.service.Alike w.service
  isOpen : v.isOpen = w.isOpen

namespace Alike

variable {v w : Server σ}

theorem step (h : v.Alike w) (e : Event) :
    (v.step e).2 = (w.step e).2 ∧ (v.step e).1.Alike (w.step e).1 := by
  cases e with
  | request now q =>
    obtain ⟨hanswer, hafter⟩ := q.respects_call now h.service
    simp only [Server.step, h.isOpen]
    split
    · exact ⟨congrArg (· :: []) hanswer, hafter, rfl⟩
    · exact ⟨rfl, h⟩
  | checkpoint =>
    simp only [Server.step, h.isOpen]
    split
    · exact ⟨rfl, (Service.respects_saveCheckpoint h.service).2, rfl⟩
    · exact ⟨rfl, h⟩
  | restart =>
    obtain ⟨hanswer, hstore⟩ := CleanMedium.respects_reopen h.service.store
    simp only [Server.step, hanswer]
    exact ⟨trivial, .of_uncached hstore h.service.extent h.service.keepsCheckpoint
      h.service.checkpoint rfl rfl, rfl⟩
  | refuse r =>
    have hcurrent : ∀ s : Service σ,
        { s with store := Medium.refuse r s.store : Service σ }.current = s.current := fun s =>
      Service.current_setStore (congrArg (·.registry.sheets) (Medium.book_refuse r s.store))
        (congrArg (·.entries) (Medium.book_refuse r s.store))
    refine ⟨rfl, { h.service with
      store := CleanMedium.alike_refuse r h.service.store
      current := ?_ }, h.isOpen⟩
    exact (hcurrent v.service).trans (h.service.current.trans (hcurrent w.service).symm)

/-- **Servers that are alike stay alike and give the same replies.** -/
theorem run (h : v.Alike w) (es : List Event) :
    (v.run es).2 = (w.run es).2 ∧ (v.run es).1.Alike (w.run es).1 := by
  induction es generalizing v w with
  | nil => exact ⟨rfl, h⟩
  | cons e es ih =>
    obtain ⟨hreplies, hafter⟩ := h.step e
    obtain ⟨hreplies', hafter'⟩ := ih hafter
    exact ⟨congrArg₂ (· ++ ·) hreplies hreplies', hafter'⟩

end Alike

end Server

/-! ### Failures -/

namespace Service.Sound

variable {s : Service σ}

/-- The store fails before anything else changes: what comes after it does not fail. -/
theorem alike_of_warm_fails {α : Type} {op : Operation σ StoreError α}
    {k : Cache → α → Call σ Answer} {e : Refusal} (hop : Operation.Clean CleanMedium.Alike op)
    (hk : ∀ a (t : Service σ), ∃ answer, (Call.exec (k s.current a) t).1 = .ok answer)
    (hfails : (Call.exec (do k (← warmCache) (← onStore op)) s).1 = .error e) :
    s.Alike (Call.exec (do k (← warmCache) (← onStore op)) s).2 := by
  simp only [Call.exec_bind, exec_warmCache_eq, exec_onStore] at hfails ⊢
  have hafter := hop.fails s.store
  rw [show s.warmed.store = s.store from rfl] at hfails ⊢
  cases hanswer : (op s.store).1 with
  | ok a =>
    simp only [hanswer, Except.mapError] at hfails
    obtain ⟨answer, hok⟩ := hk a { s.warmed with store := (op s.store).2 }
    exact absurd hfails (by simp [hok])
  | error e' => exact { Alike.setStore (hafter e' hanswer) with current := rfl }

/-- An action that fails leaves a service like the one before. -/
theorem alike_of_carryOut_fails (h : s.Sound) {action : Action} (hpermits : s.book.Permits action)
    {e : Refusal} (hfails : (Call.exec action.carryOut s).1 = .error e) :
    s.Alike (Call.exec action.carryOut s).2 := by
  cases action with
  | tell answer => simp [Action.carryOut] at hfails
  | list publisher =>
    simp only [Action.carryOut, Call.exec_map, exec_onStore] at hfails ⊢
    cases hanswer : (Store.registerPublisher publisher s.store).1 with
    | ok isNew => simp [hanswer, Except.mapError, Except.map] at hfails
    | error e' =>
      exact .setStore ((CleanMedium.clean_registerPublisher publisher).fails s.store e' hanswer)
  | make a v =>
    exact alike_of_warm_fails (CleanMedium.clean_insertSheet a v) (fun _ _ => ⟨_, rfl⟩) hfails
  | drop sheet =>
    exact alike_of_warm_fails (CleanMedium.clean_deleteSheet sheet) (fun _ _ => ⟨_, rfl⟩) hfails
  | enter d =>
    -- The cache knows the sheet, so that the entry is folded in once it is in the log.
    have hknown := h.mirrors_current.sheet hpermits.1
    refine alike_of_warm_fails (CleanMedium.clean_append d) (fun entry t => ?_) hfails
    cases d.accepted with
    | false => exact ⟨_, rfl⟩
    | true =>
      simp only [if_true, Call.exec_bind, exec_orRefuse, Cache.update, hknown]
      exact ⟨_, rfl⟩

/-- **A failure leaves a service like the one before.** -/
theorem alike_of_fails (h : s.Sound) {now : Timestamp} {q : Request} {e : Refusal}
    (hfails : (Call.exec (q.call now) s).1 = .error e) :
    s.Alike (Call.exec (q.call now) s).2 := by
  obtain ⟨s', hs', hrun⟩ := q.exec_call h.mirrors_current now
  have halike : s.Alike s' := (Alike.refl s).of_warmed (.inl rfl) hs'
  have hsound : s'.Sound := by
    rcases hs' with rfl | rfl
    · exact h
    · exact h.warmed
  rw [hrun, halike.book, halike.extent] at hfails ⊢
  cases hplan : s'.book.plan s'.extent now q with
  | error e => exact halike
  | ok action =>
    rw [hplan] at hfails
    have hafter := hsound.alike_of_carryOut_fails (Book.permits_plan hplan) hfails
    rcases hs' with rfl | rfl
    · exact hafter
    · exact { hafter with }

end Service.Sound

/-- **A failure leaves no trace.** If a service that is reached refuses a request, for whatever
reason and whatever accesses to files are refused during it, then all events that follow are
answered as if the request had not been made. The service may be ended and started again in them,
and other accesses, or none, may be refused. -/
theorem Service.Reachable.run_failed {s : Service σ} (h : s.Reachable) (r r' : Access → Bool)
    {now : Timestamp} {q : Request} {e : Refusal}
    (hfails : ((⟨s, true⟩ : Server σ).run [.refuse r, .request now q]).2 = [.error e])
    (es : List Event) :
    ((⟨s, true⟩ : Server σ).run (.refuse r :: .request now q :: .refuse r' :: es)).2 =
      .error e :: ((⟨s, true⟩ : Server σ).run (.refuse r' :: es)).2 := by
  have hanswer :
      (Call.exec (q.call now) { s with store := Medium.refuse r s.store }).1 = .error e :=
    List.head_eq_of_cons_eq hfails
  have halike : Server.Alike ⟨{ s with store := Medium.refuse r s.store }, true⟩
      ⟨(Call.exec (q.call now) { s with store := Medium.refuse r s.store }).2, true⟩ :=
    ⟨(h.sound.refuse r).alike_of_fails hanswer, rfl⟩
  have hlater := (halike.run (.refuse r' :: es)).1
  simp only [Server.run, Server.step, if_true, CleanMedium.refuse_refuse, List.nil_append,
    List.singleton_append, hanswer] at hlater ⊢
  rw [hlater]

theorem Service.Reachable.run_failed_register :
    ((⟨{ store := ⟨{}, {}⟩, extent := ⟨10, 10⟩ }, true⟩ : Server FileStore).run
        [.refuse fun a => a == .rename .registryTemp .registry,
          .request .epoch (.register "ana")]).2 = [.error (.store .io)] ∧
      ((⟨{ store := ⟨{}, {}⟩, extent := ⟨10, 10⟩ }, true⟩ : Server FileStore).run
        [.refuse fun a => a == .rename .registryTemp .registry,
          .request .epoch (.register "ana"), .refuse fun _ => false, .restart,
          .request .epoch .publishers]).2 =
      .error (.store .io) ::
        ((⟨{ store := ⟨{}, {}⟩, extent := ⟨10, 10⟩ }, true⟩ : Server FileStore).run
          [.refuse fun _ => false, .restart, .request .epoch .publishers]).2 := by
  have hreachable : Service.Reachable (σ := FileStore)
      { store := ⟨{}, {}⟩, extent := ⟨10, 10⟩ } :=
    ⟨⟨10, 10⟩, false, [], by decide, rfl⟩
  exact ⟨rfl, hreachable.run_failed _ _ rfl _⟩

end SharedSheet
