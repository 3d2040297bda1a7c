import SharedSheet.Proofs.Service.Request
import SharedSheet.Proofs.Store.Medium

/-!
# Runs

A server answers requests for as long as it runs. In between its cache may be saved in a checkpoint,
it may be ended and started again on the same store and the same checkpoint, and at any time the
system may start to refuse other accesses to files. A server whose store cannot be opened answers
nothing until it is started again and its store can be opened.

`Service.Sound` is what holds of a service at every moment of a run. It has a clause for each place
in which something about the log is kept: the files, the book in memory, the cache, the checkpoint.

## Main definitions

* `Service.Sound` — what holds of every service that is reached
* `Event`, `Server`, `Server.run` — what happens, to what, and what is answered
* `Server.history` — a run from an empty store
* `Service.Reachable` — the services that are reached with fewer than 2^64 updates

## Main results

* `Service.Sound.serves` — a request is answered as the book answers it, or the store fails
* `Server.sound_run` — every run keeps soundness, and numbers its updates without a gap
* `Server.book_history` — what every answer keeps true of the book is true in every run
* `Service.Reachable.sound` — every service that is reached is sound
-/

namespace SharedSheet

variable {σ : Type} [Medium σ]

/-! ### Services -/

/-- What holds of every service that is reached. -/
structure Service.Sound (s : Service σ) : Prop where
  intact : Medium.Intact s.store
  book : s.book.Sound
  cache : ∀ c, s.cache = some c → c.Mirrors s.extent s.book
  checkpoint : ∀ c, s.checkpoint = .image c → c.Recalls s.extent s.book

namespace Service

variable {s : Service σ}

namespace Sound

theorem mirrors_builtCache (h : s.Sound) : s.builtCache.Mirrors s.extent s.book := by
  unfold builtCache
  refine Cache.Recalls.broughtUpTo ?_ h.book
  split
  · unfold Checkpoint.load?
    split
    · exact h.checkpoint _ (by assumption)
    · exact Cache.recalls_empty h.book
  · exact Cache.recalls_empty h.book

theorem mirrors_current (h : s.Sound) : s.current.Mirrors s.extent s.book := by
  unfold current
  cases hcache : s.cache with
  | some c => exact h.cache c hcache
  | none => exact h.mirrors_builtCache

theorem warmed (h : s.Sound) : s.warmed.Sound where
  intact := h.intact
  book := h.book
  cache c hc := by
    obtain rfl := Option.some.inj hc
    exact h.mirrors_current
  checkpoint := h.checkpoint

end Sound

/-- What a request came to: it was answered as the book answers it, or the store failed for a reason
outside it and nothing changed. -/
structure Serves (s : Service σ) (done : Except Refusal Answer × Service σ)
    (spec : Except Refusal Answer × Book) : Prop where
  sound : done.2.Sound
  extent : done.2.extent = s.extent
  steady : Medium.Steady s.store → Medium.Steady done.2.store
  result : done.1 = spec.1 ∧ done.2.book = spec.2 ∨
    (∃ e, done.1 = .error (.store e)) ∧ done.2.book = s.book ∧ ¬ Medium.Steady s.store

/-- Whether the cache was built before makes no difference. -/
theorem Serves.of_warmed {done : Except Refusal Answer × Service σ}
    {spec : Except Refusal Answer × Book} (h : Serves s.warmed done spec) : Serves s done spec :=
  ⟨h.sound, h.extent, h.steady, h.result⟩

namespace Sound

/-- A service is sound if what it keeps is right for the book that its store makes now. -/
theorem of_book {b : Book} (hbook : s.book = b) (hintact : Medium.Intact s.store) (hb : b.Sound)
    (hcache : ∀ c, s.cache = some c → c.Mirrors s.extent b)
    (hcheckpoint : ∀ c, s.checkpoint = .image c → c.Recalls s.extent b) : s.Sound := by
  subst hbook
  exact ⟨hintact, hb, hcache, hcheckpoint⟩

/-- The common course of all actions on the store: one operation, and then a change of the cache. -/
theorem serves_of_performs {α : Type} (h : s.Sound) {op : Operation σ StoreError α}
    {done : Except Refusal Answer × Service σ} {answer : Answer} (spec : α × Book)
    (cache : Option Cache)
    (hperforms : Performs Store.book Medium.Intact Medium.Steady s.store (op s.store) spec)
    (hdone : (op s.store).1 = .ok spec.1 →
      done = (.ok answer, { s with store := (op s.store).2, cache }))
    (hfailed : ∀ e, (op s.store).1 = .error e →
      done = (.error (.store e), { s with store := (op s.store).2 }))
    (hbook : spec.2.Sound) (hcache : ∀ c, cache = some c → c.Mirrors s.extent spec.2)
    (hcheckpoint : ∀ c, s.checkpoint = .image c → c.Recalls s.extent spec.2) :
    Serves s done (.ok answer, spec.2) := by
  rcases hperforms.result with ⟨hanswer, hafter⟩ | ⟨⟨e, hanswer⟩, hafter, hsteady⟩
  · rw [hdone hanswer]
    exact ⟨of_book hafter hperforms.intact hbook hcache hcheckpoint, rfl, hperforms.steady,
      .inl ⟨rfl, hafter⟩⟩
  · rw [hfailed e hanswer]
    exact ⟨of_book hafter hperforms.intact h.book h.cache h.checkpoint, rfl, hperforms.steady,
      .inr ⟨⟨e, rfl⟩, hafter, hsteady⟩⟩

theorem serves_list (h : s.Sound) (publisher : String) :
    Serves s (Call.exec (Action.list publisher).carryOut s)
      (.ok (s.book.act (.list publisher)).1, (s.book.act (.list publisher)).2) := by
  have hrun : Call.exec (Action.list publisher).carryOut s =
      ((((Store.registerPublisher publisher s.store).1.mapError .store).map .truth),
        { s with store := (Store.registerPublisher publisher s.store).2 }) := by
    rw [Action.carryOut, Call.exec_map, exec_onStore]
  refine h.serves_of_performs (s.book.registerPublisher publisher) s.cache
    (Medium.performs_registerPublisher publisher h.intact) (fun hanswer => ?_)
    (fun e hanswer => ?_) (h.book.registerPublisher publisher)
    (fun c hc => (h.cache c hc).registerPublisher publisher)
    fun c hc => (h.checkpoint c hc).registerPublisher publisher
  · rw [hrun, hanswer]
    rfl
  · rw [hrun, hanswer]
    rfl

/-- The course of all actions that change the cache: it is built, then the store does something, and
then the cache is made right for that. -/
theorem serves_of_warm {α : Type} (h : s.Sound) {op : Operation σ StoreError α}
    {k : Cache → α → Call σ Answer} {answer : Answer} (spec : α × Book) (c : Cache)
    (hperforms : Performs Store.book Medium.Intact Medium.Steady s.store (op s.store) spec)
    (hk : ∀ store, Call.exec (k s.current spec.1) { s.warmed with store } =
      (.ok answer, { s.warmed with store, cache := some c }))
    (hbook : spec.2.Sound) (hmirrors : c.Mirrors s.extent spec.2)
    (hcheckpoint : ∀ c, s.checkpoint = .image c → c.Recalls s.extent spec.2) :
    Serves s (Call.exec (do k (← warmCache) (← onStore op)) s) (.ok answer, spec.2) := by
  refine .of_warmed (h.warmed.serves_of_performs spec (some c) hperforms (fun hanswer => ?_)
    (fun e hanswer => ?_) hbook (fun c' hc => ?_) hcheckpoint)
  · simp only [Call.exec_bind, exec_warmCache_eq, exec_onStore, hanswer]
    exact hk (op s.store).2
  · simp only [Call.exec_bind, exec_warmCache_eq, exec_onStore, hanswer]
    rfl
  · obtain rfl := Option.some.inj hc
    exact hmirrors

theorem serves_make (h : s.Sound) {a : SheetAddress} {v : Visibility}
    (hpermits : s.book.Permits (.make a v)) :
    Serves s (Call.exec (Action.make a v).carryOut s)
      (.ok (s.book.act (.make a v)).1, (s.book.act (.make a v)).2) :=
  h.serves_of_warm (s.book.insertSheet a v)
    (s.current.register (s.book.registry.lastSheetId + 1))
    (Medium.performs_insertSheet a v h.intact) (fun _ => rfl) (h.book.act hpermits)
    (h.mirrors_current.register h.book a v)
    fun c hc => (h.checkpoint c hc).insertSheet h.book a v

theorem serves_drop (h : s.Sound) {sheet : Nat} (hpermits : s.book.Permits (.drop sheet)) :
    Serves s (Call.exec (Action.drop sheet).carryOut s)
      (.ok (s.book.act (.drop sheet)).1, (s.book.act (.drop sheet)).2) :=
  h.serves_of_warm (s.book.deleteSheet sheet) (s.current.remove sheet)
    (Medium.performs_deleteSheet sheet h.intact hpermits) (fun _ => rfl) (h.book.act hpermits)
    (h.mirrors_current.remove sheet) fun c hc => (h.checkpoint c hc).deleteSheet sheet

theorem serves_enter (h : s.Sound) {d : Draft} (hpermits : s.book.Permits (.enter d)) :
    Serves s (Call.exec (Action.enter d).carryOut s)
      (.ok (s.book.act (.enter d)).1, (s.book.act (.enter d)).2) := by
  have hperforms := Medium.performs_append d h.intact h.book hpermits.1
  have hcheckpoint : ∀ c, s.checkpoint = .image c → c.Recalls s.extent (s.book.append d).2 :=
    fun c hc => (h.checkpoint c hc).append d
  -- An accepted entry is folded into the cache. A proposal leaves the cache as it is.
  cases haccepted : d.accepted with
  | true =>
    obtain ⟨c, hupdate, hmirrors⟩ := h.mirrors_current.update haccepted hpermits.1
    refine h.serves_of_warm (s.book.append d) c hperforms (fun store => ?_) (h.book.act hpermits)
      hmirrors hcheckpoint
    have hentry : (s.book.append d).1 = s.book.nextEntry d := rfl
    simp only [haccepted, if_true, Call.exec_bind, exec_orRefuse, hentry, hupdate]
    rfl
  | false =>
    refine h.serves_of_warm (s.book.append d) s.current hperforms (fun store => ?_)
      (h.book.act hpermits) (h.mirrors_current.propose haccepted) hcheckpoint
    simp only [haccepted, Bool.false_eq_true, if_false]
    rfl

/-- A permitted action is carried out as the book does it. -/
theorem serves_action (h : s.Sound) {action : Action} (hpermits : s.book.Permits action) :
    Serves s (Call.exec action.carryOut s)
      (.ok (s.book.act action).1, (s.book.act action).2) := by
  cases action with
  | tell answer => exact ⟨h, rfl, id, .inl ⟨rfl, rfl⟩⟩
  | list publisher => exact h.serves_list publisher
  | make a v => exact h.serves_make hpermits
  | drop sheet => exact h.serves_drop hpermits
  | enter d => exact h.serves_enter hpermits

/-- A plan is carried out as the book does it. -/
theorem serves_plan (h : s.Sound) (now : Timestamp) (q : Request) :
    Serves s (Call.exec (Action.carryOut? (s.book.plan s.extent now q)) s)
      (s.book.respond s.extent now q) := by
  unfold Book.respond
  cases hplan : s.book.plan s.extent now q with
  | error e => exact ⟨h, rfl, id, .inl ⟨rfl, rfl⟩⟩
  | ok action => exact h.serves_action (Book.permits_plan hplan)

/-- **A request is answered as the book answers it**, or the store fails. -/
theorem serves (h : s.Sound) (now : Timestamp) (q : Request) :
    Serves s (Call.exec (q.call now) s) (s.book.respond s.extent now q) := by
  obtain ⟨s', hs', hrun⟩ := q.exec_call h.mirrors_current now
  rw [hrun]
  rcases hs' with rfl | rfl
  · exact h.serves_plan now q
  · exact .of_warmed (h.warmed.serves_plan now q)

/-- Saving the cache keeps soundness. -/
theorem saveCheckpoint (h : s.Sound) :
    (Call.exec saveCheckpoint s).2.Sound ∧ (Call.exec saveCheckpoint s).2.extent = s.extent ∧
      (Call.exec saveCheckpoint s).2.store = s.store := by
  unfold Service.saveCheckpoint
  simp only [Call.exec_bind, Call.exec_get]
  by_cases hkeeps : s.keepsCheckpoint = true
  · simp only [hkeeps, Bool.not_true, Bool.false_eq_true, if_false, Call.exec_bind,
      exec_warmCache_eq, Call.exec_get]
    cases hsave : s.warmed.checkpoint.save? s.current with
    | none => exact ⟨h.warmed, rfl, rfl⟩
    | some image =>
      refine ⟨⟨h.intact, h.book, h.warmed.cache, fun c hc => ?_⟩, rfl, rfl⟩
      have himage : image = .image s.current := by
        unfold Checkpoint.save? at hsave
        split at hsave
        · simp at hsave
        · exact (Option.some.inj hsave).symm
      have hc : image = .image c := hc
      rw [himage] at hc
      obtain rfl := Checkpoint.image.inj hc
      exact h.mirrors_current.recalls h.book
  · simp only [hkeeps]
    exact ⟨h, rfl, rfl⟩

/-- A new service over the store that is opened again. -/
theorem restarted (h : s.Sound) (hfits : s.book.registry.lastUpdateId < UInt64.size) :
    Service.Sound { s with store := (Medium.reopen s.store).2, cache := none } :=
  of_book (Medium.book_reopen h.intact hfits) (Medium.intact_reopen h.intact hfits) h.book
    (by simp) h.checkpoint

theorem refuse (h : s.Sound) (r : Access → Bool) :
    Service.Sound { s with store := Medium.refuse r s.store } :=
  of_book (Medium.book_refuse r s.store) (Medium.intact_refuse r h.intact) h.book h.cache
    h.checkpoint

end Sound

end Service

/-! ### Servers -/

/-- What happens to a server. -/
inductive Event where
  /-- A request comes at some time. -/
  | request (now : Timestamp) (q : Request)
  /-- The cache is to be saved. -/
  | checkpoint
  /-- The server ends and is started again on the same store. -/
  | restart
  /-- Other accesses to files are refused from now on. -/
  | refuse (r : Access → Bool)

/-- A service, and whether its store is open. -/
structure Server (σ : Type) where
  service : Service σ
  isOpen : Bool := true

/-- The answer to a request, or why it was refused. -/
abbrev Reply := Except Refusal Answer

/-- The numbers of the updates that replies report. -/
def issuedIds (replies : List Reply) : List Nat :=
  replies.flatMap fun reply =>
    match reply with
    | .ok answer => answer.entryId?.toList
    | .error _ => []

theorem issuedIds_append (rs qs : List Reply) :
    issuedIds (rs ++ qs) = issuedIds rs ++ issuedIds qs := by
  simp [issuedIds]

namespace Server

/-- A server on a store that nothing was put into. -/
def start (extent : Extent) (keepsCheckpoint : Bool) : Server σ :=
  ⟨{ store := Medium.fresh, extent, keepsCheckpoint }, true⟩

/-- What an event makes of a server, and what is replied. -/
def step (v : Server σ) : Event → Server σ × List Reply
  | .request now q =>
    if v.isOpen then
      (⟨(Call.exec (q.call now) v.service).2, true⟩, [(Call.exec (q.call now) v.service).1])
    else (v, [])
  | .checkpoint =>
    if v.isOpen then (⟨(Call.exec Service.saveCheckpoint v.service).2, true⟩, []) else (v, [])
  | .restart =>
    (⟨{ v.service with store := (Medium.reopen v.service.store).2, cache := none },
      match (Medium.reopen v.service.store).1 with
      | .ok () => true
      | .error _ => false⟩, [])
  | .refuse r => (⟨{ v.service with store := Medium.refuse r v.service.store }, v.isOpen⟩, [])

/-- What events make of a server, and all replies in order. -/
def run (v : Server σ) : List Event → Server σ × List Reply
  | [] => (v, [])
  | e :: es => (((v.step e).1.run es).1, (v.step e).2 ++ ((v.step e).1.run es).2)

theorem run_append (v : Server σ) (es fs : List Event) : v.run (es ++ fs) =
    (((v.run es).1.run fs).1, (v.run es).2 ++ ((v.run es).1.run fs).2) := by
  induction es generalizing v with
  | nil => rfl
  | cons e es ih => simp only [List.cons_append, run, ih, List.append_assoc]

/-- The number of the last update that a server gave. -/
def lastUpdateId (v : Server σ) : Nat := v.service.book.registry.lastUpdateId

variable {v : Server σ}

/-- A step keeps soundness, and the updates that it reports have the next numbers. -/
theorem sound_step (h : v.service.Sound) (hfits : v.lastUpdateId < UInt64.size) (e : Event) :
    (v.step e).1.service.Sound ∧ (v.step e).1.service.extent = v.service.extent ∧
      (v.step e).1.lastUpdateId = v.lastUpdateId + (issuedIds (v.step e).2).length ∧
      issuedIds (v.step e).2 =
        List.range' (v.lastUpdateId + 1) (issuedIds (v.step e).2).length := by
  cases e with
  | request now q =>
    by_cases hopen : v.isOpen = true
    · have hserves := h.serves now q
      simp only [step, hopen, if_true]
      refine ⟨hserves.sound, hserves.extent, ?_⟩
      rcases hserves.result with ⟨hanswer, hbook⟩ | ⟨⟨e, hanswer⟩, hbook, -⟩
      · rw [hanswer, lastUpdateId, hbook, Book.respond]
        cases hplan : v.service.book.plan v.service.extent now q with
        | error e => exact ⟨rfl, rfl⟩
        | ok action =>
          have := Book.lastUpdateId_act (Book.permits_plan hplan)
          simpa [issuedIds, lastUpdateId] using this
      · rw [hanswer, lastUpdateId, hbook]
        exact ⟨rfl, rfl⟩
    · simp only [step, hopen]
      exact ⟨h, rfl, rfl, rfl⟩
  | checkpoint =>
    by_cases hopen : v.isOpen = true
    · obtain ⟨hsound, hextent, hstore⟩ := h.saveCheckpoint
      simp only [step, hopen, if_true]
      refine ⟨hsound, hextent, ?_, rfl⟩
      rw [lastUpdateId, Service.book, hstore]
      rfl
    · simp only [step, hopen]
      exact ⟨h, rfl, rfl, rfl⟩
  | restart =>
    have hbook := Medium.book_reopen h.intact hfits
    exact ⟨h.restarted hfits, rfl, congrArg (·.registry.lastUpdateId) hbook, rfl⟩
  | refuse r =>
    have hbook := Medium.book_refuse r v.service.store
    exact ⟨h.refuse r, rfl, congrArg (·.registry.lastUpdateId) hbook, rfl⟩

/-- **Every run keeps soundness**, and numbers its updates without a gap. -/
theorem sound_run {es : List Event} (h : v.service.Sound)
    (hfew : v.lastUpdateId + (issuedIds (v.run es).2).length < UInt64.size) :
    (v.run es).1.service.Sound ∧ (v.run es).1.service.extent = v.service.extent ∧
      (v.run es).1.lastUpdateId = v.lastUpdateId + (issuedIds (v.run es).2).length ∧
      issuedIds (v.run es).2 =
        List.range' (v.lastUpdateId + 1) (issuedIds (v.run es).2).length := by
  induction es generalizing v with
  | nil => exact ⟨h, rfl, rfl, rfl⟩
  | cons e es ih =>
    simp only [run, issuedIds_append, List.length_append] at hfew ⊢
    obtain ⟨hsound, hextent, hlast, hissued⟩ := sound_step h (by omega) e
    obtain ⟨hsound', hextent', hlast', hissued'⟩ := @ih (v.step e).1 hsound (by omega)
    refine ⟨hsound', hextent'.trans hextent, by omega, ?_⟩
    rw [← List.range'_append_1, ← hissued]
    congr 1
    rw [hissued', hlast]
    simp [Nat.add_right_comm]

/-- Only requests change the book, and a request changes it as the book's own answer does or not at
all. -/
theorem book_step (h : v.service.Sound) (hfits : v.lastUpdateId < UInt64.size) (e : Event) :
    (v.step e).1.service.book = v.service.book ∨
      ∃ now q, e = .request now q ∧ (v.step e).1.service.book =
        (v.service.book.respond v.service.extent now q).2 := by
  cases e with
  | request now q =>
    by_cases hopen : v.isOpen = true
    · simp only [step, hopen, if_true]
      rcases (h.serves now q).result with ⟨-, hbook⟩ | ⟨-, hbook, -⟩
      · exact .inr ⟨now, q, rfl, hbook⟩
      · exact .inl hbook
    · simp only [step, hopen]
      exact .inl rfl
  | checkpoint =>
    refine .inl ?_
    by_cases hopen : v.isOpen = true
    · simp only [step, hopen, if_true]
      rw [Service.book, h.saveCheckpoint.2.2]
      rfl
    · simp only [step, hopen]
      rfl
  | restart => exact .inl (Medium.book_reopen h.intact hfits)
  | refuse r => exact .inl (Medium.book_refuse r v.service.store)

/-- What the answers to some requests keep true of a sound book stays true of the book of a server
that gets no others. -/
theorem book_run_of {P : Book → Prop} {allowed : Request → Prop}
    (hrespond : ∀ (b : Book) extent now q, b.Sound → allowed q → P b →
      P (b.respond extent now q).2)
    {es : List Event} (hallowed : ∀ now q, .request now q ∈ es → allowed q)
    (h : v.service.Sound) (hP : P v.service.book)
    (hfew : v.lastUpdateId + (issuedIds (v.run es).2).length < UInt64.size) :
    P (v.run es).1.service.book := by
  induction es generalizing v with
  | nil => exact hP
  | cons e es ih =>
    simp only [run, issuedIds_append, List.length_append] at hfew ⊢
    obtain ⟨hsound, -, hlast, -⟩ := sound_step h (by omega) e
    refine @ih (v.step e).1 (fun now q hq => hallowed now q (List.mem_cons_of_mem _ hq)) hsound ?_
      (by omega)
    rcases book_step h (by omega) e with hbook | ⟨now, q, rfl, hbook⟩
    · rwa [hbook]
    · rw [hbook]
      exact hrespond _ _ now q h.book (hallowed now q List.mem_cons_self) hP

/-- What every answer of a sound book keeps true of it stays true of the book of a server. -/
theorem book_run {P : Book → Prop}
    (hrespond : ∀ (b : Book) extent now q, b.Sound → P b → P (b.respond extent now q).2)
    {es : List Event} (h : v.service.Sound) (hP : P v.service.book)
    (hfew : v.lastUpdateId + (issuedIds (v.run es).2).length < UInt64.size) :
    P (v.run es).1.service.book :=
  @book_run_of σ _ v P (fun _ => True) (fun b extent now q hb _ => hrespond b extent now q hb) es
    (fun _ _ _ => trivial) h hP hfew

/-- An event gives at most one number to an update, and at most one to a sheet. -/
theorem numbers_step_le (h : v.service.Sound) (hfits : v.lastUpdateId < UInt64.size) (e : Event) :
    (issuedIds (v.step e).2).length ≤ 1 ∧
      (v.step e).1.service.book.registry.lastSheetId ≤
        v.service.book.registry.lastSheetId + 1 := by
  refine ⟨?_, ?_⟩
  · cases e with
    | request now q =>
      simp only [step]
      split
      · rcases (Call.exec (q.call now) v.service).1 with e | answer
        · exact Nat.zero_le _
        · cases hid : answer.entryId? <;> simp [issuedIds, hid]
      · exact Nat.zero_le _
    | checkpoint =>
      simp only [step]
      split <;> exact Nat.zero_le _
    | restart | refuse => exact Nat.zero_le _
  · rcases book_step h hfits e with hbook | ⟨now, q, -, hbook⟩
    · rw [hbook]
      exact Nat.le_succ _
    · rw [hbook, Book.respond]
      cases v.service.book.plan v.service.extent now q with
      | error e => exact Nat.le_succ _
      | ok action =>
        cases action with
        | tell | drop | enter => exact Nat.le_succ _
        | make a s => exact Nat.le_refl _
        | list publisher =>
          simp only [Book.act, Book.registerPublisher]
          split <;> exact Nat.le_succ _

/-- There are no more numbers than events. -/
theorem numbers_run_le {es : List Event} (h : v.service.Sound)
    (hfew : v.lastUpdateId + es.length < UInt64.size) :
    (issuedIds (v.run es).2).length ≤ es.length ∧
      (v.run es).1.service.book.registry.lastSheetId ≤
        v.service.book.registry.lastSheetId + es.length := by
  induction es generalizing v with
  | nil => exact ⟨Nat.le_refl _, Nat.le_refl _⟩
  | cons e es ih =>
    simp only [List.length_cons] at hfew
    obtain ⟨hone, hsheet⟩ := numbers_step_le h (by omega) e
    obtain ⟨hsound, -, hlast, -⟩ := sound_step h (by omega) e
    obtain ⟨hrest, hsheets⟩ := @ih (v.step e).1 hsound (by omega)
    simp only [run, issuedIds_append, List.length_append, List.length_cons]
    exact ⟨by omega, by omega⟩

theorem sound_start (extent : Extent) (keepsCheckpoint : Bool) :
    (start extent keepsCheckpoint : Server σ).service.Sound :=
  Service.Sound.of_book Medium.book_fresh Medium.intact_fresh .empty (by simp [start])
    (by simp [start])

theorem lastUpdateId_start (extent : Extent) (keepsCheckpoint : Bool) :
    (start extent keepsCheckpoint : Server σ).lastUpdateId = 0 := by
  rw [lastUpdateId, Service.book, start, Medium.book_fresh]

/-- What events make of a server that starts on an empty store, and all replies in order. -/
def history (σ : Type) [Medium σ] (extent : Extent) (keepsCheckpoint : Bool) (es : List Event) :
    Server σ × List Reply :=
  (start extent keepsCheckpoint).run es

theorem sound_history {extent : Extent} {keepsCheckpoint : Bool} {es : List Event}
    (hfew : (issuedIds (history σ extent keepsCheckpoint es).2).length < UInt64.size) :
    (history σ extent keepsCheckpoint es).1.service.Sound ∧
      (history σ extent keepsCheckpoint es).1.service.extent = extent ∧
      (history σ extent keepsCheckpoint es).1.lastUpdateId =
        (issuedIds (history σ extent keepsCheckpoint es).2).length ∧
      issuedIds (history σ extent keepsCheckpoint es).2 =
        List.range' 1 (issuedIds (history σ extent keepsCheckpoint es).2).length := by
  have hstart := lastUpdateId_start (σ := σ) extent keepsCheckpoint
  have hrun := @sound_run σ _ (start extent keepsCheckpoint) es (sound_start extent keepsCheckpoint)
  rw [hstart, Nat.zero_add] at hrun
  exact hrun hfew

/-- What comes after some events happens to the server that they made. -/
theorem history_append (extent : Extent) (keepsCheckpoint : Bool) (es fs : List Event) :
    history σ extent keepsCheckpoint (es ++ fs) =
      (((history σ extent keepsCheckpoint es).1.run fs).1,
        (history σ extent keepsCheckpoint es).2 ++
          ((history σ extent keepsCheckpoint es).1.run fs).2) :=
  run_append ..

/-- If there are few updates on the whole there are few up to any point, and few after it. -/
theorem few_of_history_append {extent : Extent} {keepsCheckpoint : Bool} {es fs : List Event}
    (hfew : (issuedIds (history σ extent keepsCheckpoint (es ++ fs)).2).length < UInt64.size) :
    (issuedIds (history σ extent keepsCheckpoint es).2).length < UInt64.size ∧
      (history σ extent keepsCheckpoint es).1.lastUpdateId +
        (issuedIds ((history σ extent keepsCheckpoint es).1.run fs).2).length < UInt64.size := by
  rw [history_append, issuedIds_append, List.length_append] at hfew
  have hfirst : (issuedIds (history σ extent keepsCheckpoint es).2).length < UInt64.size := by omega
  exact ⟨hfirst, by rwa [(sound_history hfirst).2.2.1]⟩

theorem numbers_history_le (extent : Extent) (keepsCheckpoint : Bool) {es : List Event}
    (hfew : es.length < UInt64.size) :
    (issuedIds (history σ extent keepsCheckpoint es).2).length ≤ es.length ∧
      (history σ extent keepsCheckpoint es).1.service.book.registry.lastSheetId ≤ es.length := by
  have hlast := lastUpdateId_start (σ := σ) extent keepsCheckpoint
  have hnone : (start extent keepsCheckpoint : Server σ).service.book = {} := Medium.book_fresh
  have hnumbers := @numbers_run_le σ _ (start extent keepsCheckpoint) es
    (sound_start extent keepsCheckpoint) (by omega)
  rwa [hnone, Nat.zero_add] at hnumbers

/-- What holds of the empty book, and is kept by every answer of a sound book, holds of the book of
every server that is reached. -/
theorem book_history {P : Book → Prop} {extent : Extent} {keepsCheckpoint : Bool}
    {es : List Event} (hempty : P {})
    (hrespond : ∀ (b : Book) extent now q, b.Sound → P b → P (b.respond extent now q).2)
    (hfew : (issuedIds (history σ extent keepsCheckpoint es).2).length < UInt64.size) :
    P (history σ extent keepsCheckpoint es).1.service.book := by
  have hstart := lastUpdateId_start (σ := σ) extent keepsCheckpoint
  refine book_run hrespond (sound_start extent keepsCheckpoint) ?_ ?_
  · rwa [Service.book, start, Medium.book_fresh]
  · rwa [hstart, Nat.zero_add]

end Server

/-- The services that are reached from an empty store with fewer than 2^64 updates, and that answer
requests. -/
def Service.Reachable (s : Service σ) : Prop :=
  ∃ (extent : Extent) (keepsCheckpoint : Bool) (es : List Event),
    (issuedIds (Server.history σ extent keepsCheckpoint es).2).length < UInt64.size ∧
      (Server.history σ extent keepsCheckpoint es).1 = ⟨s, true⟩

theorem Service.reachable_of_isOpen {extent : Extent} {keepsCheckpoint : Bool} {es : List Event}
    (hfew : (issuedIds (Server.history σ extent keepsCheckpoint es).2).length < UInt64.size)
    (hopen : (Server.history σ extent keepsCheckpoint es).1.isOpen = true) :
    (Server.history σ extent keepsCheckpoint es).1.service.Reachable :=
  ⟨extent, keepsCheckpoint, es, hfew, by rw [← hopen]⟩

/-- **Every service that is reached is sound.** -/
theorem Service.Reachable.sound {s : Service σ} (h : s.Reachable) : s.Sound := by
  obtain ⟨extent, keepsCheckpoint, es, hfew, hrun⟩ := h
  have hsound := (Server.sound_history hfew).1
  rwa [hrun] at hsound

/-! ### A small run -/

/-- The first sheet of a publisher. -/
def planSheet : Sheet := ⟨1, "plan", "ana", .everyone⟩

/-- A run in which the publisher makes the sheet and publishes payloads to it. -/
def publishing (payloads : List String) : List Event :=
  .request .epoch (.register "ana") :: .request .epoch (.create "ana" planSheet.address) ::
    payloads.map fun payload => .request .epoch (.publish "ana" planSheet.address payload)

end SharedSheet
