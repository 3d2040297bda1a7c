import SharedSheet.Proofs.Service.Run

/-!
# Restarts

A server that keeps its store in files may be ended and started again between any two requests, its
cache may be saved at any time, and nobody who asks it can tell: the answers are those of a server
that keeps everything in memory and never ends. Only the times of entries differ, since two servers
are never asked at the same time.

Both servers are compared with a third thing that has neither a cache nor files, a book that answers
requests one after another and knows no times. `Server.Follows` relates a server to the book that it
has to answer like. Every event keeps the relation: a request because the service answers as its
book does, a checkpoint and a restart because they leave the book as it is.

## Main definitions

* `Answer.untimed`, `Reply.untimed` — without the times of entries
* `Book.replay` — what a book without times answers to requests one after another
* `Server.Follows` — a server and the book that it answers like

## Main results

* `Book.respond_untimed` — no answer depends on a time
* `Server.Follows.run` — a server answers like the book that it follows
* `Server.restarts_invisible` — a server with restarts answers like one in memory without
-/

namespace SharedSheet

/-! ### Without times -/

theorem map_bind {ε α β γ : Type} (x : Except ε α) (f : α → Except ε β) (g : β → γ) :
    (x >>= f).map g = x >>= fun a => (f a).map g := by
  cases x <;> rfl

/-- An answer without the time of the entry in it. -/
def Answer.untimed : Answer → Answer
  | .entry e => .entry e.untimed
  | answer => answer

/-- A reply without the time of the entry in it. -/
def Reply.untimed (reply : Reply) : Reply := reply.map Answer.untimed

/-- An action without the times in it. -/
def Action.untimed : Action → Action
  | .tell answer => .tell answer.untimed
  | .enter d => .enter d.untimed
  | action => action

namespace Book

variable {b : Book}

theorem acceptedOf_untimed (id : Nat) :
    b.untimed.acceptedOf id = (b.acceptedOf id).map LogEntry.untimed := by
  rw [acceptedOf, untimed, List.filter_map]
  rfl

theorem ofEntries_untimed (es : List LogEntry) :
    Delta.ofEntries (es.map LogEntry.untimed) = Delta.ofEntries es := by
  rw [Delta.ofEntries, List.foldl_map]
  rfl

theorem sheetState_untimed (extent : Extent) (id : Nat) :
    b.untimed.sheetState extent id = b.sheetState extent id := by
  rw [sheetState, acceptedOf_untimed, CachedSheet.ofEntries, List.foldl_map]
  rfl

theorem planPublish_untimed (now : Timestamp) (caller : String) (a : SheetAddress)
    (payload : String) : b.untimed.planPublish .epoch caller a payload =
      (b.planPublish now caller a payload).map Action.untimed := by
  simp only [planPublish, map_bind]
  rfl

theorem planPropose_untimed (now : Timestamp) (caller : String) (a : SheetAddress)
    (payload : String) : b.untimed.planPropose .epoch caller a payload =
      (b.planPropose now caller a payload).map Action.untimed := by
  simp only [planPropose, map_bind]
  rfl

theorem planCreate_untimed (caller : String) (a : SheetAddress) :
    b.untimed.planCreate caller a = (b.planCreate caller a).map Action.untimed := by
  show b.planCreate caller a = (b.planCreate caller a).map Action.untimed
  unfold planCreate
  simp only
  split
  · rfl
  · split
    · rfl
    · split
      · split <;> rfl
      · rfl

/-- What a book makes of a request does not depend on times. -/
theorem plan_untimed (extent : Extent) (now : Timestamp) (q : Request) :
    b.untimed.plan extent .epoch q = (b.plan extent now q).map Action.untimed := by
  cases q with
  | register publisher =>
    simp only [plan]
    split <;> rfl
  | publishers => rfl
  | sheets publisher caller =>
    show b.plan extent .epoch (.sheets publisher caller) = _
    simp only [plan]
    split <;> rfl
  | create caller a => exact planCreate_untimed caller a
  | delete | resolve =>
    simp only [plan, map_bind]
    rfl
  | publish caller a payload => exact planPublish_untimed now caller a payload
  | propose caller a payload => exact planPropose_untimed now caller a payload
  | submit caller a payload =>
    by_cases h : caller = a.publisher
    · simp only [plan, h, if_true]
      exact planPublish_untimed now _ a payload
    · simp only [plan, h, if_false]
      exact planPropose_untimed now caller a payload
  | publishedDelta | subscriptionDelta | snapshot | evaluate =>
    simp only [plan, map_bind, sheetUpdates_untimed, ofEntries_untimed, sheetState_untimed]
    rfl

/-- What a book does then does not depend on times either. -/
theorem act_untimed (action : Action) : b.untimed.act action.untimed =
    ((b.act action).1.untimed, (b.act action).2.untimed) := by
  cases action with
  | tell answer => rfl
  | list publisher =>
    have hpublisher : b.untimed.registerPublisher publisher =
        ((b.registerPublisher publisher).1, (b.registerPublisher publisher).2.untimed) := by
      by_cases h : b.registry.knows publisher = true
      · have h' : b.untimed.registry.knows publisher = true := h
        rw [registerPublisher, registerPublisher, if_pos h, if_pos h']
      · have h' : ¬ b.untimed.registry.knows publisher = true := h
        rw [registerPublisher, registerPublisher, if_neg h, if_neg h']
        rfl
    simp only [Action.untimed, act, hpublisher]
    rfl
  | make a v => rfl
  | drop sheet =>
    simp only [Action.untimed, act, deleteSheet, withoutSheet, untimed, List.filter_map]
    rfl
  | enter d =>
    simp only [Action.untimed, act, append, addEntry, untimed, List.map_append]
    rfl

/-- **No answer depends on a time.** -/
theorem respond_untimed (extent : Extent) (now : Timestamp) (q : Request) :
    b.untimed.respond extent .epoch q =
      (Reply.untimed (b.respond extent now q).1, (b.respond extent now q).2.untimed) := by
  simp only [respond, plan_untimed extent now]
  cases b.plan extent now q with
  | error e => rfl
  | ok action =>
    simp only [Except.map, act_untimed]
    rfl

/-! ### Replaying requests -/

/-- What a book without times answers to requests one after another. -/
def replay (extent : Extent) (b : Book) : List Request → Book × List Reply
  | [] => (b, [])
  | q :: qs =>
    let done := b.respond extent .epoch q
    ((done.2.replay extent qs).1, done.1 :: (done.2.replay extent qs).2)

theorem replay_append (extent : Extent) (qs rs : List Request) : b.replay extent (qs ++ rs) =
    (((b.replay extent qs).1.replay extent rs).1,
      (b.replay extent qs).2 ++ ((b.replay extent qs).1.replay extent rs).2) := by
  induction qs generalizing b with
  | nil => rfl
  | cons q qs ih => simp only [List.cons_append, replay, ih]

/-- Numbers that were given stay given. -/
theorem le_respond (extent : Extent) (now : Timestamp) (q : Request) :
    b.registry.lastSheetId ≤ (b.respond extent now q).2.registry.lastSheetId ∧
      b.registry.lastUpdateId ≤ (b.respond extent now q).2.registry.lastUpdateId := by
  unfold respond
  cases hplan : b.plan extent now q with
  | error e => exact ⟨Nat.le_refl _, Nat.le_refl _⟩
  | ok action =>
    refine ⟨?_, (lastUpdateId_act (permits_plan hplan)).1 ▸ Nat.le_add_right _ _⟩
    cases action with
    | tell | drop | enter => exact Nat.le_refl _
    | make a v => exact Nat.le_succ _
    | list publisher =>
      simp only [act, registerPublisher]
      split <;> exact Nat.le_refl _

theorem le_replay (extent : Extent) (qs : List Request) :
    b.registry.lastSheetId ≤ (b.replay extent qs).1.registry.lastSheetId ∧
      b.registry.lastUpdateId ≤ (b.replay extent qs).1.registry.lastUpdateId := by
  induction qs generalizing b with
  | nil => exact ⟨Nat.le_refl _, Nat.le_refl _⟩
  | cons q qs ih =>
    have hstep := b.le_respond extent .epoch q
    have hrest := @ih (b.respond extent .epoch q).2
    exact ⟨Nat.le_trans hstep.1 hrest.1, Nat.le_trans hstep.2 hrest.2⟩

end Book

/-- The numbers of a sound registry fit if the last ones do. -/
theorem Registry.Sound.fits {g : Registry} (h : g.Sound) (hsheet : g.lastSheetId < UInt64.size)
    (hupdate : g.lastUpdateId < UInt64.size) : g.Fits where
  sheets s hs := Nat.lt_of_le_of_lt (h.id_le s hs) hsheet
  lastSheetId := hsheet
  lastUpdateId := hupdate

/-! ### Servers that follow a book -/

/-- Stores that can be opened again after the program ended. -/
def Medium.Reopens (σ : Type) [Medium σ] : Prop :=
  ∀ s : σ, Medium.Intact s → Medium.Steady s → (Store.book s).registry.Fits →
    (Medium.reopen s).1 = .ok ()

theorem FileStore.reopens : Medium.Reopens FileStore := fun _ hintact hsteady hfits =>
  (reopen_eq hintact hfits.lastUpdateId).2.2.2 hsteady hfits

/-- The events in which nothing but requests comes. -/
def asking (asked : List (Timestamp × Request)) : List Event :=
  asked.map fun (now, q) => .request now q

/-- The request that an event brings. -/
def Event.request? : Event → Option Request
  | .request _ q => some q
  | _ => none

namespace Server

variable {σ : Type} [Medium σ]

/-- A server and the book that it answers like. -/
structure Follows (v : Server σ) (extent : Extent) (b : Book) : Prop where
  isOpen : v.isOpen = true
  sound : v.service.Sound
  steady : Medium.Steady v.service.store
  extent : v.service.extent = extent
  book : v.service.book.untimed = b

variable {v : Server σ} {extent : Extent} {b : Book}

theorem follows_start (extent : Extent) (keepsCheckpoint : Bool) :
    (start extent keepsCheckpoint : Server σ).Follows extent {} where
  isOpen := rfl
  sound := sound_start extent keepsCheckpoint
  steady := Medium.steady_fresh
  extent := rfl
  book := by
    rw [Service.book, start, Medium.book_fresh]
    rfl

namespace Follows

/-- A request is answered as the book answers it: a steady store does not fail. -/
theorem request (h : v.Follows extent b) (now : Timestamp) (q : Request) :
    (v.step (.request now q)).1.Follows extent (b.replay extent [q]).1 ∧
      (v.step (.request now q)).2.map Reply.untimed = (b.replay extent [q]).2 := by
  have hserves := h.sound.serves now q
  rw [h.extent] at hserves
  simp only [step, h.isOpen, if_true, Book.replay, ← h.book, Book.respond_untimed extent now]
  rcases hserves.result with ⟨hanswer, hbook⟩ | ⟨-, -, hunsteady⟩
  · refine ⟨⟨rfl, hserves.sound, hserves.steady h.steady, hserves.extent.trans h.extent, ?_⟩, ?_⟩
    · exact congrArg Book.untimed hbook
    · rw [hanswer]
      rfl
  · exact absurd h.steady hunsteady

theorem checkpoint (h : v.Follows extent b) : (v.step .checkpoint).1.Follows extent b := by
  obtain ⟨hsound, hextent, hstore⟩ := h.sound.saveCheckpoint
  simp only [step, h.isOpen, if_true]
  refine ⟨rfl, hsound, hstore ▸ h.steady, hextent.trans h.extent, ?_⟩
  rw [Service.book, hstore]
  exact h.book

/-- The store is opened again and holds the same book. -/
theorem restart (h : v.Follows extent b) (hreopens : Medium.Reopens σ)
    (hsheet : b.registry.lastSheetId < UInt64.size)
    (hupdate : b.registry.lastUpdateId < UInt64.size) : (v.step .restart).1.Follows extent b := by
  have hregistry : v.service.book.registry = b.registry := congrArg (·.registry) h.book
  have hfits := h.sound.book.registry.fits (hregistry ▸ hsheet) (hregistry ▸ hupdate)
  have hopened := hreopens _ h.sound.intact h.steady hfits
  have hbook := Medium.book_reopen h.sound.intact hfits.lastUpdateId
  refine ⟨?_, h.sound.restarted hfits.lastUpdateId,
    Medium.steady_reopen h.sound.intact hfits.lastUpdateId h.steady, h.extent, ?_⟩
  · simp only [step, hopened]
  · exact (congrArg Book.untimed hbook).trans h.book

/-- Every event keeps a server to its book, unless an access is refused. -/
theorem step (h : v.Follows extent b) {e : Event} (hcalm : ∀ r, e ≠ .refuse r)
    (hrestart : e = .restart → Medium.Reopens σ ∧ b.registry.lastSheetId < UInt64.size ∧
      b.registry.lastUpdateId < UInt64.size) :
    (v.step e).1.Follows extent (b.replay extent e.request?.toList).1 ∧
      (v.step e).2.map Reply.untimed = (b.replay extent e.request?.toList).2 := by
  cases e with
  | request now q => exact h.request now q
  | checkpoint =>
    refine ⟨h.checkpoint, ?_⟩
    simp only [Server.step, h.isOpen, if_true]
    rfl
  | restart =>
    obtain ⟨hreopens, hsheet, hupdate⟩ := hrestart rfl
    exact ⟨h.restart hreopens hsheet hupdate, rfl⟩
  | refuse r => exact absurd rfl (hcalm r)

/-- **A server answers like the book that it follows**, whatever happens in between. -/
theorem run (h : v.Follows extent b) {es : List Event} (hcalm : ∀ r, .refuse r ∉ es)
    (hrestart : .restart ∈ es → Medium.Reopens σ ∧
      (b.replay extent (es.filterMap Event.request?)).1.registry.lastSheetId < UInt64.size ∧
      (b.replay extent (es.filterMap Event.request?)).1.registry.lastUpdateId < UInt64.size) :
    (v.run es).1.Follows extent (b.replay extent (es.filterMap Event.request?)).1 ∧
      (v.run es).2.map Reply.untimed = (b.replay extent (es.filterMap Event.request?)).2 := by
  induction es generalizing v b with
  | nil => exact ⟨h, rfl⟩
  | cons e es ih =>
    have hfirst : (e :: es).filterMap Event.request? =
        e.request?.toList ++ es.filterMap Event.request? := by
      cases hrequest : e.request? <;> simp [hrequest]
    rw [hfirst, Book.replay_append] at hrestart ⊢
    -- Numbers only grow, so those that the last book fits are fitted by all books before.
    have hgrow := (b.replay extent e.request?.toList).1.le_replay extent
      (es.filterMap Event.request?)
    have hbegin := b.le_replay extent e.request?.toList
    obtain ⟨hfollows, hreplies⟩ := h.step (e := e)
      (fun r heq => hcalm r (heq ▸ List.mem_cons_self)) fun heq => by
        obtain ⟨hreopens, hsheet, hupdate⟩ := hrestart (heq ▸ List.mem_cons_self)
        exact ⟨hreopens, Nat.lt_of_le_of_lt (Nat.le_trans hbegin.1 hgrow.1) hsheet,
          Nat.lt_of_le_of_lt (Nat.le_trans hbegin.2 hgrow.2) hupdate⟩
    obtain ⟨hfollows', hreplies'⟩ := ih hfollows
      (fun r hr => hcalm r (List.mem_cons_of_mem _ hr))
      fun hr => hrestart (List.mem_cons_of_mem _ hr)
    refine ⟨hfollows', ?_⟩
    rw [Server.run, List.map_append, hreplies, hreplies']

end Follows

theorem filterMap_asking (asked : List (Timestamp × Request)) :
    (asking asked).filterMap Event.request? = asked.map (·.2) := by
  rw [asking, List.filterMap_map, ← List.filterMap_eq_map]
  rfl

/-- A server in memory that is never ended follows the empty book. -/
theorem follows_asking (extent : Extent) (keepsCheckpoint : Bool)
    (asked : List (Timestamp × Request)) :
    (history σ extent keepsCheckpoint (asking asked)).1.Follows extent
        (Book.replay extent {} (asked.map (·.2))).1 ∧
      (history σ extent keepsCheckpoint (asking asked)).2.map Reply.untimed =
        (Book.replay extent {} (asked.map (·.2))).2 := by
  have hcalm : ∀ r, .refuse r ∉ asking asked := by simp [asking]
  have hrestart : .restart ∉ asking asked := by simp [asking]
  rw [← filterMap_asking]
  exact (follows_start extent keepsCheckpoint).run hcalm fun h => absurd h hrestart

/-- **Restarts are invisible.** A server on files, into whose run restarts and checkpoints are put
anywhere, answers all requests like a server in memory that is never restarted, whether they keep
their caches in checkpoints or not. No access is refused, and the numbers given stay below 2^64. -/
theorem restarts_invisible (extent : Extent) (keepsCheckpoint keepsCheckpoint' : Bool)
    {es : List Event} {asked : List (Timestamp × Request)} (hcalm : ∀ r, .refuse r ∉ es)
    (hsame : es.filterMap Event.request? = asked.map (·.2))
    (hsheet : (history Book extent keepsCheckpoint'
      (asking asked)).1.service.book.registry.lastSheetId < UInt64.size)
    (hupdate : (history Book extent keepsCheckpoint'
      (asking asked)).1.service.book.registry.lastUpdateId < UInt64.size) :
    (history FileStore extent keepsCheckpoint es).2.map Reply.untimed =
      (history Book extent keepsCheckpoint' (asking asked)).2.map Reply.untimed := by
  obtain ⟨hmemory, hreplies⟩ := follows_asking (σ := Book) extent keepsCheckpoint' asked
  have hregistry := congrArg (·.registry) hmemory.book
  have hfile := (follows_start (σ := FileStore) extent keepsCheckpoint).run hcalm fun _ => by
    rw [hsame, ← hregistry]
    exact ⟨FileStore.reopens, hsheet, hupdate⟩
  rw [history, hfile.2, hsame, hreplies]

theorem restarts_invisible_while_publishing :
    (history FileStore ⟨10, 10⟩ true
      [.request .epoch (.register "ana"), .restart,
        .request .epoch (.create "ana" planSheet.address), .checkpoint, .restart,
        .request .epoch (.publish "ana" planSheet.address "$A1 1"), .restart, .checkpoint,
        .request .epoch (.snapshot "ana" planSheet.address)]).2.map Reply.untimed =
    (history Book ⟨10, 10⟩ false (asking
      [(.epoch, .register "ana"), (.epoch, .create "ana" planSheet.address),
        (.epoch, .publish "ana" planSheet.address "$A1 1"),
        (.epoch, .snapshot "ana" planSheet.address)])).2.map Reply.untimed :=
  restarts_invisible ⟨10, 10⟩ true false (by simp) rfl (by decide +kernel) (by decide +kernel)

end Server

end SharedSheet
