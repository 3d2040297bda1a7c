import SharedSheet.Proofs.Cache
import SharedSheet.Proofs.Service.Call

/-!
# Requests

A request first looks and then does at most one thing. What it finds when it looks is a function of
the store's book: the service's cache is only a faster way to the same answer. So a request is
described in two halves. `Book.plan` says what a book makes of it, a refusal or an `Action`, and
there are only five actions. `Action.carryOut` is what the service does then.

The split is where proofs come apart. That a request may not harm the store is proved for the five
actions and not for the thirteen requests, and that two services answer alike is proved by looking
at their books.

## Main definitions

* `Request`, `Answer` — what callers ask for and what they are told
* `Request.call` — the call that serves a request
* `Action`, `Book.plan` — what a book makes of a request
* `Action.carryOut`, `Book.act` — what a service and a book do then

## Main results

* `Request.exec_call` — serving a request is planning it on the book and carrying out the plan
* `Book.permits_plan` — plans do what the store permits
* `Book.takes_of_plan`, `Book.exists_takes_of_plan` — which updates are planned, and which not
-/

namespace SharedSheet

/-- What callers ask for. -/
inductive Request where
  | register (publisher : String)
  | publishers
  | sheets (publisher caller : String)
  | create (caller : String) (a : SheetAddress)
  | delete (caller : String) (a : SheetAddress)
  | resolve (a : SheetAddress)
  | publish (caller : String) (a : SheetAddress) (payload : String)
  | propose (caller : String) (a : SheetAddress) (payload : String)
  | submit (caller : String) (a : SheetAddress) (payload : String)
  | publishedDelta (caller : String) (a : SheetAddress) (since : Nat)
  | subscriptionDelta (caller : String) (a : SheetAddress) (since : Nat)
  | snapshot (caller : String) (a : SheetAddress)
  | evaluate (caller : String) (a : SheetAddress) (term : String)
  deriving DecidableEq

/-- What callers are told. -/
inductive Answer where
  | truth (b : Bool)
  | names (publishers : List String)
  | sheets (sheets : List Sheet)
  | sheet (sheet : Sheet)
  | done
  | entry (e : LogEntry)
  | delta (d : Delta)
  | worksheet (w : Worksheet)
  | value (v : Formula.Value)

/-- The number of the update that an answer reports. -/
def Answer.entryId? : Answer → Option Nat
  | entry e => some e.id
  | _ => none

/-- What a request does after it has looked. -/
inductive Action where
  /-- Nothing but to answer. -/
  | tell (answer : Answer)
  /-- Lists a publisher. -/
  | list (publisher : String)
  /-- Makes a sheet. -/
  | make (a : SheetAddress) (v : Visibility)
  /-- Deletes a sheet. -/
  | drop (sheet : Nat)
  /-- Puts an update into the log. -/
  | enter (d : Draft)

/-- The call that serves a request at some time. -/
def Request.call {σ : Type} [Store σ] (now : Timestamp) : Request → Call σ Answer
  | register publisher => .truth <$> Service.register publisher
  | publishers => .names <$> Service.publishers
  | sheets publisher caller => .sheets <$> Service.sheets publisher caller
  | create caller a => .sheet <$> Service.create caller a
  | delete caller a => (fun _ => .done) <$> Service.delete caller a
  | resolve a => .sheet <$> Service.resolve a
  | publish caller a payload => .entry <$> Service.publish now caller a payload
  | propose caller a payload => .entry <$> Service.propose now caller a payload
  | submit caller a payload => .entry <$> Service.submit now caller a payload
  | publishedDelta caller a since => .delta <$> Service.publishedDelta caller a since
  | subscriptionDelta caller a since => .delta <$> Service.subscriptionDelta caller a since
  | snapshot caller a => .worksheet <$> Service.snapshot caller a
  | evaluate caller a term => .value <$> Service.evaluate caller a term

/-- The sheet that a request updates. -/
def Request.updated? : Request → Option SheetAddress
  | publish _ a _ | propose _ a _ | submit _ a _ => some a
  | _ => none

/-! ### What a book makes of a request -/

namespace Book

/-- The accepted state of a sheet. -/
def sheetState (b : Book) (extent : Extent) (id : Nat) : CachedSheet :=
  .ofEntries extent (b.acceptedOf id)

/-- The sheet that a caller names so and owns. -/
def resolveOwned (b : Book) (caller : String) (a : SheetAddress) (deed : Deed) :
    Except Refusal Sheet :=
  match b.resolve a with
  | .ok sheet => if sheet.isOwnedBy caller then .ok sheet else .error (.forbidden caller deed)
  | .error e => .error e

/-- What a book makes of an update of the owner. -/
def planPublish (b : Book) (now : Timestamp) (caller : String) (a : SheetAddress)
    (payload : String) : Except Refusal Action := do
  let _ ← Payload.validated payload
  let sheet ← b.resolveOwned caller a .publish
  return .enter ⟨sheet.id, caller, payload, true, now⟩

/-- What a book makes of a proposal. -/
def planPropose (b : Book) (now : Timestamp) (caller : String) (a : SheetAddress)
    (payload : String) : Except Refusal Action := do
  let _ ← Payload.validated payload
  let sheet ← b.resolveVisible caller a
  return .enter ⟨sheet.id, caller, payload, false, now⟩

/-- What a book makes of a new sheet. -/
def planCreate (b : Book) (caller : String) (a : SheetAddress) : Except Refusal Action :=
  let requested := Text.trimmed a.sheet
  let taken := (b.registry.sheets.filter (·.owner == caller)).map (·.name)
  if caller ≠ a.publisher then .error (.forbidden caller .createElsewhere)
  else if requested = "" then .error .emptySheetName
  else if b.registry.knows caller then
    if NumbersRunOut taken requested then .error (.store .io)
    else .ok (.make ⟨caller, uniqueName taken requested⟩ (.ofName requested))
  else .error (.unknownPublisher caller)

/-- What a book makes of a request. -/
def plan (b : Book) (extent : Extent) (now : Timestamp) : Request → Except Refusal Action
  | .register publisher =>
    if Text.isAllBlank publisher.toList then .error .emptyPublisher else .ok (.list publisher)
  | .publishers => .ok (.tell (.names b.registry.publishers))
  | .sheets publisher caller =>
    if b.registry.knows publisher then
      .ok (.tell (.sheets (b.registry.sheets.filter fun s =>
        s.owner == publisher && s.isVisibleTo caller)))
    else .error (.unknownPublisher publisher)
  | .create caller a => b.planCreate caller a
  | .delete caller a => do
    let sheet ← b.resolveOwned caller a .delete
    return .drop sheet.id
  | .resolve a => do
    let sheet ← b.resolve a
    return .tell (.sheet sheet)
  | .publish caller a payload => b.planPublish now caller a payload
  | .propose caller a payload => b.planPropose now caller a payload
  | .submit caller a payload =>
    if caller = a.publisher then b.planPublish now caller a payload
    else b.planPropose now caller a payload
  | .publishedDelta caller a since => do
    let sheet ← b.resolveVisible caller a
    return .tell (.delta (.ofEntries (b.sheetUpdates sheet.id .any since)))
  | .subscriptionDelta caller a since => do
    let sheet ← b.resolveVisible caller a
    return .tell (.delta (if since = 0 then (b.sheetState extent sheet.id).delta 0
      else .ofEntries (b.sheetUpdates sheet.id .accepted since)))
  | .snapshot caller a => do
    let sheet ← b.resolveVisible caller a
    return .tell (.worksheet (b.sheetState extent sheet.id).worksheet)
  | .evaluate caller a term => do
    let sheet ← b.resolveVisible caller a
    let value ← ((b.sheetState extent sheet.id).worksheet.evaluate.term term).mapError .cell
    return .tell (.value value)

/-- What a book does then. -/
def act (b : Book) : Action → Answer × Book
  | .tell answer => (answer, b)
  | .list publisher => (.truth (b.registerPublisher publisher).1, (b.registerPublisher publisher).2)
  | .make a v => (.sheet (b.insertSheet a v).1, (b.insertSheet a v).2)
  | .drop sheet => (.done, (b.deleteSheet sheet).2)
  | .enter d => (.entry (b.append d).1, (b.append d).2)

/-- The answer of a book to a request, and the book after it. -/
def respond (b : Book) (extent : Extent) (now : Timestamp) (q : Request) :
    Except Refusal Answer × Book :=
  match b.plan extent now q with
  | .ok action => (.ok (b.act action).1, (b.act action).2)
  | .error e => (.error e, b)

end Book

/-! ### What a store permits -/

/-- What has to be true of an action for a book to stay sound under it, and for what is told of
updates to be true. -/
def Book.Permits (b : Book) : Action → Prop
  | .tell answer => answer.entryId? = none
  | .list _ => True
  | .make a _ => b.registry.knows a.publisher = true ∧ ∀ s ∈ b.registry.sheets, s.address ≠ a
  | .drop sheet => b.registry.hasSheet sheet = true
  | .enter d => b.registry.hasSheet d.sheet = true ∧ Payload.IsUpdate d.payload

/-- What has to be true of an update for it to be planned: whoever submits it sees the sheet, and
owns it if the update is to count. -/
structure Sheet.Takes (s : Sheet) (d : Draft) : Prop where
  sheet : d.sheet = s.id
  visible : s.isVisibleTo d.submitter = true
  owned : d.accepted = true → s.isOwnedBy d.submitter = true
  isUpdate : Payload.IsUpdate d.payload

theorem Payload.isUpdate_of_validated {payload : String} {es : List Edit}
    (h : validated payload = .ok es) : IsUpdate payload ∧ es = edits payload := by
  unfold validated at h
  split at h
  · simp at h
  · rename_i hne hparse
    obtain rfl := Except.ok.inj h
    rw [IsUpdate, edits_of_parse hparse]
    exact ⟨⟨hparse, fun hnil => hne (by rw [hnil])⟩, rfl⟩
  · simp at h

namespace Book

variable {b : Book} {extent : Extent} {now : Timestamp} {action : Action}

theorem resolveOwned_eq_ok {caller : String} {a : SheetAddress} {deed : Deed} {sheet : Sheet}
    (h : b.resolveOwned caller a deed = .ok sheet) :
    b.resolve a = .ok sheet ∧ sheet.isOwnedBy caller = true := by
  unfold resolveOwned at h
  split at h
  · split at h
    · obtain rfl := Except.ok.inj h
      exact ⟨by assumption, by assumption⟩
    · simp at h
  · simp at h

theorem takes_of_planPublish {caller payload : String} {a : SheetAddress}
    (h : b.planPublish now caller a payload = .ok action) :
    ∃ sheet d, b.resolve a = .ok sheet ∧ sheet.Takes d ∧ action = .enter d := by
  obtain ⟨es, hvalid, h⟩ := bind_eq_ok_iff.1 h
  obtain ⟨sheet, hsheet, h⟩ := bind_eq_ok_iff.1 h
  obtain ⟨hresolve, howned⟩ := resolveOwned_eq_ok hsheet
  have hvisible : sheet.isVisibleTo caller = true := by rw [Sheet.isVisibleTo, howned, Bool.or_true]
  exact ⟨sheet, ⟨sheet.id, caller, payload, true, now⟩, hresolve, ⟨rfl, hvisible, fun _ => howned,
    (Payload.isUpdate_of_validated hvalid).1⟩, (Except.ok.inj h).symm⟩

theorem takes_of_planPropose {caller payload : String} {a : SheetAddress}
    (h : b.planPropose now caller a payload = .ok action) :
    ∃ sheet d, b.resolve a = .ok sheet ∧ sheet.Takes d ∧ action = .enter d := by
  obtain ⟨es, hvalid, h⟩ := bind_eq_ok_iff.1 h
  obtain ⟨sheet, hsheet, h⟩ := bind_eq_ok_iff.1 h
  obtain ⟨hresolve, hvisible⟩ := resolveVisible_eq_ok hsheet
  exact ⟨sheet, ⟨sheet.id, caller, payload, false, now⟩, hresolve, ⟨rfl, hvisible, by simp,
    (Payload.isUpdate_of_validated hvalid).1⟩, (Except.ok.inj h).symm⟩

/-- **A request that updates a sheet plans an update that the sheet takes.** -/
theorem takes_of_plan {q : Request} {a : SheetAddress} (hq : q.updated? = some a)
    (h : b.plan extent now q = .ok action) :
    ∃ sheet d, b.resolve a = .ok sheet ∧ sheet.Takes d ∧ action = .enter d := by
  cases q with
  | publish caller a' payload =>
    obtain rfl := Option.some.inj hq
    exact takes_of_planPublish h
  | propose caller a' payload =>
    obtain rfl := Option.some.inj hq
    exact takes_of_planPropose h
  | submit caller a' payload =>
    obtain rfl := Option.some.inj hq
    simp only [plan] at h
    split at h
    · exact takes_of_planPublish h
    · exact takes_of_planPropose h
  | register | publishers | sheets | create | delete | resolve | publishedDelta | subscriptionDelta
  | snapshot | evaluate => simp [Request.updated?] at hq

theorem permits_planCreate {caller : String} {a : SheetAddress}
    (h : b.planCreate caller a = .ok action) :
    b.Permits action ∧ ∀ d, action ≠ .enter d := by
  unfold planCreate at h
  simp only at h
  split at h
  · simp at h
  · split at h
    · simp at h
    · split at h
      · rename_i hknown
        split at h
        · simp at h
        · rename_i hleft
          obtain rfl := Except.ok.inj h
          refine ⟨⟨hknown, fun s hs heq => ?_⟩, by simp⟩
          obtain ⟨howner, hname⟩ := SheetAddress.mk.inj heq
          exact uniqueName_not_mem hleft
            (List.mem_map.2 ⟨s, List.mem_filter.2 ⟨hs, by simpa using howner⟩, hname⟩)
      · simp at h

/-- What other requests plan is permitted, and it is no update. -/
theorem permits_plan_of_updated?_eq_none {q : Request} (hq : q.updated? = none)
    (h : b.plan extent now q = .ok action) : b.Permits action ∧ ∀ d, action ≠ .enter d := by
  cases q with
  | register publisher =>
    simp only [plan] at h
    split at h
    · simp at h
    · obtain rfl := Except.ok.inj h
      exact ⟨trivial, by simp⟩
  | publishers =>
    obtain rfl := Except.ok.inj h
    exact ⟨rfl, by simp⟩
  | sheets publisher caller =>
    simp only [plan] at h
    split at h
    · obtain rfl := Except.ok.inj h
      exact ⟨rfl, by simp⟩
    · simp at h
  | create caller a => exact permits_planCreate h
  | delete caller a =>
    obtain ⟨sheet, hsheet, h⟩ := bind_eq_ok_iff.1 h
    obtain rfl := Except.ok.inj h
    exact ⟨hasSheet_of_resolve (resolveOwned_eq_ok hsheet).1, by simp⟩
  | evaluate caller a term =>
    obtain ⟨sheet, -, h⟩ := bind_eq_ok_iff.1 h
    obtain ⟨value, -, h⟩ := bind_eq_ok_iff.1 h
    obtain rfl := Except.ok.inj h
    exact ⟨rfl, by simp⟩
  | resolve | publishedDelta | subscriptionDelta | snapshot =>
    obtain ⟨sheet, -, h⟩ := bind_eq_ok_iff.1 h
    obtain rfl := Except.ok.inj h
    exact ⟨rfl, by simp⟩
  | publish | propose | submit => simp [Request.updated?] at hq

/-- **Plans do what the store permits.** -/
theorem permits_plan {q : Request} (h : b.plan extent now q = .ok action) : b.Permits action := by
  cases hq : q.updated? with
  | none => exact (permits_plan_of_updated?_eq_none hq h).1
  | some a =>
    obtain ⟨sheet, d, hresolve, htakes, rfl⟩ := takes_of_plan hq h
    exact ⟨htakes.sheet ▸ hasSheet_of_resolve hresolve, htakes.isUpdate⟩

/-- **No update is planned but one that some sheet takes.** -/
theorem exists_takes_of_plan {q : Request} {d : Draft}
    (h : b.plan extent now q = .ok (.enter d)) : ∃ s ∈ b.registry.sheets, s.Takes d := by
  cases hq : q.updated? with
  | none => exact absurd rfl ((permits_plan_of_updated?_eq_none hq h).2 d)
  | some a =>
    obtain ⟨sheet, d', hresolve, htakes, hd⟩ := takes_of_plan hq h
    obtain rfl := Action.enter.inj hd
    exact ⟨sheet, (resolve_eq_ok hresolve).2.1, htakes⟩

/-- A sound book stays sound under what it permits. -/
theorem Sound.act (h : b.Sound) (hpermits : b.Permits action) : (b.act action).2.Sound := by
  cases action with
  | tell answer => exact h
  | list publisher => exact h.registerPublisher publisher
  | make a v => exact h.insertSheet v hpermits.1 hpermits.2
  | drop sheet => exact h.deleteSheet sheet
  | enter d => exact h.append hpermits.1 hpermits.2

/-- An action gives the next number to an update that it reports, and no number if it reports
none. -/
theorem lastUpdateId_act (hpermits : b.Permits action) :
    (b.act action).2.registry.lastUpdateId =
        b.registry.lastUpdateId + (b.act action).1.entryId?.toList.length ∧
      (b.act action).1.entryId?.toList = List.range' (b.registry.lastUpdateId + 1)
        (b.act action).1.entryId?.toList.length := by
  cases action with
  | tell answer =>
    have hnone : answer.entryId? = none := hpermits
    simp [act, hnone]
  | list publisher =>
    refine ⟨?_, rfl⟩
    show (b.registerPublisher publisher).2.registry.lastUpdateId = _
    unfold registerPublisher
    split <;> rfl
  | make a v => exact ⟨rfl, rfl⟩
  | drop sheet => exact ⟨rfl, rfl⟩
  | enter d => exact ⟨Nat.max_eq_right (Nat.le_succ _), rfl⟩

end Book

/-! ### Serving a request -/

namespace Service

variable {σ : Type} [Store σ] {s : Service σ}

/-- The cache of a service, whether it is built yet or not. -/
def current (s : Service σ) : Cache := s.cache.getD s.builtCache

@[simp] theorem current_warmed : s.warmed.current = s.current := rfl

@[simp] theorem warmed_warmed : s.warmed.warmed = s.warmed := rfl

theorem exec_warmCache_eq : Call.exec warmCache s = (.ok s.current, s.warmed) := exec_warmCache

end Service

/-- What a service does of a plan. -/
def Action.carryOut {σ : Type} [Store σ] : Action → Call σ Answer
  | tell answer => pure answer
  | list publisher => .truth <$> Service.onStore (Store.registerPublisher publisher)
  | make a v => do
    let cache ← Service.warmCache
    let sheet ← Service.onStore (Store.insertSheet a v)
    Service.setCache (cache.register sheet.id)
    return .sheet sheet
  | drop sheet => do
    let cache ← Service.warmCache
    let _ ← Service.onStore (Store.deleteSheet sheet)
    Service.setCache (cache.remove sheet)
    return .done
  | enter d => do
    let cache ← Service.warmCache
    let entry ← Service.onStore (Store.append d)
    if d.accepted then
      Service.setCache (← Service.orRefuse .notCached
        (cache.update d.sheet (Payload.edits d.payload) entry.id))
    return .entry entry

/-- What a service does of what a book makes of a request. -/
def Action.carryOut? {σ : Type} [Store σ] : Except Refusal Action → Call σ Answer
  | .ok action => action.carryOut
  | .error e => throw e

namespace Service

variable {σ : Type} [Store σ] {s : Service σ}

theorem exec_resolveOwned {α : Type} (caller : String) (a : SheetAddress) (deed : Deed)
    (k : Sheet → Call σ α) :
    Call.exec (do
        let sheet ← resolve a
        unless sheet.isOwnedBy caller do throw (.forbidden caller deed)
        k sheet) s =
      match s.book.resolveOwned caller a deed with
      | .ok sheet => Call.exec (k sheet) s
      | .error e => (.error e, s) := by
  rw [Call.exec_bind, exec_resolve, Book.resolveOwned]
  cases s.book.resolve a with
  | error e => rfl
  | ok sheet =>
    by_cases h : sheet.isOwnedBy caller = true
    · simp [h]
    · simp [h]

theorem exec_create (caller : String) (a : SheetAddress) :
    ∃ s', (s' = s ∨ s' = s.warmed) ∧ Call.exec (.sheet <$> create caller a) s =
      Call.exec (Action.carryOut? (s.book.planCreate caller a)) s' := by
  unfold create Book.planCreate
  by_cases hcaller : caller ≠ a.publisher
  · exact ⟨s, .inl rfl, by simp [hcaller, Action.carryOut?]⟩
  · by_cases hname : Text.trimmed a.sheet = ""
    · exact ⟨s, .inl rfl, by simp [hcaller, hname, Action.carryOut?]⟩
    · by_cases hknown : s.book.registry.knows caller = true
      · refine ⟨s.warmed, .inr rfl, ?_⟩
        by_cases hout : NumbersRunOut
            ((s.book.registry.sheets.filter (·.owner == caller)).map (·.name))
            (Text.trimmed a.sheet)
        · simp [hcaller, hname, hknown, hout, Action.carryOut?, Call.exec_bind,
            exec_requirePublisher, exec_warmCache_eq, exec_ask]
        · simp only [hcaller, hname, hknown, hout, if_false, if_true, Action.carryOut?,
            Action.carryOut, Call.exec_map, Call.exec_bind, exec_requirePublisher,
            exec_warmCache_eq, exec_ask, book_warmed, current_warmed, warmed_warmed, exec_onStore]
          rcases Store.insertSheet _ _ s.warmed.store with ⟨_ | _, _⟩ <;> rfl
      · exact ⟨s, .inl rfl, by simp [hcaller, hname, hknown, Call.exec_bind, exec_requirePublisher,
          Action.carryOut?]⟩

theorem exec_delete (now : Timestamp) (caller : String) (a : SheetAddress) :
    Call.exec ((fun _ => .done) <$> delete caller a) s =
      Call.exec (Action.carryOut? (s.book.plan s.extent now (.delete caller a))) s.warmed := by
  unfold delete
  rw [Call.exec_map, Call.exec_bind, exec_warmCache_eq]
  simp only [exec_resolveOwned, book_warmed, Book.plan]
  cases s.book.resolveOwned caller a .delete with
  | error e => rfl
  | ok sheet =>
    show _ = Call.exec (Action.drop sheet.id).carryOut s.warmed
    simp only [Action.carryOut, Call.exec_bind, exec_onStore, exec_warmCache_eq, current_warmed,
      warmed_warmed]
    rcases Store.deleteSheet sheet.id s.warmed.store with ⟨_ | _, _⟩ <;> rfl

theorem exec_publish (now : Timestamp) (caller : String) (a : SheetAddress) (payload : String) :
    ∃ s', (s' = s ∨ s' = s.warmed) ∧ Call.exec (.entry <$> publish now caller a payload) s =
      Call.exec (Action.carryOut? (s.book.planPublish now caller a payload)) s' := by
  unfold publish Book.planPublish
  simp only [Call.exec_map]
  rw [Call.exec_bind, exec_validate]
  cases hvalid : Payload.validated payload with
  | error e => exact ⟨s, .inl rfl, rfl⟩
  | ok es =>
    obtain ⟨-, rfl⟩ := Payload.isUpdate_of_validated hvalid
    refine ⟨s.warmed, .inr rfl, ?_⟩
    simp only [Call.exec_bind, exec_warmCache_eq]
    simp only [← Call.exec_bind, exec_resolveOwned, book_warmed]
    cases s.book.resolveOwned caller a .publish with
    | error e => rfl
    | ok sheet =>
      show _ = Call.exec (Action.enter ⟨sheet.id, caller, payload, true, now⟩).carryOut s.warmed
      simp only [Action.carryOut, Call.exec_bind, exec_onStore, exec_warmCache_eq, current_warmed,
        warmed_warmed, if_true]
      rcases Store.append ⟨sheet.id, caller, payload, true, now⟩ s.warmed.store with ⟨_ | e, _⟩
      · rfl
      · simp only [Except.mapError, exec_orRefuse]
        cases s.current.update sheet.id (Payload.edits payload) e.id <;> rfl

theorem exec_propose (now : Timestamp) (caller : String) (a : SheetAddress) (payload : String) :
    ∃ s', (s' = s ∨ s' = s.warmed) ∧ Call.exec (.entry <$> propose now caller a payload) s =
      Call.exec (Action.carryOut? (s.book.planPropose now caller a payload)) s' := by
  unfold propose Book.planPropose
  simp only [Call.exec_map]
  rw [Call.exec_bind, exec_validate]
  cases Payload.validated payload with
  | error e => exact ⟨s, .inl rfl, rfl⟩
  | ok es =>
    refine ⟨s.warmed, .inr rfl, ?_⟩
    simp only [Call.exec_bind, exec_warmCache_eq, exec_resolveVisible, book_warmed]
    cases s.book.resolveVisible caller a with
    | error e => rfl
    | ok sheet =>
      show _ = Call.exec (Action.enter ⟨sheet.id, caller, payload, false, now⟩).carryOut s.warmed
      simp only [Action.carryOut, Call.exec_bind, exec_onStore, exec_warmCache_eq, current_warmed,
        warmed_warmed]
      rcases Store.append ⟨sheet.id, caller, payload, false, now⟩ s.warmed.store with ⟨_ | e, _⟩ <;>
        rfl

theorem exec_snapshot_eq (caller : String) (a : SheetAddress) :
    Call.exec (snapshot caller a) s =
      (s.book.resolveVisible caller a >>= fun sheet =>
        ((s.current.sheet sheet.id).mapError .notCached).map CachedSheet.worksheet, s.warmed) := by
  unfold snapshot
  simp only [Call.exec_bind, exec_warmCache_eq, exec_resolveVisible, book_warmed]
  cases s.book.resolveVisible caller a with
  | error e => rfl
  | ok sheet =>
    simp only [exec_orRefuse, bind, Except.bind]
    cases s.current.sheet sheet.id <;> rfl

theorem exec_subscriptionDelta_eq (caller : String) (a : SheetAddress) (since : Nat) :
    Call.exec (subscriptionDelta caller a since) s =
      (s.book.resolveVisible caller a >>= fun sheet =>
        if since = 0 then
          ((s.current.sheet sheet.id).mapError .notCached).map fun state => state.delta 0
        else .ok (.ofEntries (s.book.sheetUpdates sheet.id .accepted since)), s.warmed) := by
  unfold subscriptionDelta
  simp only [Call.exec_bind, exec_warmCache_eq, exec_resolveVisible, book_warmed]
  cases s.book.resolveVisible caller a with
  | error e => rfl
  | ok sheet =>
    by_cases h : since = 0
    · simp only [h, if_true, bind, Except.bind]
      cases s.current.sheet sheet.id <;> rfl
    · simp only [h, if_false, Call.exec_bind, exec_ask]
      rfl

/-- Sheets that can be seen are known to the cache. -/
theorem sheet_current (hmirrors : s.current.Mirrors s.extent s.book) {caller : String}
    {a : SheetAddress} {sheet : Sheet} (h : s.book.resolveVisible caller a = .ok sheet) :
    s.current.sheet sheet.id = .ok (s.book.sheetState s.extent sheet.id) :=
  hmirrors.sheet (Book.hasSheet_of_resolve (Book.resolveVisible_eq_ok h).1)

theorem exec_snapshot (hmirrors : s.current.Mirrors s.extent s.book) (caller : String)
    (a : SheetAddress) : Call.exec (snapshot caller a) s =
      ((s.book.resolveVisible caller a).map fun sheet =>
        (s.book.sheetState s.extent sheet.id).worksheet, s.warmed) := by
  rw [exec_snapshot_eq]
  cases hsheet : s.book.resolveVisible caller a with
  | error e => rfl
  | ok sheet =>
    simp only [bind, Except.bind, sheet_current hmirrors hsheet]
    rfl

theorem exec_subscriptionDelta (hmirrors : s.current.Mirrors s.extent s.book) (caller : String)
    (a : SheetAddress) (since : Nat) : Call.exec (subscriptionDelta caller a since) s =
      ((s.book.resolveVisible caller a).map fun sheet =>
        if since = 0 then (s.book.sheetState s.extent sheet.id).delta 0
        else .ofEntries (s.book.sheetUpdates sheet.id .accepted since), s.warmed) := by
  rw [exec_subscriptionDelta_eq]
  cases hsheet : s.book.resolveVisible caller a with
  | error e => rfl
  | ok sheet =>
    simp only [bind, Except.bind, sheet_current hmirrors hsheet]
    split <;> rfl

end Service

namespace Request

variable {σ : Type} [Store σ] {s : Service σ} {q : Request}

/-- Whether a request looks into the accepted state of a sheet. -/
def readsState : Request → Bool
  | subscriptionDelta .. | snapshot .. | evaluate .. => true
  | _ => false

/-- A request that does not look into the cache is planned on the book, and the plan is carried out,
with the cache built before or not. -/
theorem exec_call_of_not_readsState (hreads : q.readsState = false) (now : Timestamp) :
    ∃ s', (s' = s ∨ s' = s.warmed) ∧ Call.exec (q.call now) s =
      Call.exec (Action.carryOut? (s.book.plan s.extent now q)) s' := by
  cases q with
  | register publisher =>
    refine ⟨s, .inl rfl, ?_⟩
    simp only [call, Service.register, Book.plan]
    by_cases h : Text.isAllBlank publisher.toList = true
    · simp [h, Action.carryOut?]
    · simp [h, Action.carryOut?, Action.carryOut]
  | publishers => exact ⟨s, .inl rfl, rfl⟩
  | sheets publisher caller =>
    refine ⟨s, .inl rfl, ?_⟩
    simp only [call, Service.sheets, Call.exec_map, Call.exec_bind, Service.exec_requirePublisher,
      Book.plan]
    cases s.book.registry.knows publisher <;> rfl
  | create caller a => exact Service.exec_create caller a
  | delete caller a => exact ⟨s.warmed, .inr rfl, Service.exec_delete now caller a⟩
  | resolve a =>
    refine ⟨s, .inl rfl, ?_⟩
    simp only [call, Call.exec_map, Service.exec_resolve, Book.plan]
    cases s.book.resolve a <;> rfl
  | publish caller a payload => exact Service.exec_publish now caller a payload
  | propose caller a payload => exact Service.exec_propose now caller a payload
  | submit caller a payload =>
    simp only [call, Service.submit, Book.plan]
    by_cases h : caller = a.publisher
    · rw [if_pos h, if_pos h]
      exact Service.exec_publish now caller a payload
    · rw [if_neg h, if_neg h]
      exact Service.exec_propose now caller a payload
  | publishedDelta caller a since =>
    refine ⟨s, .inl rfl, ?_⟩
    simp only [call, Service.publishedDelta, Call.exec_map, Call.exec_bind,
      Service.exec_resolveVisible, Book.plan]
    cases s.book.resolveVisible caller a <;> rfl
  | subscriptionDelta | snapshot | evaluate => simp [readsState] at hreads

/-- **Serving a request is planning it on the book and carrying out the plan**, with the cache built
before or not. -/
theorem exec_call (hmirrors : s.current.Mirrors s.extent s.book) (now : Timestamp)
    (q : Request) : ∃ s', (s' = s ∨ s' = s.warmed) ∧ Call.exec (q.call now) s =
      Call.exec (Action.carryOut? (s.book.plan s.extent now q)) s' := by
  cases hreads : q.readsState with
  | false => exact exec_call_of_not_readsState hreads now
  | true =>
    refine ⟨s.warmed, .inr rfl, ?_⟩
    cases q with
    | subscriptionDelta caller a since =>
      simp only [call, Call.exec_map, Service.exec_subscriptionDelta hmirrors, Book.plan]
      cases s.book.resolveVisible caller a <;> rfl
    | snapshot caller a =>
      simp only [call, Call.exec_map, Service.exec_snapshot hmirrors, Book.plan]
      cases s.book.resolveVisible caller a <;> rfl
    | evaluate caller a term =>
      simp only [call, Service.evaluate, Call.exec_map, Call.exec_bind,
        Service.exec_snapshot hmirrors, Book.plan]
      cases s.book.resolveVisible caller a with
      | error e => rfl
      | ok sheet =>
        simp only [Except.map, Service.exec_orRefuse]
        show _ = Call.exec (Action.carryOut? (Except.bind (Except.mapError .cell
          ((s.book.sheetState s.extent sheet.id).worksheet.evaluate.term term)) _)) s.warmed
        cases (s.book.sheetState s.extent sheet.id).worksheet.evaluate.term term <;> rfl
    | register | publishers | sheets | create | delete | resolve | publish | propose | submit
    | publishedDelta => simp [readsState] at hreads

end Request

end SharedSheet
