import SharedSheet.Proofs.Service.Restarts
import SharedSheet.Proofs.Service.Secrecy
import SharedSheet.Web.Router

/-!
# What the router asks

A request over the web is either answered at once, because it is not understood or names no caller,
or it asks the service one thing for one caller, and the response words what the service answers.
`Request.asked` tells which by the request alone. So whatever is known of the service's requests
carries over to the web: no response says more than `Query.response` makes of a reply, and no
request does more to the service than the request that it asks.

## Main definitions

* `Query`, `Query.request` — what a request over the web asks of the service
* `Query.told`, `Query.response` — how the answer is worded
* `Request.asked` — the query of a request, or the response to it if it asks nothing

## Main results

* `respond_eq` — the router asks the service for what was asked, and words its answer
* `Query.response_untimed` — no response tells a time
-/

namespace SharedSheet.Web

/-! ### Queries -/

/-- What a request asks of the service. -/
structure Query where
  route : Route
  caller : String
  message : Message
  /-- Whether the answer is worth a body. -/
  withBody : Bool
  deriving DecidableEq

namespace Query

/-- The request to the service. -/
def request (q : Query) : SharedSheet.Request :=
  match q.route with
  | .register => .register q.caller
  | .publishers => .publishers
  | .createSheet => .create q.caller q.message.address
  | .sheets => .sheets q.message.publisher q.caller
  | .deleteSheet => .delete q.caller q.message.address
  | .subscriptionUpdates => .subscriptionDelta q.caller q.message.address q.message.id
  | .publishedUpdates => .publishedDelta q.caller q.message.address q.message.id
  | .publish => .publish q.caller q.message.address q.message.payload
  | .propose => .propose q.caller q.message.address q.message.payload
  | .evaluate => .evaluate q.caller q.message.address q.message.payload

/-- The service is asked for the caller. -/
theorem caller_of_request {q : Query} {c : String} (h : q.request.caller? = some c) :
    c = q.caller := by
  obtain ⟨route, caller, message, withBody⟩ := q
  cases route <;> simp_all [request, SharedSheet.Request.caller?]

/-- How an answer is worded. There is nothing to say of an answer of another kind, and none is
given. -/
def told (q : Query) (answer : Answer) : String × List Message :=
  match q.route, answer with
  | .register, .truth isNew =>
    (if isNew then "registered" else "already registered", [{ publisher := q.caller }])
  | .publishers, .names publishers =>
    ("publishers", publishers.map fun publisher => { publisher })
  | .createSheet, .sheet sheet => ("sheet created", [.ofSheet sheet])
  | .sheets, .sheets sheets => ("sheets", sheets.map .ofSheet)
  | .deleteSheet, .done => ("sheet deleted", [])
  | .subscriptionUpdates, .delta delta | .publishedUpdates, .delta delta =>
    ("updates", [.ofDelta q.message.address delta])
  | .publish, .entry entry => ("published", [{ q.message with id := entry.id }])
  | .propose, .entry entry => ("proposed", [{ q.message with id := entry.id }])
  | .evaluate, .value value => ("evaluated", [{ q.message with payload := value.shown }])
  | _, _ => ("", [])

/-- The response to what the service answers, with its body. -/
def worded (q : Query) : SharedSheet.Reply → Response
  | .ok answer => ⟨200, some ⟨true, (q.told answer).1, (q.told answer).2⟩⟩
  | .error e => ⟨status e, some ⟨false, e.message, []⟩⟩

/-- The response to what the service answers. -/
def response (q : Query) (reply : SharedSheet.Reply) : Response :=
  if q.withBody then q.worded reply else { q.worded reply with reply := none }

/-- No response tells a time. -/
theorem response_untimed (q : Query) (reply : SharedSheet.Reply) :
    q.response (SharedSheet.Reply.untimed reply) = q.response reply := by
  obtain ⟨route, caller, message, withBody⟩ := q
  cases reply with
  | error e => rfl
  | ok answer => cases answer <;> cases route <;> rfl

end Query

theorem status_ne_ok (e : Refusal) : status e ≠ 200 := by
  cases e <;> simp [status]

/-- The status tells whether the service refused. -/
theorem Query.exists_of_status_eq_ok {q : Query} {reply : SharedSheet.Reply}
    (h : (q.response reply).status = 200) : ∃ answer, reply = .ok answer := by
  have hworded : (q.worded reply).status = 200 := by
    unfold response at h
    split at h <;> exact h
  cases reply with
  | ok answer => exact ⟨answer, rfl⟩
  | error e => exact absurd hworded (status_ne_ok e)

/-! ### Asking -/

/-- The query of a request, or the response to it if it asks nothing of the service. -/
def Request.asked (q : Request) : Except Response Query :=
  if q.method = "OPTIONS" then .error ⟨200, none⟩
  else
    match Route.ofPath? q.barePath with
    | none => .error ⟨404, none⟩
    | some r =>
      if r.accepts q.method then
        match if r.takesMessage then q.message else .ok {} with
        | .error status => .error ⟨status, none⟩
        | .ok m =>
          match q.caller? with
          | none =>
            .error ⟨401, if q.method = "HEAD" then none
              else some ⟨false, "missing x-client header", []⟩⟩
          | some caller => .ok ⟨r, caller, m, q.method ≠ "HEAD"⟩
      else .error ⟨405, none⟩

theorem Request.caller?_of_asked {q : Request} {a : Query} (h : q.asked = .ok a) :
    q.caller? = some a.caller := by
  unfold asked at h
  split at h
  · simp at h
  · split at h
    · simp at h
    · split at h
      · split at h
        · simp at h
        · split at h
          · simp at h
          · obtain rfl := Except.ok.inj h
            assumption
      · simp at h

/-- A call whose answer is worded. -/
theorem exec_worded {σ α : Type} {s : Service σ} (c : Call σ α) (answer : α → Answer)
    {told : Answer → String × List Message} {words : α → String × List Message}
    (htold : ∀ x, told (answer x) = words x) :
    Call.exec (do return words (← c)) s =
      ((Call.exec (answer <$> c) s).1.map told, (Call.exec (answer <$> c) s).2) := by
  rw [Call.exec_bind, Call.exec_map]
  rcases Call.exec c s with ⟨e | x, s⟩
  · rfl
  · simp only [Except.map, htold]
    rfl

variable {σ : Type} [Store σ] {s : Service σ}

/-- A route asks the service for what it is asked, and words the answer. -/
theorem exec_serve (now : Timestamp) (a : Query) :
    Call.exec (a.route.serve now a.caller a.message) s =
      ((Call.exec (a.request.call now) s).1.map a.told, (Call.exec (a.request.call now) s).2) := by
  obtain ⟨route, caller, m, withBody⟩ := a
  cases route with
  | register => exact exec_worded (Service.register caller) .truth fun _ => rfl
  | publishers => exact exec_worded Service.publishers .names fun _ => rfl
  | createSheet => exact exec_worded (Service.create caller m.address) .sheet fun _ => rfl
  | sheets => exact exec_worded (Service.sheets m.publisher caller) .sheets fun _ => rfl
  | deleteSheet => exact exec_worded (Service.delete caller m.address) (fun _ => .done) fun _ => rfl
  | subscriptionUpdates =>
    exact exec_worded (Service.subscriptionDelta caller m.address m.id) .delta fun _ => rfl
  | publishedUpdates =>
    exact exec_worded (Service.publishedDelta caller m.address m.id) .delta fun _ => rfl
  | publish =>
    exact exec_worded (Service.publish now caller m.address m.payload) .entry fun _ => rfl
  | propose =>
    exact exec_worded (Service.propose now caller m.address m.payload) .entry fun _ => rfl
  | evaluate =>
    exact exec_worded (Service.evaluate caller m.address m.payload) .value fun _ => rfl

/-- A route that gets a message from a caller. -/
theorem Route.respond_eq (now : Timestamp) {q : Request} {a : Query}
    (hmessage : (if a.route.takesMessage then q.message else .ok {}) = .ok a.message)
    (hcaller : q.caller? = some a.caller) : a.route.respond now q s =
      (a.worded (Call.exec (a.request.call now) s).1, (Call.exec (a.request.call now) s).2) := by
  have hserve : (a.route.serve now a.caller a.message).run.run s = _ := exec_serve now a
  unfold Route.respond
  rw [hmessage, hcaller]
  simp only [hserve]
  rcases Call.exec (a.request.call now) s with ⟨_ | _, _⟩ <;> rfl

/-- **The router asks the service for what was asked, and words its answer.** -/
theorem respond_eq (now : Timestamp) (q : Request) :
    respond now q s = match q.asked with
      | .error response => (response, s)
      | .ok a =>
        let outcome := Call.exec (a.request.call now) s
        (a.response outcome.1, outcome.2) := by
  unfold respond Request.asked
  by_cases hoptions : q.method = "OPTIONS"
  · rw [if_pos hoptions, if_pos hoptions]
  · rw [if_neg hoptions, if_neg hoptions]
    cases Route.ofPath? q.barePath with
    | none => rfl
    | some r =>
      by_cases haccepts : r.accepts q.method = true
      · simp only [haccepts, if_true]
        cases hmessage : if r.takesMessage then q.message else .ok {} with
        | error status => simp [Route.respond, hmessage]
        | ok m =>
          cases hcaller : q.caller? with
          | none =>
            by_cases hhead : q.method = "HEAD" <;> simp [Route.respond, hmessage, hcaller, hhead]
          | some caller =>
            have hrespond := Route.respond_eq (s := s) now
              (a := ⟨r, caller, m, q.method ≠ "HEAD"⟩) hmessage hcaller
            simp only at hrespond ⊢
            rw [hrespond]
            by_cases hhead : q.method = "HEAD" <;> simp [hhead, Query.response]
      · simp [haccepts]

end SharedSheet.Web
