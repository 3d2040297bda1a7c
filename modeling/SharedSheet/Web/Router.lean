import SharedSheet.Service.Basic
import SharedSheet.Web.MediaType
import SharedSheet.Web.Message

/-!
# Requests and responses

Every route belongs to one path and one method. The caller is named by a header. Most routes take a
message as JSON, which is read before the header is looked at; a body that cannot be read, a path or
method that is not known, and a caller that is not named are answered without asking the service.

A request with the method `OPTIONS` is answered for every path, since it only asks what is allowed.

## Main definitions

* `Route`, `Route.path`, `Route.method`
* `Request`, `Response` — what comes in and goes out
* `Route.serve` — what a route asks of the service
* `respond` — the response to a request
-/

namespace SharedSheet.Web

/-! ### Routes -/

/-- What can be asked. -/
inductive Route where
  | register
  | publishers
  | createSheet
  | sheets
  | deleteSheet
  | subscriptionUpdates
  | publishedUpdates
  | publish
  | propose
  | evaluate
  deriving DecidableEq

namespace Route

/-- The routes. -/
def all : List Route :=
  [register, publishers, createSheet, sheets, deleteSheet, subscriptionUpdates, publishedUpdates,
    publish, propose, evaluate]

/-- The path of a route. -/
def path : Route → String
  | register => "/api/v1/register"
  | publishers => "/api/v1/getPublishers"
  | createSheet => "/api/v1/createSheet"
  | sheets => "/api/v1/getSheets"
  | deleteSheet => "/api/v1/deleteSheet"
  | subscriptionUpdates => "/api/v1/getUpdatesForSubscription"
  | publishedUpdates => "/api/v1/getUpdatesForPublished"
  | publish => "/api/v1/updatePublished"
  | propose => "/api/v1/updateSubscription"
  | evaluate => "/api/v1/evaluate"

/-- Whether a route is reached by a method. What can be got can also be asked for by its head. -/
def accepts (r : Route) (method : String) : Bool :=
  match r with
  | publishers => method == "GET" || method == "HEAD"
  | _ => method == "POST"

/-- Whether a route takes a message. -/
def takesMessage : Route → Bool
  | register | publishers => false
  | _ => true

/-- The route of a path. -/
def ofPath? (path : String) : Option Route := all.find? (·.path == path)

end Route

/-! ### Requests and responses -/

/-- A request. -/
structure Request where
  method : String
  /-- The path, with a query or fragment after it. -/
  path : String
  /-- The header that names the caller. -/
  client : Option String := none
  /-- The header with the media type of the body. -/
  contentType : Option String := none
  body : String := ""

/-- A response: a status, and an answer unless the request did not get that far. -/
structure Response where
  status : Nat
  reply : Option Reply := none
  deriving DecidableEq

namespace Request

/-- The path alone. -/
def barePath (q : Request) : String :=
  String.ofList (q.path.toList.takeWhile fun c => c ≠ '?' ∧ c ≠ '#')

/-- Whether a character may stand in a header. -/
def isHeaderChar (c : Char) : Bool := c == '\t' || (0x20 ≤ c.toNat && c.toNat < 0x7F)

/-- The caller, if one is named. -/
def caller? (q : Request) : Option String :=
  match q.client with
  | none => none
  | some header =>
    let name := Text.trimmed header
    if header.toList.all isHeaderChar && name ≠ "" then some name else none

/-- The message of a request, or the status that refuses it. -/
def message (q : Request) : Except Nat Message :=
  if !q.contentType.any MediaType.isJson then .error 415
  else
    match (Json.Decoder.record Message.recordForm).decodeStart q.body with
    | .ok m => .ok m
    | .error .syntaxError => .error 400
    | .error .wrongShape => .error 422

end Request

/-- The status of a refusal. -/
def status : Refusal → Nat
  | .invalidPayload _ | .noEntries | .emptyPublisher | .emptySheetName => 400
  | .forbidden .. => 403
  | .unknownPublisher _ | .unknownSheet _ | .notCached _ => 404
  | .cell _ => 422
  | .store _ => 500

/-! ### Serving -/

variable {σ : Type} [Store σ]

/-- What a route asks of the service for a caller with a message. -/
def Route.serve (now : Timestamp) (caller : String) (m : Message) :
    Route → Call σ (String × List Message)
  | register => do
    let isNew ← Service.register caller
    return (if isNew then "registered" else "already registered", [{ publisher := caller }])
  | publishers => do
    return ("publishers", (← Service.publishers).map fun publisher => { publisher })
  | createSheet => do
    return ("sheet created", [.ofSheet (← Service.create caller m.address)])
  | sheets => do
    return ("sheets", (← Service.sheets m.publisher caller).map .ofSheet)
  | deleteSheet => do
    Service.delete caller m.address
    return ("sheet deleted", [])
  | subscriptionUpdates => do
    let delta ← Service.subscriptionDelta caller m.address m.id
    return ("updates", [.ofDelta m.address delta])
  | publishedUpdates => do
    let delta ← Service.publishedDelta caller m.address m.id
    return ("updates", [.ofDelta m.address delta])
  | publish => do
    let entry ← Service.publish now caller m.address m.payload
    return ("published", [{ m with id := entry.id }])
  | propose => do
    let entry ← Service.propose now caller m.address m.payload
    return ("proposed", [{ m with id := entry.id }])
  | evaluate => do
    let value ← Service.evaluate caller m.address m.payload
    return ("evaluated", [{ m with payload := value.shown }])

/-- The response to a request for a route. -/
def Route.respond (now : Timestamp) (r : Route) (q : Request) (s : Service σ) :
    Response × Service σ :=
  match if r.takesMessage then q.message else .ok {} with
  | .error status => (⟨status, none⟩, s)
  | .ok m =>
    match q.caller? with
    | none => (⟨401, some ⟨false, "missing x-client header", []⟩⟩, s)
    | some caller =>
      match (r.serve now caller m).run.run s with
      | (.ok (message, value), s) => (⟨200, some ⟨true, message, value⟩⟩, s)
      | (.error e, s) => (⟨status e, some ⟨false, e.message, []⟩⟩, s)

/-- The response to a request. The response to a request for a head has no body. -/
def respond (now : Timestamp) (q : Request) (s : Service σ) : Response × Service σ :=
  if q.method = "OPTIONS" then (⟨200, none⟩, s)
  else
    match Route.ofPath? q.barePath with
    | none => (⟨404, none⟩, s)
    | some r =>
      if r.accepts q.method then
        let (response, s) := r.respond now q s
        (if q.method = "HEAD" then { response with reply := none } else response, s)
      else (⟨405, none⟩, s)

end SharedSheet.Web
