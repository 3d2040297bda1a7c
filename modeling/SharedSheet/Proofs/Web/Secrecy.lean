import SharedSheet.Proofs.Web.Router

/-!
# Private content stays private

Two servers get the same requests over the web, except that some clients, the insiders, write
different things into private sheets of their own. Nobody else can tell: every other client gets the
same responses from both servers, whatever is asked and in whatever order. Other clients see that a
private sheet is there when they stumble upon its name, and the numbers of updates count those of
private sheets too, but nothing that is said to them depends on what such a sheet says.

The times at which the requests come are left open, and may differ between the servers.

## Main definitions

* `Exchange`, `exchanges` — requests one after another, each with the service before it and the
  response
* `Exchange.Twin` — the same request to both servers, or two updates of a private sheet by its owner
* `Abreast` — services that follow books which agree

## Main results

* `Abreast.respond_same`, `Abreast.respond_update` — one exchange leaves the services abreast
* `private_content_hidden` — whoever is no insider gets the same responses in all exchanges
-/

namespace SharedSheet.Web

variable {σ : Type} [Medium σ]

/-! ### Exchanges -/

/-- A request and the response to it, with the service before. -/
structure Exchange (σ : Type) where
  before : Service σ
  request : Request
  response : Response

/-- What happens when requests come one after another. -/
def exchanges (s : Service σ) : List (Timestamp × Request) → List (Exchange σ)
  | [] => []
  | (now, q) :: rest => ⟨s, q, (respond now q s).1⟩ :: exchanges (respond now q s).2 rest

/-- Whether a route puts an update into a sheet. -/
def Route.isUpdate : Route → Bool
  | publish | propose => true
  | _ => false

/-- The query with another payload. -/
def Query.withPayload (q : Query) (payload : String) : Query :=
  { q with message := { q.message with payload } }

theorem Query.updated?_request {q : Query} (h : q.route.isUpdate = true) :
    q.request.updated? = some q.message.address := by
  obtain ⟨route, caller, message, withBody⟩ := q
  cases route with
  | publish | propose => rfl
  | register | publishers | createSheet | sheets | deleteSheet | subscriptionUpdates
  | publishedUpdates | evaluate => simp [Route.isUpdate] at h

/-- Either the requests are the same, or they are updates of a private sheet by its owner, who is an
insider: they are the same but for their payloads, and both are taken. -/
inductive Exchange.Twin (insider : String → Prop) (x y : Exchange σ) : Prop where
  | same (h : x.request = y.request)
  | update (q : Query) (payload : String) (sheet : Sheet) (hx : x.request.asked = .ok q)
      (hy : y.request.asked = .ok (q.withPayload payload)) (hroute : q.route.isUpdate = true)
      (hsheet : sheet ∈ x.before.book.registry.sheets)
      (haddress : sheet.address = q.message.address) (hprivate : sheet.visibility = .ownerOnly)
      (howner : sheet.owner = q.caller) (hinsider : insider q.caller)
      (hdone : x.response.status = 200) (hdone' : y.response.status = 200)

/-! ### Services that follow books -/

/-- A service that follows a book responds as the book answers. -/
theorem respond_of_follows {s : Service σ} {extent : Extent} {b : Book}
    (h : Server.Follows ⟨s, true⟩ extent b) (now : Timestamp) {q : Request} {a : Query}
    (hasked : q.asked = .ok a) :
    (respond now q s).1 = a.response (b.respond extent .epoch a.request).1 ∧
      Server.Follows ⟨(respond now q s).2, true⟩ extent (b.respond extent .epoch a.request).2 := by
  obtain ⟨hfollows, hreplies⟩ := h.request now a.request
  rw [respond_eq, hasked]
  refine ⟨?_, hfollows⟩
  rw [← List.head_eq_of_cons_eq hreplies, a.response_untimed]

/-- Two services that follow books which agree. -/
structure Abreast (insider : String → Prop) (extent : Extent) (s t : Service σ) (b c : Book) :
    Prop where
  left : Server.Follows ⟨s, true⟩ extent b
  right : Server.Follows ⟨t, true⟩ extent c
  agrees : b.Agrees insider c

namespace Abreast

variable {insider : String → Prop} {extent : Extent} {s t : Service σ} {b c : Book}

theorem registry_eq (h : Abreast insider extent s t b c) : s.book.registry = b.registry :=
  congrArg (·.registry) h.left.book

theorem sound (h : Abreast insider extent s t b c) : b.registry.Sound :=
  h.registry_eq ▸ h.left.sound.book.registry

/-- The same request leaves the services abreast, and whoever is no insider gets the same
response. -/
theorem respond_same (h : Abreast insider extent s t b c) (now now' : Timestamp) (q : Request) :
    (∃ b' c', Abreast insider extent (respond now q s).2 (respond now' q t).2 b' c') ∧
      ((∀ caller, q.caller? = some caller → ¬ insider caller) →
        (respond now q s).1 = (respond now' q t).1) := by
  cases hasked : q.asked with
  | error response =>
    rw [respond_eq, respond_eq, hasked]
    exact ⟨⟨b, c, h⟩, fun _ => rfl⟩
  | ok a =>
    obtain ⟨hresponse, hleft⟩ := respond_of_follows h.left now hasked
    obtain ⟨hresponse', hright⟩ := respond_of_follows h.right now' hasked
    refine ⟨⟨_, _, hleft, hright, h.agrees.respond a.request⟩, fun houtsider => ?_⟩
    rw [hresponse, hresponse', h.agrees.answer h.sound fun caller hcaller => ?_]
    obtain rfl := Query.caller_of_request hcaller
    exact houtsider a.caller (Request.caller?_of_asked hasked)

/-- Two updates of a private sheet by its owner leave the services abreast. -/
theorem respond_update (h : Abreast insider extent s t b c) {now now' : Timestamp} {p q : Request}
    {a : Query} {payload : String} {sheet : Sheet} (hp : p.asked = .ok a)
    (hq : q.asked = .ok (a.withPayload payload)) (hroute : a.route.isUpdate = true)
    (hsheet : sheet ∈ s.book.registry.sheets) (haddress : sheet.address = a.message.address)
    (hprivate : sheet.visibility = .ownerOnly) (hinsider : insider sheet.owner)
    (hdone : (respond now p s).1.status = 200) (hdone' : (respond now' q t).1.status = 200) :
    ∃ b' c', Abreast insider extent (respond now p s).2 (respond now' q t).2 b' c' := by
  obtain ⟨hresponse, hleft⟩ := respond_of_follows h.left now hp
  obtain ⟨hresponse', hright⟩ := respond_of_follows h.right now' hq
  obtain ⟨answer, hok⟩ := Query.exists_of_status_eq_ok (hresponse ▸ hdone)
  obtain ⟨answer', hok'⟩ := Query.exists_of_status_eq_ok (hresponse' ▸ hdone')
  rw [h.registry_eq] at hsheet
  exact ⟨_, _, hleft, hright, h.agrees.respond_hidden h.sound hsheet hprivate hinsider
    (haddress ▸ a.updated?_request hroute)
    (haddress ▸ (a.withPayload payload).updated?_request hroute) hok hok'⟩

/-- Exchanges of services that are abreast. -/
theorem exchanges (h : Abreast insider extent s t b c) {ps qs : List (Timestamp × Request)}
    (htwin : List.Forall₂ (Exchange.Twin insider) (Web.exchanges s ps) (Web.exchanges t qs)) :
    List.Forall₂ (fun x y => (∀ c, x.request.caller? = some c → ¬ insider c) →
      x.response = y.response) (Web.exchanges s ps) (Web.exchanges t qs) := by
  induction ps generalizing s t b c qs with
  | nil =>
    cases qs with
    | nil => exact .nil
    | cons q qs => cases htwin
  | cons p ps ih =>
    cases qs with
    | nil => cases htwin
    | cons q qs =>
      obtain ⟨now, p⟩ := p
      obtain ⟨now', q⟩ := q
      obtain ⟨hfirst, hrest⟩ := List.forall₂_cons.1 htwin
      cases hfirst with
      | same hsame =>
        obtain rfl : p = q := hsame
        obtain ⟨⟨b', c', hafter⟩, hresponse⟩ := h.respond_same now now' p
        exact .cons hresponse (ih hafter hrest)
      | update a payload sheet hp hq hroute hsheet haddress hprivate howner hinsider hdone hdone' =>
        obtain ⟨b', c', hafter⟩ := h.respond_update hp hq hroute hsheet haddress hprivate
          (howner ▸ hinsider) hdone hdone'
        refine .cons (fun houtsider => ?_) (ih hafter hrest)
        exact absurd hinsider (houtsider a.caller (Request.caller?_of_asked hp))

end Abreast

/-- **Private content stays private.** Two servers that start on empty stores get the same requests,
but for the payloads of updates that insiders put into private sheets of their own and that both
servers take. Then every client who is no insider gets the same responses from both. -/
theorem private_content_hidden (extent : Extent) (keepsCheckpoint : Bool)
    {insider : String → Prop} {ps qs : List (Timestamp × Request)}
    (htwin : List.Forall₂ (Exchange.Twin insider)
      (exchanges (Server.start extent keepsCheckpoint : Server σ).service ps)
      (exchanges (Server.start extent keepsCheckpoint : Server σ).service qs)) :
    List.Forall₂ (fun x y => (∀ c, x.request.caller? = some c → ¬ insider c) →
        x.response = y.response)
      (exchanges (Server.start extent keepsCheckpoint : Server σ).service ps)
      (exchanges (Server.start extent keepsCheckpoint : Server σ).service qs) :=
  Abreast.exchanges ⟨Server.follows_start extent keepsCheckpoint,
    Server.follows_start extent keepsCheckpoint, .refl {}⟩ htwin

/-- A client asks for a route with a message. -/
def posted (client : String) (r : Route) (m : Message) : Timestamp × Request :=
  (.epoch, ⟨"POST", r.path, some client, some "application/json", m.toJson.compact⟩)

/-- An owner keeps a diary, and somebody else asks for it. -/
def keepingDiary (payload : String) : List (Timestamp × Request) :=
  [posted "ana" .register {},
    posted "ana" .createSheet { publisher := "ana", sheet := "diary-private" },
    posted "ana" .publish { publisher := "ana", sheet := "diary-private", payload },
    posted "bea" .publishedUpdates { publisher := "ana", sheet := "diary-private" }]

theorem private_content_hidden_keepingDiary :
    List.Forall₂ (fun x y => (∀ c, x.request.caller? = some c → c ≠ "ana") →
        x.response = y.response)
      (exchanges (Server.start ⟨10, 10⟩ false : Server Book).service (keepingDiary "$A1 yes"))
      (exchanges (Server.start ⟨10, 10⟩ false : Server Book).service (keepingDiary "$A1 no")) :=
  private_content_hidden ⟨10, 10⟩ false <|
    .cons (.same rfl) <| .cons (.same rfl) <| .cons
      (.update ⟨.publish, "ana", ⟨"ana", "diary-private", 0, "$A1 yes"⟩, true⟩ "$A1 no"
        ⟨1, "diary-private", "ana", .ownerOnly⟩ (by decide +kernel) (by decide +kernel) rfl
        (by decide +kernel) rfl rfl rfl rfl (by decide +kernel) (by decide +kernel)) <|
    .cons (.same rfl) .nil

end SharedSheet.Web
