import SharedSheet.Service.Refusal
import SharedSheet.Store.Checkpoint

/-!
# The service

The service stands between callers and a store. Owners publish: their updates are accepted and
folded into the cache. Everybody else proposes: their updates are kept in the log and change
nothing. Private sheets exist for their owner alone.

The cache is built when it is first needed, from the checkpoint if there is one and from the log,
and is kept up to date from then on.

## Main definitions

* `Service` — the store, the cache and the checkpoint
* `Call` — what a request does to a service
* `Cache.broughtUpTo`, `Service.builtCache` — how the cache is built
* `Service.register`, `Service.create`, `Service.delete` — publishers and sheets
* `Service.publish`, `Service.propose`, `Service.submit` — updates
* `Service.publishedDelta`, `Service.subscriptionDelta` — what changed since an update
* `Service.snapshot`, `Service.evaluate` — the accepted state of a sheet
* `Service.saveCheckpoint`
-/

namespace SharedSheet

/-- A service over a store. -/
structure Service (σ : Type) where
  store : σ
  /-- The extent of a new sheet. -/
  extent : Extent
  /-- Whether the cache is kept in a checkpoint. -/
  keepsCheckpoint : Bool := false
  checkpoint : Checkpoint := .absent
  /-- The cache, once it is built. -/
  cache : Option Cache := none

/-- What a request does: an answer or a refusal, and the service after it. -/
abbrev Call (σ α : Type) := ExceptT Refusal (StateM (Service σ)) α

/-- A cache that becomes that of a book: it knows the book's sheets and no others, and has folded
all its entries. -/
def Cache.broughtUpTo (c : Cache) (b : Book) : Cache :=
  let kept : Cache := { c with sheets := c.sheets.filter fun id _ => b.registry.hasSheet id }
  let known := b.registry.sheets.foldl (fun c s => c.register s.id) kept
  (known.build (b.acceptedAfter known.lastFolded)).1

/-- The worksheet that the cells of a sheet make. -/
def CachedSheet.worksheet (s : CachedSheet) : Worksheet :=
  s.cells.rows.foldl (fun w row => w.set row.1 row.2.term) { extent := s.extent }

namespace Service

variable {σ : Type} [Store σ] {α : Type}

/-! ### The store and the cache -/

/-- What the store holds. -/
def book (s : Service σ) : Book := Store.book s.store

/-- Asks the store. -/
def ask (question : Book → α) : Call σ α := do return question (← get).book

/-- Makes the store do something. -/
def onStore (op : Operation σ StoreError α) : Call σ α := do
  let s ← get
  let (answer, store) := op s.store
  set { s with store }
  match answer with
  | .ok answer => return answer
  | .error e => throw (.store e)

/-- The cache that is built when there is none. -/
def builtCache (s : Service σ) : Cache :=
  let restored := if s.keepsCheckpoint then s.checkpoint.load? else none
  (restored.getD { defaultExtent := s.extent }).broughtUpTo s.book

/-- The cache, which is built now if it was not needed before. -/
def warmCache : Call σ Cache := do
  let s ← get
  match s.cache with
  | some c => return c
  | none =>
    set { s with cache := some s.builtCache }
    return s.builtCache

/-- Changes the cache. -/
def setCache (c : Cache) : Call σ Unit := modify fun s => { s with cache := some c }

/-- An answer that may be a refusal. -/
def orRefuse {ε : Type} (why : ε → Refusal) : Except ε α → Call σ α
  | .ok answer => return answer
  | .error e => throw (why e)

/-! ### Names -/

/-- Refuses a publisher who is not listed. -/
def requirePublisher (publisher : String) : Call σ Unit := do
  unless ← ask (·.registry.knows publisher) do throw (.unknownPublisher publisher)

/-- The sheet that callers name so. -/
def resolve (a : SheetAddress) : Call σ Sheet := do
  requirePublisher a.publisher
  match ← ask (·.registry.findSheet? a) with
  | some sheet => return sheet
  | none => throw (.unknownSheet a)

/-- The sheet that a caller names so and may see. -/
def resolveVisible (caller : String) (a : SheetAddress) : Call σ Sheet := do
  let sheet ← resolve a
  unless sheet.isVisibleTo caller do throw (.forbidden caller .readPrivate)
  return sheet

/-! ### Publishers and sheets -/

/-- Lists a publisher. The answer is whether the publisher is new. -/
def register (publisher : String) : Call σ Bool := do
  if Text.isAllBlank publisher.toList then throw .emptyPublisher
  onStore (Store.registerPublisher publisher)

/-- The publishers. -/
def publishers : Call σ (List String) := ask (·.registry.publishers)

/-- The sheets of a publisher that a caller sees. -/
def sheets (publisher caller : String) : Call σ (List Sheet) := do
  requirePublisher publisher
  ask (·.registry.sheets.filter fun s => s.owner == publisher && s.isVisibleTo caller)

/-- Makes a sheet for its publisher, under a name that is free among that publisher's. Who sees it
depends on the name asked for. When the numbers of names run out the program stops in the middle of
the call; no sheet is made, and a refusal of the store stands for the answer that never comes. -/
def create (caller : String) (a : SheetAddress) : Call σ Sheet := do
  if caller ≠ a.publisher then throw (.forbidden caller .createElsewhere)
  let requested := Text.trimmed a.sheet
  if requested = "" then throw .emptySheetName
  requirePublisher caller
  let cache ← warmCache
  let taken ← ask fun b => (b.registry.sheets.filter (·.owner == caller)).map (·.name)
  if NumbersRunOut taken requested then throw (.store .io)
  let sheet ← onStore
    (Store.insertSheet ⟨caller, uniqueName taken requested⟩ (.ofName requested))
  setCache (cache.register sheet.id)
  return sheet

/-- Deletes a sheet with its entries. Only its owner may. -/
def delete (caller : String) (a : SheetAddress) : Call σ Unit := do
  let cache ← warmCache
  let sheet ← resolve a
  unless sheet.isOwnedBy caller do throw (.forbidden caller .delete)
  let _ ← onStore (Store.deleteSheet sheet.id)
  setCache (cache.remove sheet.id)

/-! ### Updates -/

/-- The changes of a payload, at least one. -/
def validate (payload : String) : Call σ (List Edit) := do
  match ← orRefuse .invalidPayload (Payload.parse payload) with
  | [] => throw .noEntries
  | es => return es

/-- Puts an accepted update of the owner into the log and into the cache. -/
def publish (now : Timestamp) (caller : String) (a : SheetAddress) (payload : String) :
    Call σ LogEntry := do
  let es ← validate payload
  let cache ← warmCache
  let sheet ← resolve a
  unless sheet.isOwnedBy caller do throw (.forbidden caller .publish)
  let entry ← onStore (Store.append ⟨sheet.id, caller, payload, true, now⟩)
  setCache (← orRefuse .notCached (cache.update sheet.id es entry.id))
  return entry

/-- Puts a proposal into the log. -/
def propose (now : Timestamp) (caller : String) (a : SheetAddress) (payload : String) :
    Call σ LogEntry := do
  let _ ← validate payload
  let _ ← warmCache
  let sheet ← resolveVisible caller a
  onStore (Store.append ⟨sheet.id, caller, payload, false, now⟩)

/-- Publishes for the publisher named, and proposes for everybody else. -/
def submit (now : Timestamp) (caller : String) (a : SheetAddress) (payload : String) :
    Call σ LogEntry :=
  if caller = a.publisher then publish now caller a payload else propose now caller a payload

/-! ### What changed -/

/-- All entries of a sheet after an update, proposals among them. -/
def publishedDelta (caller : String) (a : SheetAddress) (since : Nat) : Call σ Delta := do
  let sheet ← resolveVisible caller a
  return .ofEntries (← ask (·.sheetUpdates sheet.id .any since))

/-- The accepted changes of a sheet after an update. From the beginning they are those that the
cache adds up to. -/
def subscriptionDelta (caller : String) (a : SheetAddress) (since : Nat) : Call σ Delta := do
  let cache ← warmCache
  let sheet ← resolveVisible caller a
  if since = 0 then return (← orRefuse .notCached (cache.sheet sheet.id)).delta 0
  return .ofEntries (← ask (·.sheetUpdates sheet.id .accepted since))

/-! ### The accepted state -/

/-- The accepted state of a sheet. -/
def snapshot (caller : String) (a : SheetAddress) : Call σ Worksheet := do
  let cache ← warmCache
  let sheet ← resolveVisible caller a
  return (← orRefuse .notCached (cache.sheet sheet.id)).worksheet

/-- The value of a term in the accepted state of a sheet. -/
def evaluate (caller : String) (a : SheetAddress) (term : String) : Call σ Formula.Value := do
  let worksheet ← snapshot caller a
  orRefuse .cell (worksheet.evaluate.term term)

/-! ### The checkpoint -/

/-- Saves the cache, if it is to be kept. The answer is whether it is. -/
def saveCheckpoint : Call σ Bool := do
  if !(← get).keepsCheckpoint then return false
  let cache ← warmCache
  match (← get).checkpoint.save? cache with
  | some checkpoint =>
    modify fun s => { s with checkpoint }
    return true
  | none => throw (.store .io)

end Service

end SharedSheet
