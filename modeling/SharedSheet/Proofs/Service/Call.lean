import SharedSheet.Proofs.Registry
import SharedSheet.Service.Basic

/-!
# Running calls

A call is a program in a monad, and what it does to a service is found by running it. Each primitive
of the monad has its equation here, and so has each part of a request that only looks at the store:
such a part has the same answer when it looks at the book alone, and leaves the service as it was.

## Main definitions

* `Call.exec` — the answer of a call and the service after it
* `Service.warmed` — a service once its cache is built
* `Book.resolve`, `Book.resolveVisible`, `Payload.validated` — the parts that only look

## Main results

* `Call.exec_bind` — one call after another
* `Service.exec_resolve`, `Service.exec_resolveVisible`, `Service.exec_validate` — looking is a
  function of the book
-/

namespace SharedSheet

variable {σ α β : Type}

/-! ### The monad -/

/-- What two steps that may be refused come to. -/
theorem bind_eq_ok_iff {ε : Type} {x : Except ε α} {f : α → Except ε β} {b : β} :
    x >>= f = .ok b ↔ ∃ a, x = .ok a ∧ f a = .ok b := by
  cases x <;> simp [bind, Except.bind]

namespace Call

/-- The answer of a call and the service after it. -/
def exec (c : Call σ α) (s : Service σ) : Except Refusal α × Service σ := c s

variable {s : Service σ}

@[simp] theorem exec_pure (a : α) : exec (pure a : Call σ α) s = (.ok a, s) := rfl

@[simp] theorem exec_throw (e : Refusal) : exec (throw e : Call σ α) s = (.error e, s) := rfl

@[simp] theorem exec_get : exec (get : Call σ (Service σ)) s = (.ok s, s) := rfl

@[simp] theorem exec_set (s' : Service σ) : exec (set s' : Call σ PUnit) s = (.ok ⟨⟩, s') := rfl

theorem exec_bind (c : Call σ α) (f : α → Call σ β) : exec (c >>= f) s =
    match exec c s with
    | (.ok a, s) => exec (f a) s
    | (.error e, s) => (.error e, s) := by
  show (ExceptT.bind c f) s = _
  simp only [ExceptT.bind, ExceptT.mk, bind, StateT.bind, exec]
  rcases c s with ⟨_ | _, _⟩ <;> rfl

theorem exec_map (f : α → β) (c : Call σ α) :
    exec (f <$> c) s = ((exec c s).1.map f, (exec c s).2) := by
  rw [map_eq_pure_bind, exec_bind]
  rcases exec c s with ⟨_ | _, _⟩ <;> rfl

end Call

/-! ### Looking at a book -/

/-- The sheet that callers name so. -/
def Book.resolve (b : Book) (a : SheetAddress) : Except Refusal Sheet :=
  if b.registry.knows a.publisher then
    match b.registry.findSheet? a with
    | some sheet => .ok sheet
    | none => .error (.unknownSheet a)
  else .error (.unknownPublisher a.publisher)

/-- The sheet that a caller names so and may see. -/
def Book.resolveVisible (b : Book) (caller : String) (a : SheetAddress) : Except Refusal Sheet :=
  match b.resolve a with
  | .ok sheet =>
    if sheet.isVisibleTo caller then .ok sheet else .error (.forbidden caller .readPrivate)
  | .error e => .error e

/-- The changes of a payload, at least one. -/
def Payload.validated (payload : String) : Except Refusal (List Edit) :=
  match parse payload with
  | .ok [] => .error .noEntries
  | .ok es => .ok es
  | .error e => .error (.invalidPayload e)

namespace Book

variable {b : Book} {a : SheetAddress} {caller : String} {sheet : Sheet}

theorem resolve_eq_ok (h : b.resolve a = .ok sheet) :
    b.registry.knows a.publisher = true ∧ sheet ∈ b.registry.sheets ∧ sheet.address = a := by
  unfold resolve at h
  split at h
  · rename_i hknown
    split at h
    · rename_i hfind
      obtain rfl := Except.ok.inj h
      exact ⟨hknown, Registry.mem_of_findSheet? hfind⟩
    · simp at h
  · simp at h

/-- A sheet of a sound registry is what its own address names. -/
theorem resolve_address (h : b.registry.Sound) (hs : sheet ∈ b.registry.sheets) :
    b.resolve sheet.address = .ok sheet := by
  have hknown : b.registry.knows sheet.address.publisher = true := h.owners sheet hs
  simp only [resolve, hknown, if_true, h.findSheet?_address hs]

theorem resolveVisible_eq_ok (h : b.resolveVisible caller a = .ok sheet) :
    b.resolve a = .ok sheet ∧ sheet.isVisibleTo caller = true := by
  unfold resolveVisible at h
  split at h
  · split at h
    · obtain rfl := Except.ok.inj h
      exact ⟨by assumption, by assumption⟩
    · simp at h
  · simp at h

theorem hasSheet_of_resolve (h : b.resolve a = .ok sheet) : b.registry.hasSheet sheet.id = true :=
  Registry.hasSheet_iff.2 ⟨sheet, (resolve_eq_ok h).2.1, rfl⟩

end Book

/-! ### Services that look -/

namespace Service

section

variable {s : Service σ}

@[simp] theorem exec_setCache (c : Cache) :
    Call.exec (setCache c) s = (.ok (), { s with cache := some c }) := rfl

theorem exec_onStore (op : Operation σ StoreError α) :
    Call.exec (onStore op) s =
      ((op s.store).1.mapError .store, { s with store := (op s.store).2 }) := by
  unfold onStore
  rw [Call.exec_bind, Call.exec_get]
  simp only [Call.exec_bind, Call.exec_set]
  rcases op s.store with ⟨_ | _, _⟩ <;> rfl

theorem exec_orRefuse {ε : Type} (why : ε → Refusal) (answer : Except ε α) :
    Call.exec (orRefuse why answer : Call σ α) s = (answer.mapError why, s) := by
  cases answer <;> rfl

theorem exec_validate (payload : String) :
    Call.exec (validate payload) s = (Payload.validated payload, s) := by
  unfold validate Payload.validated
  rw [Call.exec_bind, exec_orRefuse]
  rcases Payload.parse payload with e | _ | ⟨e, es⟩ <;> rfl

end

variable [Store σ] {s : Service σ}

/-- A service once its cache is built. -/
def warmed (s : Service σ) : Service σ := { s with cache := some (s.cache.getD s.builtCache) }

@[simp] theorem book_warmed (s : Service σ) : s.warmed.book = s.book := rfl

@[simp] theorem exec_ask (question : Book → α) :
    Call.exec (ask question) s = (.ok (question s.book), s) := rfl

theorem exec_warmCache : Call.exec warmCache s = (.ok (s.cache.getD s.builtCache), s.warmed) := by
  obtain ⟨store, extent, keeps, checkpoint, cache⟩ := s
  cases cache <;> rfl

theorem exec_requirePublisher (publisher : String) :
    Call.exec (requirePublisher publisher) s =
      (if s.book.registry.knows publisher then .ok () else .error (.unknownPublisher publisher),
        s) := by
  unfold requirePublisher
  rw [Call.exec_bind, exec_ask]
  cases h : s.book.registry.knows publisher <;> simp

/-- Resolving a name is a function of the book. -/
theorem exec_resolve (a : SheetAddress) : Call.exec (resolve a) s = (s.book.resolve a, s) := by
  unfold resolve Book.resolve
  rw [Call.exec_bind, exec_requirePublisher]
  by_cases h : s.book.registry.knows a.publisher = true
  · rw [if_pos h, if_pos h]
    simp only [Call.exec_bind, exec_ask]
    cases s.book.registry.findSheet? a <;> rfl
  · rw [if_neg h, if_neg h]

theorem exec_resolveVisible (caller : String) (a : SheetAddress) :
    Call.exec (resolveVisible caller a) s = (s.book.resolveVisible caller a, s) := by
  unfold resolveVisible Book.resolveVisible
  rw [Call.exec_bind, exec_resolve]
  cases s.book.resolve a with
  | error e => rfl
  | ok sheet =>
    by_cases h : sheet.isVisibleTo caller = true
    · simp [h]
    · simp [h]

end Service

end SharedSheet
