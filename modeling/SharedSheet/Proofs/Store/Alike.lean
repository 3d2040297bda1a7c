import SharedSheet.Proofs.Store.Medium

/-!
# What failures leave behind

A file is replaced by way of a temporary file, and a replacement that fails may leave the temporary
file behind. Nobody ever reads it, and the next replacement makes it anew. All that matters about
the place of a temporary file is whether a directory is in the way. Two disks that agree in
everything else are `Alike`: whatever is done to both comes to the same, and leaves them alike.

So a medium need not undo what it did before a failure. It is enough that the store is afterwards
like the store before, and then no operation ever tells the difference. `CleanMedium` collects these
two laws for all operations.

## Main definitions

* `Disk.Alike` — disks that differ in temporary files at most
* `Operation.Clean` — an operation that treats states that are alike alike, and that leaves a state
  like the one before if it fails
* `CleanMedium` — media whose operations are clean
* the instances for `Book` and `FileStore`

## Main results

* `Effect.clean_append`, `Effect.clean_replace` — what is done to files is clean
-/

namespace SharedSheet

/-- Two outcomes with the same answer, and what is left is related. -/
theorem outcomes_eq {α σ : Type} {R : σ → σ → Prop} {p q : α × σ} (h : p.1 = q.1 ∧ R p.2 q.2) :
    ∃ a s t, p = (a, s) ∧ q = (a, t) ∧ R s t :=
  ⟨p.1, p.2, q.2, rfl, Prod.ext h.1.symm rfl, h.2⟩

/-! ### Disks -/

/-- Whether a file is only there while another one is replaced. -/
def FileName.isTemporary : FileName → Bool
  | .logTemp | .registryTemp => true
  | .log | .registry => false

namespace Disk

variable {d d' : Disk} {f : FileName}

/-- Disks that differ in temporary files at most. -/
structure Alike (d d' : Disk) : Prop where
  refuses : d.refuses = d'.refuses
  slot : ∀ f, f.isTemporary = false → d.slot f = d'.slot f
  /-- The same places are blocked by directories. -/
  blocked : ∀ f, (d.slot f).isDirectory = (d'.slot f).isDirectory

namespace Alike

theorem refl (d : Disk) : Alike d d := ⟨rfl, fun _ _ => rfl, fun _ => rfl⟩

theorem setSlot (h : Alike d d') (f : FileName) (s : Slot) :
    Alike (d.setSlot f s) (d'.setSlot f s) where
  refuses := by rw [refuses_setSlot, refuses_setSlot, h.refuses]
  slot f' hf' := by
    rw [slot_setSlot, slot_setSlot, h.slot f' hf']
  blocked f' := by
    rw [slot_setSlot, slot_setSlot]
    split
    · rfl
    · exact h.blocked f'

theorem refuse (h : Alike d d') (r : Access → Bool) :
    Alike { d with refuses := r } { d' with refuses := r } where
  refuses := rfl
  slot := h.slot
  blocked := h.blocked

theorem readText? (h : Alike d d') (hf : f.isTemporary = false) :
    d.readText? f = d'.readText? f := by
  rw [Disk.readText?, Disk.readText?, h.refuses, h.slot f hf]

end Alike

/-- A temporary file more or less makes no difference. -/
theorem alike_setSlot {s : Slot} (hf : f.isTemporary = true)
    (hs : s.isDirectory = (d.slot f).isDirectory) : Alike d (d.setSlot f s) where
  refuses := (refuses_setSlot d f s).symm
  slot f' hf' := by
    have hne : f' ≠ f := by
      rintro rfl
      simp [hf] at hf'
    rw [slot_setSlot, if_neg hne]
  blocked f' := by
    rw [slot_setSlot]
    split
    · rename_i heq
      rw [heq, hs]
    · rfl

end Disk

/-- Effects that come to the same on disks that are alike, and that leave a disk like the one before
if one of them fails. -/
structure Effect.Clean (es : List Effect) : Prop where
  respects : ∀ {d d' : Disk}, d.Alike d' → (d.performAll es).1 = (d'.performAll es).1 ∧
    (d.performAll es).2.Alike (d'.performAll es).2
  fails : ∀ d : Disk, (d.performAll es).1 = false → d.Alike (d.performAll es).2

namespace Effect

open Disk

variable {f temp target : FileName}

/-- A file that is kept is appended to, or it stays as it was. -/
theorem clean_append (hf : f.isTemporary = false) (content : ByteArray) :
    Clean [.append f content] where
  respects {d d'} h := by
    simp only [performAll, perform?, access, h.refuses, h.slot f hf]
    by_cases hrefused : d'.refuses (.append f) = true
    · simp only [hrefused, if_true]
      exact ⟨trivial, h⟩
    · simp only [hrefused]
      cases (d'.slot f).append? content with
      | none => exact ⟨rfl, h⟩
      | some s => exact ⟨rfl, h.setSlot f s⟩
  fails d hfails := by
    cases happend : d.perform? (.append f content) with
    | none =>
      simp only [performAll, happend]
      exact .refl d
    | some d' => simp [performAll, happend] at hfails

/-- A file is replaced, or nothing is left but a temporary file. -/
theorem clean_replace (hne : temp ≠ target) (htemp : temp.isTemporary = true) (content : String) :
    Clean (replace temp target content) where
  respects {d d'} h := by
    simp only [performAll_replace_eq content hne, h.refuses, h.blocked]
    split
    · exact ⟨rfl, h⟩
    · split
      · exact ⟨rfl, h.setSlot temp _⟩
      · exact ⟨rfl, (h.setSlot temp _).setSlot target _⟩
  fails d hfails := by
    rw [performAll_replace_eq content hne] at hfails ⊢
    split
    · exact .refl d
    · rename_i hwrite
      split
      · refine alike_setSlot htemp ?_
        rw [Bool.not_eq_true, Bool.or_eq_false_iff] at hwrite
        exact hwrite.2.symm
      · rename_i hrename
        simp [hwrite, hrename] at hfails

end Effect

/-! ### Clean operations -/

/-- An operation that answers alike on states that are alike, and leaves them alike. -/
def Operation.Respects {σ ε α : Type} (R : σ → σ → Prop) (op : Operation σ ε α) : Prop :=
  ∀ ⦃s t : σ⦄, R s t → (op s).1 = (op t).1 ∧ R (op s).2 (op t).2

/-- An operation that treats states that are alike alike, and that leaves a state like the one
before if it fails. -/
structure Operation.Clean {σ ε α : Type} (R : σ → σ → Prop) (op : Operation σ ε α) : Prop where
  respects : Respects R op
  fails : ∀ s e, (op s).1 = .error e → R s (op s).2

namespace Operation

variable {σ ε α β : Type} {R : σ → σ → Prop} {op : Operation σ ε α}

/-- An operation, and then what cannot fail: another answer and a change of the state. -/
def andThen (op : Operation σ ε α) (f : α → β) (g : σ → σ) : Operation σ ε β := fun s =>
  match op s with
  | (.ok a, s) => (.ok (f a), g s)
  | (.error e, s) => (.error e, s)

theorem clean_answer (hrefl : ∀ s, R s s) (a : α) :
    Clean R (fun s => (.ok a, s) : Operation σ ε α) where
  respects _ _ h := ⟨rfl, h⟩
  fails s _ _ := hrefl s

/-- An operation that never fails is clean. -/
theorem clean_eq (h : ∀ s e, (op s).1 ≠ .error e) : Clean Eq op where
  respects := by
    rintro s t rfl
    exact ⟨rfl, rfl⟩
  fails s e he := absurd he (h s e)

theorem Clean.andThen (h : Clean R op) (f : α → β) {g : σ → σ}
    (hg : ∀ {s t}, R s t → R (g s) (g t)) : Clean R (andThen op f g) where
  respects s t hst := by
    obtain ⟨answer, s', t', hs, ht, hafter⟩ := outcomes_eq (h.respects hst)
    rw [Operation.andThen, Operation.andThen, hs, ht]
    cases answer with
    | ok a => exact ⟨rfl, hg hafter⟩
    | error e => exact ⟨rfl, hafter⟩
  fails s e hfails := by
    have hafter := h.fails s
    unfold Operation.andThen at hfails ⊢
    generalize op s = done at hfails hafter ⊢
    obtain ⟨_ | a, s⟩ := done
    · exact hafter _ rfl
    · simp at hfails

end Operation

/-- Media that nobody can tell a failure by afterwards. -/
class CleanMedium (σ : Type) extends Medium σ where
  /-- Stores that differ in nothing that is ever looked at. -/
  Alike : σ → σ → Prop
  alike_refl (s : σ) : Alike s s
  book_eq {s t : σ} : Alike s t → book s = book t
  clean_append (d : Draft) : Operation.Clean Alike (append d)
  clean_registerPublisher (p : String) : Operation.Clean Alike (registerPublisher p)
  clean_insertSheet (a : SheetAddress) (v : Visibility) : Operation.Clean Alike (insertSheet a v)
  clean_deleteSheet (id : Nat) : Operation.Clean Alike (deleteSheet id)
  respects_reopen : Operation.Respects Alike reopen
  alike_refuse {s t : σ} (r : Access → Bool) : Alike s t → Alike (refuse r s) (refuse r t)
  /-- Only the accesses that are refused now matter. -/
  refuse_refuse (r r' : Access → Bool) (s : σ) : refuse r' (refuse r s) = refuse r' s
  /-- Listing a publisher touches neither sheets nor entries. -/
  sheets_registerPublisher (p : String) (s : σ) :
    (book (registerPublisher p s).2).registry.sheets = (book s).registry.sheets
  entries_registerPublisher (p : String) (s : σ) :
    (book (registerPublisher p s).2).entries = (book s).entries

/-! ### The book itself -/

instance : CleanMedium Book where
  Alike := Eq
  alike_refl _ := rfl
  book_eq h := h
  clean_append _ := Operation.clean_eq (by simp [Store.append])
  clean_registerPublisher _ := Operation.clean_eq (by simp [Store.registerPublisher])
  clean_insertSheet _ _ := Operation.clean_eq (by simp [Store.insertSheet])
  clean_deleteSheet _ := Operation.clean_eq (by simp [Store.deleteSheet])
  respects_reopen := by
    rintro s t rfl
    exact ⟨rfl, rfl⟩
  alike_refuse _ h := h
  refuse_refuse _ _ _ := rfl
  sheets_registerPublisher p b := b.sheets_registerPublisher p
  entries_registerPublisher p b := b.entries_registerPublisher p

/-! ### The store on disk -/

namespace FileStore

/-- Stores that differ in temporary files at most. -/
structure Alike (s t : FileStore) : Prop where
  book : s.book = t.book
  disk : s.disk.Alike t.disk

theorem Alike.refl (s : FileStore) : Alike s s := ⟨rfl, .refl s.disk⟩

/-- An operation that makes effects, and changes the book if all of them are made. -/
theorem clean_of_effects {α : Type} {op : Operation FileStore StoreError α}
    (effects : Book → List Effect) (answer : Book → α) (after : Book → Book)
    (hop : ∀ s, op s = match s.disk.performAll (effects s.book) with
      | (true, disk) => (.ok (answer s.book), ⟨after s.book, disk⟩)
      | (false, disk) => (.error .io, ⟨s.book, disk⟩))
    (hclean : ∀ b, Effect.Clean (effects b)) : Operation.Clean Alike op where
  respects := by
    rintro ⟨b, disk⟩ ⟨_, disk'⟩ ⟨rfl, h⟩
    obtain ⟨ok, after, after', hdone, hdone', hdisk⟩ := outcomes_eq ((hclean b).respects h)
    rw [hop, hop, hdone, hdone']
    cases ok <;> exact ⟨rfl, rfl, hdisk⟩
  fails := by
    rintro ⟨b, disk⟩ e hfails
    have hdisk := (hclean b).fails disk
    rw [hop] at hfails ⊢
    simp only at hfails ⊢
    generalize disk.performAll (effects b) = done at hfails hdisk ⊢
    obtain ⟨ok, disk'⟩ := done
    cases ok with
    | true => simp at hfails
    | false => exact ⟨rfl, hdisk rfl⟩

theorem clean_append (d : Draft) : Operation.Clean Alike (append d) :=
  clean_of_effects (fun b => [.append .log (b.nextEntry d).line.toUTF8]) (·.nextEntry d)
    (fun b => b.addEntry (b.nextEntry d)) (fun _ => rfl) fun _ => Effect.clean_append rfl _

theorem clean_rewriteRegistry (g : Registry) : Effect.Clean (rewriteRegistry g) :=
  Effect.clean_replace (by decide) rfl g.render

theorem clean_rewriteLog (es : List LogEntry) : Effect.Clean (rewriteLog es) :=
  Effect.clean_replace (by decide) rfl (LogFile.render es)

theorem clean_commit (g : Registry) : Operation.Clean Alike (commit g) :=
  clean_of_effects (fun _ => rewriteRegistry g) (fun _ => ()) (fun b => { b with registry := g })
    (fun _ => rfl) fun _ => clean_rewriteRegistry g

/-- What an operation does may depend on the book: stores that are alike have one book. -/
theorem clean_of_book {α : Type} {op : Operation FileStore StoreError α}
    (h : ∀ b, ∃ op', Operation.Clean Alike op' ∧ ∀ disk, op ⟨b, disk⟩ = op' ⟨b, disk⟩) :
    Operation.Clean Alike op where
  respects := by
    rintro ⟨b, disk⟩ ⟨_, disk'⟩ ⟨rfl, halike⟩
    obtain ⟨op', hclean, hop⟩ := h b
    rw [hop, hop]
    exact hclean.respects ⟨rfl, halike⟩
  fails := by
    rintro ⟨b, disk⟩ e hfails
    obtain ⟨op', hclean, hop⟩ := h b
    rw [hop] at hfails ⊢
    exact hclean.fails _ e hfails

theorem clean_registerPublisher (p : String) : Operation.Clean Alike (registerPublisher p) := by
  refine clean_of_book fun b => ?_
  by_cases hknows : b.registry.knows p = true
  · exact ⟨_, Operation.clean_answer Alike.refl false,
      fun disk => by simp only [registerPublisher, hknows, if_true]⟩
  · refine ⟨_, (clean_commit (b.registry.addPublisher p)).andThen (fun _ => true) id,
      fun disk => ?_⟩
    simp only [registerPublisher, hknows, Operation.andThen]
    rcases commit (b.registry.addPublisher p) ⟨b, disk⟩ with ⟨_ | _, _⟩ <;> rfl

theorem clean_insertSheet (a : SheetAddress) (v : Visibility) :
    Operation.Clean Alike (insertSheet a v) := by
  refine clean_of_book fun b => ⟨_, (clean_commit (b.registry.addSheet a v)).andThen
    (fun _ => b.registry.nextSheet a v) id, fun disk => ?_⟩
  simp only [insertSheet, Operation.andThen]
  rcases commit (b.registry.addSheet a v) ⟨b, disk⟩ with ⟨_ | _, _⟩ <;> rfl

/-- The log is rewritten once the deletion counts. If that fails the deletion does not. -/
theorem clean_deleteSheet (id : Nat) : Operation.Clean Alike (deleteSheet id) := by
  refine clean_of_book fun b => ?_
  by_cases hid : b.registry.hasSheet id = true
  · refine ⟨_, (clean_commit (b.registry.removeSheet id)).andThen (fun _ => true)
      (g := fun s => ⟨{ s.book with entries := s.book.withoutSheet id },
        (s.disk.performAll (rewriteLog (s.book.withoutSheet id))).2⟩) ?_, fun disk => ?_⟩
    · rintro ⟨b, disk⟩ ⟨_, disk'⟩ ⟨rfl, h⟩
      exact ⟨rfl, ((clean_rewriteLog _).respects h).2⟩
    · simp only [deleteSheet, hid, if_true, Operation.andThen]
      rcases commit (b.registry.removeSheet id) ⟨b, disk⟩ with ⟨_ | _, _⟩ <;> rfl
  · exact ⟨_, Operation.clean_answer Alike.refl false,
      fun disk => by simp only [deleteSheet, hid]; rfl⟩

theorem respects_openDisk : Operation.Respects Disk.Alike openDisk := by
  intro d d' h
  have hregistry : readRegistry d = readRegistry d' := by
    rw [readRegistry, readRegistry, h.readText? rfl]
  have hlog : readLog d = readLog d' := by
    rw [readLog, readLog, h.readText? rfl]
  simp only [openDisk, hregistry, hlog]
  cases readRegistry d' with
  | error e => exact ⟨rfl, h⟩
  | ok g =>
    simp only
    rcases readLog d' with e | ⟨es, torn⟩
    · exact ⟨rfl, h⟩
    · simp only
      split
      · obtain ⟨ok, after, after', hdone, hdone', hdisk⟩ :=
          outcomes_eq ((clean_rewriteLog (es.filter fun e => g.hasSheet e.sheet)).respects h)
        rw [hdone, hdone']
        cases ok <;> exact ⟨rfl, hdisk⟩
      · exact ⟨rfl, h⟩

theorem respects_reopen : Operation.Respects Alike reopen := by
  rintro ⟨b, disk⟩ ⟨_, disk'⟩ ⟨rfl, h⟩
  obtain ⟨answer, after, after', hopen, hopen', hdisk⟩ := outcomes_eq (respects_openDisk h)
  rw [reopen, reopen, hopen, hopen']
  cases answer <;> exact ⟨rfl, rfl, hdisk⟩

theorem book_registerPublisher (p : String) (s : FileStore) :
    (registerPublisher p s).2.book = s.book ∨ (registerPublisher p s).2.book =
      { s.book with registry := s.book.registry.addPublisher p } := by
  unfold registerPublisher
  split
  · exact .inl rfl
  · unfold commit
    rcases s.disk.performAll (rewriteRegistry (s.book.registry.addPublisher p)) with ⟨_ | _, _⟩
    · exact .inl rfl
    · exact .inr rfl

instance : CleanMedium FileStore where
  Alike := Alike
  alike_refl := Alike.refl
  book_eq h := h.book
  clean_append := clean_append
  clean_registerPublisher := clean_registerPublisher
  clean_insertSheet := clean_insertSheet
  clean_deleteSheet := clean_deleteSheet
  respects_reopen := respects_reopen
  alike_refuse r h := ⟨h.book, h.disk.refuse r⟩
  refuse_refuse _ _ _ := rfl
  sheets_registerPublisher p s := by
    rcases book_registerPublisher p s with h | h <;> exact congrArg (·.registry.sheets) h
  entries_registerPublisher p s := by
    rcases book_registerPublisher p s with h | h <;> exact congrArg (·.entries) h

end FileStore

end SharedSheet
