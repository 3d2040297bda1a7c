import SharedSheet.Proofs.Payload
import SharedSheet.Proofs.Registry
import SharedSheet.Store.Basic

/-!
# What holds of every book

The entries of a book stand in the order of their numbers, no number is beyond the last one given,
every entry is one of a sheet that is there, and its payload can be read. The last two are
conditions under which an entry may be added, and the service checks both before it adds one.

What the accepted entries of a sheet say is `Book.acceptedOf`. Everything that callers are told of
the accepted state is a function of this list, so what each operation does to it is spelled out
here once.

## Main definitions

* `LogEntry.edits` — the changes of an entry
* `Book.untimed` — a book without the times of its entries
* `Book.acceptedOf` — the accepted entries of a sheet
* `Book.Sound` — entries are numbered in order, homed and readable

## Main results

* `Book.Sound.append` and its siblings — the operations keep soundness
* `Book.acceptedOf_append` and its siblings — what they do to accepted entries
-/

namespace SharedSheet

/-- The changes of a payload, none if it cannot be read. -/
def Payload.edits (payload : String) : List Edit :=
  match parse payload with
  | .ok es => es
  | .error _ => []

/-- A payload that can be read and has changes. -/
def Payload.IsUpdate (payload : String) : Prop :=
  parse payload = .ok (edits payload) ∧ edits payload ≠ []

theorem Payload.edits_of_parse {payload : String} {es : List Edit} (h : parse payload = .ok es) :
    edits payload = es := by
  rw [edits, h]

theorem Payload.isSound_of_mem_edits {payload : String} {e : Edit} (h : e ∈ edits payload) :
    e.IsSound := by
  unfold edits at h
  split at h
  · exact isSound_of_parse (by assumption) h
  · simp at h

/-- An update without its time. -/
def Draft.untimed (d : Draft) : Draft := { d with timestamp := .epoch }

namespace LogEntry

/-- An entry without its time. -/
def untimed (e : LogEntry) : LogEntry := { e with timestamp := .epoch }

/-- The changes of an entry. -/
def edits (e : LogEntry) : List Edit := Payload.edits e.payload

/-- Entries up to a number come before the others. -/
theorem filter_le_append_filter_lt {es : List LogEntry} (hsorted : es.Pairwise (·.id < ·.id))
    (n : Nat) : es.filter (·.id ≤ n) ++ es.filter (n < ·.id) = es := by
  induction es with
  | nil => rfl
  | cons e es ih =>
    obtain ⟨hlt, hsorted⟩ := List.pairwise_cons.1 hsorted
    by_cases he : e.id ≤ n
    · have hnot : ¬ n < e.id := Nat.not_lt_of_le he
      simp [he, ih hsorted]
    · have hnone : es.filter (·.id ≤ n) = [] := List.filter_eq_nil_iff.2 fun f hf => by
        have := hlt f hf
        simp only [decide_eq_true_eq]
        omega
      have hall : es.filter (n < ·.id) = es := List.filter_eq_self.2 fun f hf => by
        have := hlt f hf
        simp only [decide_eq_true_eq]
        omega
      have hlt : n < e.id := Nat.lt_of_not_le he
      simp [he, hlt, hnone, hall]

end LogEntry

namespace Book

variable {b : Book}

/-- The accepted entries of a sheet. -/
def acceptedOf (b : Book) (sheet : Nat) : List LogEntry :=
  b.entries.filter fun e => e.accepted && e.sheet == sheet

theorem mem_acceptedOf {sheet : Nat} {e : LogEntry} :
    e ∈ b.acceptedOf sheet ↔ e ∈ b.entries ∧ e.accepted = true ∧ e.sheet = sheet := by
  simp [acceptedOf]

/-! ### What operations do to accepted entries -/

theorem acceptedOf_append (d : Draft) (sheet : Nat) :
    (b.append d).2.acceptedOf sheet =
      b.acceptedOf sheet ++ if d.accepted ∧ d.sheet = sheet then [b.nextEntry d] else [] := by
  simp only [append, addEntry, acceptedOf, List.filter_append, List.filter_cons, List.filter_nil,
    Bool.and_eq_true, beq_iff_eq]
  rfl

@[simp] theorem sheets_registerPublisher (p : String) :
    (b.registerPublisher p).2.registry.sheets = b.registry.sheets := by
  unfold registerPublisher
  split <;> rfl

@[simp] theorem entries_registerPublisher (p : String) :
    (b.registerPublisher p).2.entries = b.entries := by
  unfold registerPublisher
  split <;> rfl

@[simp] theorem acceptedOf_registerPublisher (p : String) (sheet : Nat) :
    (b.registerPublisher p).2.acceptedOf sheet = b.acceptedOf sheet := by
  rw [acceptedOf, acceptedOf, entries_registerPublisher]

@[simp] theorem acceptedOf_insertSheet (a : SheetAddress) (v : Visibility) (sheet : Nat) :
    (b.insertSheet a v).2.acceptedOf sheet = b.acceptedOf sheet := rfl

theorem acceptedOf_deleteSheet {id sheet : Nat} (h : sheet ≠ id) :
    (b.deleteSheet id).2.acceptedOf sheet = b.acceptedOf sheet := by
  simp only [deleteSheet, acceptedOf, withoutSheet, List.filter_filter]
  refine List.filter_congr fun e _ => ?_
  by_cases he : e.sheet = sheet
  · simp [he, h]
  · simp [he]

/-! ### Soundness -/

/-- What holds of the entries and of the next one holds of all entries when it is appended. -/
theorem forall_mem_append {p : LogEntry → Prop} {d : Draft} (hold : ∀ e ∈ b.entries, p e)
    (hnext : p (b.nextEntry d)) : ∀ e ∈ (b.append d).2.entries, p e := by
  intro e he
  rcases List.mem_append.1 he with he | he
  · exact hold e he
  · rw [List.mem_singleton.1 he]
    exact hnext

/-- What holds of every book. -/
structure Sound (b : Book) : Prop where
  registry : b.registry.Sound
  /-- Entries stand in the order of their numbers. -/
  ascending : b.entries.Pairwise (·.id < ·.id)
  /-- No entry has the number zero. -/
  id_pos : ∀ e ∈ b.entries, 0 < e.id
  /-- The registry remembers the last number. -/
  id_le : ∀ e ∈ b.entries, e.id ≤ b.registry.lastUpdateId
  /-- Every entry is one of a sheet that is there. -/
  homed : ∀ e ∈ b.entries, b.registry.hasSheet e.sheet = true
  /-- Every entry can be read and changes something. -/
  readable : ∀ e ∈ b.entries, Payload.IsUpdate e.payload

namespace Sound

theorem empty : Sound {} := by
  refine ⟨.empty, ?_, ?_, ?_, ?_, ?_⟩ <;> simp

theorem append (h : b.Sound) {d : Draft} (hsheet : b.registry.hasSheet d.sheet = true)
    (hpayload : Payload.IsUpdate d.payload) : (b.append d).2.Sound where
  registry := h.registry.noteUpdate _
  ascending := by
    refine List.pairwise_append.2 ⟨h.ascending, by simp, fun e he f hf => ?_⟩
    rw [List.mem_singleton.1 hf]
    exact Nat.lt_succ_of_le (h.id_le e he)
  id_pos := forall_mem_append h.id_pos (Nat.succ_pos _)
  id_le := forall_mem_append (fun e he => Nat.le_trans (h.id_le e he) (Nat.le_max_left _ _))
    (Nat.le_max_right _ _)
  homed := forall_mem_append h.homed hsheet
  readable := forall_mem_append h.readable hpayload

theorem registerPublisher (h : b.Sound) (p : String) : (b.registerPublisher p).2.Sound := by
  unfold Book.registerPublisher
  split
  · exact h
  · rename_i hp
    exact { h with registry := h.registry.addPublisher (Bool.eq_false_iff.2 hp) }

theorem insertSheet (h : b.Sound) {a : SheetAddress} (v : Visibility)
    (howner : b.registry.knows a.publisher = true)
    (hfree : ∀ s ∈ b.registry.sheets, s.address ≠ a) : (b.insertSheet a v).2.Sound where
  registry := h.registry.addSheet v howner hfree
  ascending := h.ascending
  id_pos := h.id_pos
  id_le := h.id_le
  homed e he := by
    rw [Book.insertSheet, Registry.hasSheet_addSheet, h.homed e he]
    rfl
  readable := h.readable

theorem deleteSheet (h : b.Sound) (id : Nat) : (b.deleteSheet id).2.Sound where
  registry := h.registry.removeSheet id
  ascending := h.ascending.filter _
  id_pos e he := h.id_pos e (List.mem_filter.1 he).1
  id_le e he := h.id_le e (List.mem_filter.1 he).1
  homed e he := by
    obtain ⟨he, hne⟩ := List.mem_filter.1 he
    rw [Book.deleteSheet, Registry.hasSheet_removeSheet, h.homed e he, hne]
    rfl
  readable e he := h.readable e (List.mem_filter.1 he).1

theorem ascending_acceptedOf (h : b.Sound) (sheet : Nat) :
    (b.acceptedOf sheet).Pairwise (·.id < ·.id) :=
  h.ascending.filter _

/-- A sheet that does not exist yet has no entries. -/
theorem acceptedOf_eq_nil (h : b.Sound) {sheet : Nat} (hsheet : b.registry.hasSheet sheet = false) :
    b.acceptedOf sheet = [] := by
  refine List.filter_eq_nil_iff.2 fun e he => ?_
  have := h.homed e he
  simp only [Bool.and_eq_true, beq_iff_eq, not_and]
  rintro - rfl
  simp [hsheet] at this

end Sound

/-! ### Without times -/

/-- A book without the times of its entries. -/
def untimed (b : Book) : Book := { b with entries := b.entries.map LogEntry.untimed }

theorem sheetUpdates_untimed (id : Nat) (scope : Scope) (after : Nat) :
    b.untimed.sheetUpdates id scope after =
      (b.sheetUpdates id scope after).map LogEntry.untimed := by
  rw [sheetUpdates, untimed, List.filter_map]
  cases scope <;> rfl

end Book

end SharedSheet
