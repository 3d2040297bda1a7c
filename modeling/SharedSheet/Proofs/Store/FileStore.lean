import Mathlib.Data.List.Induction
import SharedSheet.Proofs.Store.Book
import SharedSheet.Proofs.Store.LogFile
import SharedSheet.Store.FileStore

/-!
# Stores on disk and what their files hold

The book of a store on disk is in memory, and the files are brought up to date by several effects,
any of which may be refused. So the files do not always say what the book says: after a sheet is
deleted, entries of it may still be in the log's file, and the registry's file does not hear of
updates at all. `FileStore.Backed` says how far the two may be apart, namely so far that opening the
files again gives the same book.

Two of its clauses look like accidents and are not. Orphans are dropped for good when the files are
opened, and with them the numbers that they have; the registry's file has to remember these numbers
by itself. And a sheet that is made must not adopt orphans, so the sheets of all entries are bounded
by the last number that the registry's file knows.

## Main definitions

* `Disk.Steady` — nothing is refused
* `FileStore.Backed` — a registry and entries that are in the files, and the book that they make
* `FileStore.Intact` — there are such
* `FileStore.reopen` — the store that is opened on the same disk

## Main results

* `FileStore.Backed.append` and its siblings — each operation does to the book what the book's own
  operation does, or fails and leaves it
* `FileStore.Backed.reopen` — the book is the same after the files are opened again
-/

namespace SharedSheet

/-! ### Texts as bytes -/

theorem Slot.text?_file (s : String) : (Slot.file s.toUTF8).text? = some s := by
  simp [Slot.text?, String.fromUTF8?, s.isValidUTF8]
  rfl

theorem LogFile.toUTF8_render_concat (es : List LogEntry) (e : LogEntry) :
    (render (es ++ [e])).toUTF8 = (render es).toUTF8 ++ e.line.toUTF8 := by
  simp [render]

/-! ### Effects -/

/-- Whether a directory is in the place of a file. -/
def Slot.isDirectory : Slot → Bool
  | directory => true
  | _ => false

theorem Slot.isDirectory_eq_false {s : Slot} : s.isDirectory = false ↔ s ≠ .directory := by
  cases s <;> simp [isDirectory]

namespace Disk

/-- Nothing is refused. -/
def Steady (d : Disk) : Prop := ∀ a, d.refuses a = false

variable {d : Disk}

/-- What is put in a place twice. -/
theorem setSlot_setSlot (d : Disk) (f : FileName) (s s' : Slot) :
    (d.setSlot f s).setSlot f s' = d.setSlot f s' := by
  cases f <;> rfl

/-- A file is made, unless that is refused or a directory is in the way. -/
theorem perform?_write (d : Disk) (f : FileName) (content : ByteArray) :
    d.perform? (.write f content) =
      if d.refuses (.write f) || (d.slot f).isDirectory then none
      else some (d.setSlot f (.file content)) := by
  cases hrefused : d.refuses (.write f) <;> cases hslot : d.slot f <;>
    simp [perform?, Effect.access, Slot.write?, Slot.isDirectory, hrefused, hslot]

/-- A file that was just made is put in the place of another, unless that is refused or a directory
is in the way. -/
theorem perform?_rename_setSlot {temp target : FileName} (content : ByteArray)
    (hne : temp ≠ target) :
    (d.setSlot temp (.file content)).perform? (.rename temp target) =
      if d.refuses (.rename temp target) || (d.slot target).isDirectory then none
      else some ((d.setSlot temp .absent).setSlot target (.file content)) := by
  cases hrefused : d.refuses (.rename temp target) <;> cases hslot : d.slot target <;>
    simp [perform?, Effect.access, refuses_setSlot, slot_setSlot, setSlot_setSlot, hne.symm,
      Slot.isDirectory, hrefused, hslot]

/-- What replacing a file comes to: the temporary file cannot be made, or it cannot be put in place
and stays, or all is done. -/
theorem performAll_replace_eq {temp target : FileName} (content : String) (hne : temp ≠ target) :
    d.performAll (Effect.replace temp target content) =
      if d.refuses (.write temp) || (d.slot temp).isDirectory then (false, d)
      else if d.refuses (.rename temp target) || (d.slot target).isDirectory then
        (false, d.setSlot temp (.file content.toUTF8))
      else (true, (d.setSlot temp .absent).setSlot target (.file content.toUTF8)) := by
  simp only [Effect.replace, performAll, perform?_write]
  cases d.refuses (.write temp) || (d.slot temp).isDirectory with
  | true => rfl
  | false =>
    simp only [Bool.false_eq_true, if_false, perform?_rename_setSlot _ hne]
    cases d.refuses (.rename temp target) || (d.slot target).isDirectory <;> rfl

/-- A file is replaced, or everything but its temporary file is as it was. -/
theorem performAll_replace {temp target : FileName} (content : String) (hne : temp ≠ target)
    (htemp : d.slot temp ≠ .directory) (htarget : d.slot target ≠ .directory) :
    ∃ d', d'.refuses = d.refuses ∧ d'.slot temp ≠ .directory ∧
      (∀ f, f ≠ temp → f ≠ target → d'.slot f = d.slot f) ∧
      ((d.performAll (Effect.replace temp target content) = (true, d') ∧
          d'.slot target = .file content.toUTF8) ∨
        (d.performAll (Effect.replace temp target content) = (false, d') ∧
          d'.slot target = d.slot target ∧ ¬ d.Steady)) := by
  rw [performAll_replace_eq content hne, Slot.isDirectory_eq_false.2 htemp,
    Slot.isDirectory_eq_false.2 htarget, Bool.or_false, Bool.or_false]
  by_cases hwrite : d.refuses (.write temp) = true
  · rw [if_pos hwrite]
    exact ⟨d, rfl, htemp, fun _ _ _ => rfl, .inr ⟨rfl, rfl, fun h => by simp [h _] at hwrite⟩⟩
  · rw [if_neg hwrite]
    by_cases hrename : d.refuses (.rename temp target) = true
    · rw [if_pos hrename]
      refine ⟨_, refuses_setSlot .., ?_, fun f hf _ => ?_, .inr ⟨rfl, ?_, fun h => ?_⟩⟩
      · simp [slot_setSlot]
      · simp [slot_setSlot, hf]
      · simp [slot_setSlot, hne.symm]
      · simp [h _] at hrename
    · rw [if_neg hrename]
      refine ⟨_, ?_, ?_, fun f hf hf' => ?_, .inl ⟨rfl, ?_⟩⟩
      · simp [refuses_setSlot]
      · simp [slot_setSlot, hne]
      · simp [slot_setSlot, hf, hf']
      · simp [slot_setSlot]

end Disk

namespace FileStore

/-! ### Numbers recovered from the log -/

section Recovered

variable {g : Registry} {es : List LogEntry}

theorem recovered_concat (g : Registry) (es : List LogEntry) (e : LogEntry) :
    recovered g (es ++ [e]) = (recovered g es).noteUpdate e.id := by
  simp [recovered]

theorem recovered_eq (g : Registry) (es : List LogEntry) :
    recovered g es = { g with lastUpdateId := (recovered g es).lastUpdateId } := by
  induction es using List.reverseRecOn with
  | nil => rfl
  | append_singleton es e ih =>
    rw [recovered_concat, ih]
    rfl

@[simp] theorem hasSheet_recovered (id : Nat) : (recovered g es).hasSheet id = g.hasSheet id := by
  rw [recovered_eq]
  rfl

@[simp] theorem lastSheetId_recovered : (recovered g es).lastSheetId = g.lastSheetId := by
  rw [recovered_eq]

theorem recovered_le_iff {n : Nat} :
    (recovered g es).lastUpdateId ≤ n ↔ g.lastUpdateId ≤ n ∧ ∀ e ∈ es, e.id ≤ n := by
  induction es using List.reverseRecOn with
  | nil => simp [recovered]
  | append_singleton es e ih =>
    rw [recovered_concat, Registry.noteUpdate, Nat.max_le, ih]
    simp only [List.mem_append, List.mem_singleton]
    constructor
    · rintro ⟨⟨hg, hes⟩, he⟩
      exact ⟨hg, fun f hf => hf.elim (hes f) fun h => h ▸ he⟩
    · rintro ⟨hg, hes⟩
      exact ⟨⟨hg, fun f hf => hes f (.inl hf)⟩, hes e (.inr rfl)⟩

theorem id_le_recovered {e : LogEntry} (he : e ∈ es) : e.id ≤ (recovered g es).lastUpdateId :=
  (recovered_le_iff.1 (Nat.le_refl _)).2 e he

/-- A registry that knows all numbers recovers nothing. -/
theorem recovered_eq_self (h : ∀ e ∈ es, e.id ≤ g.lastUpdateId) : recovered g es = g := by
  have hle := recovered_le_iff.2 ⟨Nat.le_refl _, h⟩
  have hge := (recovered_le_iff.1 (Nat.le_refl (recovered g es).lastUpdateId)).1
  rw [recovered_eq, Nat.le_antisymm hle hge]

/-- Entries whose numbers the registry knows are not missed. -/
theorem recovered_filter {keep : LogEntry → Bool}
    (h : ∀ e ∈ es, keep e = false → e.id ≤ g.lastUpdateId) :
    recovered g (es.filter keep) = recovered g es := by
  have hle : (recovered g (es.filter keep)).lastUpdateId ≤ (recovered g es).lastUpdateId :=
    recovered_le_iff.2 ⟨(recovered_le_iff.1 (Nat.le_refl _)).1,
      fun e he => id_le_recovered (List.mem_filter.1 he).1⟩
  have hge : (recovered g es).lastUpdateId ≤ (recovered g (es.filter keep)).lastUpdateId := by
    refine recovered_le_iff.2 ⟨(recovered_le_iff.1 (Nat.le_refl _)).1, fun e he => ?_⟩
    cases hkeep : keep e with
    | true => exact id_le_recovered (List.mem_filter.2 ⟨he, hkeep⟩)
    | false => exact Nat.le_trans (h e he hkeep) (recovered_le_iff.1 (Nat.le_refl _)).1
  rw [recovered_eq, recovered_eq g es, Nat.le_antisymm hle hge]

end Recovered

/-! ### What the files hold -/

/-- The registry `g` and the entries `es` are in the files, and they make the book. -/
structure Backed (s : FileStore) (g : Registry) (es : List LogEntry) : Prop where
  registry : s.disk.slot .registry = .file g.render.toUTF8 ∨
    s.disk.slot .registry = .absent ∧ g = {}
  log : s.disk.slot .log = .file (LogFile.render es).toUTF8 ∨
    s.disk.slot .log = .absent ∧ es = []
  registryTemp : s.disk.slot .registryTemp ≠ .directory
  logTemp : s.disk.slot .logTemp ≠ .directory
  /-- The registry of the book has the numbers of the entries besides. -/
  recovered : s.book.registry = recovered g es
  /-- The book has the entries that are no orphans. -/
  kept : s.book.entries = es.filter fun e => g.hasSheet e.sheet
  ascending : es.Pairwise (·.id < ·.id)
  /-- No sheet that is still to be made has entries. -/
  sheet_le : ∀ e ∈ es, e.sheet ≤ g.lastSheetId
  /-- The numbers of orphans are remembered. -/
  orphan_le : ∀ e ∈ es, g.hasSheet e.sheet = false → e.id ≤ g.lastUpdateId

/-- The files hold what makes the book. -/
def Intact (s : FileStore) : Prop := ∃ g es, s.Backed g es

namespace Backed

variable {s : FileStore} {g : Registry} {es : List LogEntry}

theorem registry_ne_directory (h : s.Backed g es) : s.disk.slot .registry ≠ .directory := by
  rcases h.registry with h | ⟨h, -⟩ <;> simp [h]

theorem log_ne_directory (h : s.Backed g es) : s.disk.slot .log ≠ .directory := by
  rcases h.log with h | ⟨h, -⟩ <;> simp [h]

theorem id_le (h : s.Backed g es) {e : LogEntry} (he : e ∈ es) :
    e.id ≤ s.book.registry.lastUpdateId := by
  rw [h.recovered]
  exact id_le_recovered he

/-- The files are the same for a disk that holds the same in its four places. -/
theorem of_slots (h : s.Backed g es) {d : Disk}
    (hregistry : d.slot .registry = s.disk.slot .registry)
    (hlog : d.slot .log = s.disk.slot .log) (hregistryTemp : d.slot .registryTemp ≠ .directory)
    (hlogTemp : d.slot .logTemp ≠ .directory) : Backed ⟨s.book, d⟩ g es where
  registry := by rw [hregistry]; exact h.registry
  log := by rw [hlog]; exact h.log
  registryTemp := hregistryTemp
  logTemp := hlogTemp
  recovered := h.recovered
  kept := h.kept
  ascending := h.ascending
  sheet_le := h.sheet_le
  orphan_le := h.orphan_le

/-! ### Operations -/

/-- The next entry in the book and in the log's file. -/
theorem addEntry (h : s.Backed g es) (hbook : s.book.Sound) {d : Draft}
    (hsheet : s.book.registry.hasSheet d.sheet = true) :
    Backed ⟨(s.book.append d).2,
        s.disk.setSlot .log (.file (LogFile.render (es ++ [s.book.nextEntry d])).toUTF8)⟩
      g (es ++ [s.book.nextEntry d]) := by
  have hhome : g.hasSheet d.sheet = true := by
    rwa [h.recovered, hasSheet_recovered] at hsheet
  constructor
  · simpa [Disk.slot_setSlot] using h.registry
  · simp [Disk.slot_setSlot]
  · simpa [Disk.slot_setSlot] using h.registryTemp
  · simpa [Disk.slot_setSlot] using h.logTemp
  · rw [recovered_concat, ← h.recovered]
    rfl
  · have : (s.book.append d).2.entries = s.book.entries ++ [s.book.nextEntry d] := rfl
    simp [this, h.kept, Book.nextEntry, hhome]
  · refine List.pairwise_append.2 ⟨h.ascending, by simp, fun e he f hf => ?_⟩
    rw [List.mem_singleton.1 hf]
    exact Nat.lt_succ_of_le (h.id_le he)
  · intro e he
    rcases List.mem_append.1 he with he | he
    · exact h.sheet_le e he
    · have := hbook.registry.le_of_hasSheet hsheet
      rw [h.recovered, lastSheetId_recovered] at this
      rw [List.mem_singleton.1 he]
      exact this
  · intro e he horphan
    rcases List.mem_append.1 he with he | he
    · exact h.orphan_le e he horphan
    · rw [List.mem_singleton.1 he] at horphan
      exact absurd hhome (Bool.eq_false_iff.1 horphan)

/-- An entry is appended to the log's file, or nothing happens. -/
theorem append (h : s.Backed g es) (hbook : s.book.Sound) {d : Draft}
    (hsheet : s.book.registry.hasSheet d.sheet = true) :
    ∃ disk, disk.refuses = s.disk.refuses ∧
      ((FileStore.append d s = (.ok (s.book.nextEntry d), ⟨(s.book.append d).2, disk⟩) ∧
          Intact ⟨(s.book.append d).2, disk⟩) ∨
        (FileStore.append d s = (.error .io, ⟨s.book, disk⟩) ∧ Intact ⟨s.book, disk⟩ ∧
          ¬ s.disk.Steady)) := by
  by_cases hrefused : s.disk.refuses (.append .log) = true
  · refine ⟨s.disk, rfl, .inr ⟨?_, ⟨g, es, h⟩, fun hsteady => ?_⟩⟩
    · simp [FileStore.append, Disk.performAll, Disk.perform?, Effect.access, hrefused]
    · simp [hsteady _] at hrefused
  · have hfile : s.disk.perform? (.append .log (s.book.nextEntry d).line.toUTF8) =
        some (s.disk.setSlot .log
          (.file (LogFile.render (es ++ [s.book.nextEntry d])).toUTF8)) := by
      rw [LogFile.toUTF8_render_concat]
      rcases h.log with hlog | ⟨hlog, rfl⟩
      · simp [Disk.perform?, Effect.access, hrefused, hlog, Slot.append?]
      · simp [Disk.perform?, Effect.access, hrefused, hlog, Slot.append?, LogFile.render]
    refine ⟨s.disk.setSlot .log (.file (LogFile.render (es ++ [s.book.nextEntry d])).toUTF8),
      Disk.refuses_setSlot .., .inl ⟨?_, ⟨g, _, h.addEntry hbook hsheet⟩⟩⟩
    simp only [FileStore.append, Disk.performAll, hfile]
    rfl

/-- The registry's file is replaced, or nothing happens. The entries in the log's file that are none
of a sheet of the new registry are orphans from then on. -/
theorem commit (h : s.Backed g es) (g' : Registry)
    (hupdate : g'.lastUpdateId = s.book.registry.lastUpdateId)
    (hsheet : s.book.registry.lastSheetId ≤ g'.lastSheetId) :
    ∃ disk, disk.refuses = s.disk.refuses ∧
      ((FileStore.commit g' s = (.ok (), ⟨{ s.book with registry := g' }, disk⟩) ∧
          Backed ⟨⟨g', es.filter fun e => g'.hasSheet e.sheet⟩, disk⟩ g' es) ∨
        (FileStore.commit g' s = (.error .io, ⟨s.book, disk⟩) ∧ Backed ⟨s.book, disk⟩ g es ∧
          ¬ s.disk.Steady)) := by
  obtain ⟨disk, hrefuses, htemp, hother, hdone | hfailed⟩ :=
    Disk.performAll_replace g'.render (show FileName.registryTemp ≠ .registry by decide)
      h.registryTemp h.registry_ne_directory
  · have hids : ∀ e ∈ es, e.id ≤ g'.lastUpdateId := fun e he => hupdate ▸ h.id_le he
    refine ⟨disk, hrefuses, .inl ⟨by simp only [FileStore.commit, rewriteRegistry, hdone.1], ?_⟩⟩
    constructor
    · exact .inl hdone.2
    · rw [hother _ (by decide) (by decide)]
      exact h.log
    · exact htemp
    · rw [hother _ (by decide) (by decide)]
      exact h.logTemp
    · exact (recovered_eq_self hids).symm
    · rfl
    · exact h.ascending
    · intro e he
      rw [h.recovered, lastSheetId_recovered] at hsheet
      exact Nat.le_trans (h.sheet_le e he) hsheet
    · exact fun e he _ => hids e he
  · refine ⟨disk, hrefuses, .inr ⟨by simp only [FileStore.commit, rewriteRegistry, hfailed.1],
      h.of_slots hfailed.2.1 (hother _ (by decide) (by decide)) htemp ?_, hfailed.2.2⟩⟩
    rw [hother _ (by decide) (by decide)]
    exact h.logTemp

/-- The log's file loses its orphans, or keeps them. -/
theorem rewriteLog (h : s.Backed g es) :
    ∃ disk, disk.refuses = s.disk.refuses ∧ Intact ⟨s.book, disk⟩ ∧
      (s.disk.performAll (FileStore.rewriteLog s.book.entries) = (true, disk) ∨
        s.disk.performAll (FileStore.rewriteLog s.book.entries) = (false, disk) ∧
          ¬ s.disk.Steady) := by
  obtain ⟨disk, hrefuses, htemp, hother, hdone | hfailed⟩ :=
    Disk.performAll_replace (LogFile.render s.book.entries)
      (show FileName.logTemp ≠ .log by decide) h.logTemp h.log_ne_directory
  · refine ⟨disk, hrefuses, ⟨g, s.book.entries, ?_⟩, .inl hdone.1⟩
    have hkept : ∀ e ∈ s.book.entries, e ∈ es ∧ g.hasSheet e.sheet = true := fun e he => by
      rw [h.kept] at he
      exact List.mem_filter.1 he
    constructor
    · rw [hother _ (by decide) (by decide)]
      exact h.registry
    · exact .inl hdone.2
    · rw [hother _ (by decide) (by decide)]
      exact h.registryTemp
    · exact htemp
    · rw [h.kept, recovered_filter h.orphan_le]
      exact h.recovered
    · exact (List.filter_eq_self.2 fun e he => (hkept e he).2).symm
    · rw [h.kept]
      exact h.ascending.filter _
    · exact fun e he => h.sheet_le e (hkept e he).1
    · exact fun e he => h.orphan_le e (hkept e he).1
  · refine ⟨disk, hrefuses, ⟨g, es, h.of_slots (hother _ (by decide) (by decide)) hfailed.2.1 ?_
      htemp⟩, .inr ⟨hfailed.1, hfailed.2.2⟩⟩
    rw [hother _ (by decide) (by decide)]
    exact h.registryTemp

/-! ### Opening again -/

theorem readRegistry_eq_ok (h : s.Backed g es) {g' : Registry}
    (hread : readRegistry s.disk = .ok g') : g' = g ∧ g.lastSheetId < UInt64.size := by
  unfold readRegistry Disk.readText? at hread
  by_cases hrefused : s.disk.refuses (.read .registry) = true
  · simp [hrefused] at hread
  · rcases h.registry with hslot | ⟨hslot, rfl⟩
    · simp only [hrefused, hslot, Slot.text?_file, Option.map_some, Bool.false_eq_true,
        if_false] at hread
      cases hparse : Registry.parse g.render with
      | error e => simp [hparse] at hread
      | ok g'' =>
        obtain ⟨hfits, rfl⟩ := (g.parse_render_eq_ok_iff g'').1 hparse
        simp only [hparse, Except.ok.injEq] at hread
        exact ⟨hread.symm, hfits.lastSheetId⟩
    · simp only [hrefused, hslot, Bool.false_eq_true, if_false, Except.ok.injEq] at hread
      exact ⟨hread.symm, by simp⟩

/-- The registry can be read if its numbers fit. -/
theorem readRegistry_of_fits (h : s.Backed g es) (hsteady : s.disk.Steady)
    (hfits : s.book.registry.Fits) : readRegistry s.disk = .ok g := by
  have hg : g.Fits := by
    rw [h.recovered, recovered_eq] at hfits
    have hupdate : g.lastUpdateId ≤ (FileStore.recovered g es).lastUpdateId :=
      (recovered_le_iff.1 (Nat.le_refl _)).1
    exact ⟨hfits.sheets, hfits.lastSheetId, Nat.lt_of_le_of_lt hupdate hfits.lastUpdateId⟩
  have hparse : Registry.parse g.render = .ok g := (g.parse_render_eq_ok_iff g).2 ⟨hg, rfl⟩
  unfold readRegistry Disk.readText?
  rcases h.registry with hslot | ⟨hslot, rfl⟩
  · simp [hsteady _, hslot, Slot.text?_file, hparse, -String.toUTF8_eq_toByteArray]
  · simp [hsteady _, hslot]

/-- The log can be read if its numbers fit. -/
theorem readLog_eq (h : s.Backed g es) (hupdate : s.book.registry.lastUpdateId < UInt64.size)
    (hsheet : g.lastSheetId < UInt64.size) :
    readLog s.disk = .ok (es, false) ∨ readLog s.disk = .error .io ∧ ¬ s.disk.Steady := by
  have hparse : LogFile.parse (LogFile.render es) = .ok (es, false) :=
    LogFile.parse_render (h.ascending.imp Nat.le_of_lt) fun e he =>
      ⟨Nat.lt_of_le_of_lt (h.id_le he) hupdate, Nat.lt_of_le_of_lt (h.sheet_le e he) hsheet⟩
  unfold readLog Disk.readText?
  by_cases hrefused : s.disk.refuses (.read .log) = true
  · exact .inr ⟨by simp [hrefused], fun hsteady => by simp [hsteady _] at hrefused⟩
  · refine .inl ?_
    rcases h.log with hslot | ⟨hslot, rfl⟩
    · simp [hrefused, hslot, Slot.text?_file, hparse, -String.toUTF8_eq_toByteArray]
    · simp [hrefused, hslot]

/-- The disk is opened again with the same book, or it is not opened. -/
theorem openDisk (h : s.Backed g es) (hupdate : s.book.registry.lastUpdateId < UInt64.size) :
    ∃ disk, disk.refuses = s.disk.refuses ∧ Intact ⟨s.book, disk⟩ ∧
      (FileStore.openDisk s.disk = (.ok s.book, disk) ∨
        ∃ e, FileStore.openDisk s.disk = (.error e, disk) ∧
          ¬ (s.disk.Steady ∧ s.book.registry.Fits)) := by
  cases hread : readRegistry s.disk with
  | error e =>
    refine ⟨s.disk, rfl, ⟨g, es, h⟩, .inr ⟨e, by simp [FileStore.openDisk, hread], ?_⟩⟩
    rintro ⟨hsteady, hfits⟩
    simp [h.readRegistry_of_fits hsteady hfits] at hread
  | ok g' =>
    obtain ⟨rfl, hsheet⟩ := h.readRegistry_eq_ok hread
    have hbook : (⟨FileStore.recovered g' es, es.filter fun e => g'.hasSheet e.sheet⟩ : Book) =
        s.book := by rw [← h.recovered, ← h.kept]
    rcases h.readLog_eq hupdate hsheet with hlog | ⟨hlog, hsteady⟩
    · obtain ⟨disk, hrefuses, hintact, hdone | ⟨hfailed, hsteady⟩⟩ := h.rewriteLog
      · by_cases horphans : (es.filter fun e => g'.hasSheet e.sheet).length = es.length
        · exact ⟨s.disk, rfl, ⟨g', es, h⟩,
            .inl (by simp [FileStore.openDisk, hread, hlog, horphans, hbook])⟩
        · rw [h.kept] at hdone
          exact ⟨disk, hrefuses, hintact,
            .inl (by simp [FileStore.openDisk, hread, hlog, horphans, hbook, hdone])⟩
      · by_cases horphans : (es.filter fun e => g'.hasSheet e.sheet).length = es.length
        · exact ⟨s.disk, rfl, ⟨g', es, h⟩,
            .inl (by simp [FileStore.openDisk, hread, hlog, horphans, hbook])⟩
        · rw [h.kept] at hfailed
          exact ⟨disk, hrefuses, hintact, .inr ⟨.io,
            by simp [FileStore.openDisk, hread, hlog, horphans, hfailed], fun hs => hsteady hs.1⟩⟩
    · exact ⟨s.disk, rfl, ⟨g', es, h⟩, .inr ⟨.io, by simp [FileStore.openDisk, hread, hlog],
        fun hs => hsteady hs.1⟩⟩

end Backed

/-- The store that is opened on the same disk. If it cannot be opened nothing is known of its book
but that it was there before. -/
def reopen : Operation FileStore StoreError Unit := fun s =>
  match openDisk s.disk with
  | (.ok book, disk) => (.ok (), ⟨book, disk⟩)
  | (.error e, disk) => (.error e, ⟨s.book, disk⟩)

end FileStore

end SharedSheet
