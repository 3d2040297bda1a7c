import SharedSheet.Proofs.Store.Files

/-!
# The book and its files

The book of a store on disk is in memory, and its files need not say the same. Entries of a sheet that
was deleted may still be in the log's file, and the registry's file does not hear of updates. That
much `Book.Mirrors` allows. It holds of every book and its files, whatever was appended to the store:
also of entries of sheets that are not there, which the store takes like any others.

What is made of the files when they are opened are the entries of the sheets that are there. So the
book that is opened has the entries of the old one, less those of sheets that are not there; these are
dropped, and with them the numbers they have. A number that was given before is only known to be
remembered if the registry's file knows it, or if an entry that is not dropped has at least that
number. `Book.Mirrors` keeps track of one number `u`. If `lasting` holds, the entry that remembers it
is one of a sheet that is there, and then it is remembered for good. Otherwise it is in danger until
the book's newest entry is one that lasts.

## Main definitions

* `Registry.retired` — numbers of sheets that are gone
* `Book.Mirrors` — how a book and its files may differ

## Main results

* `Book.Mirrors.perform` — what a call leaves in the book and in the files
* `Book.Mirrors.performUntil` — what a crash in the middle of a call leaves in the files
* `Book.Mirrors.reopened` — the book that is opened
-/

namespace SharedSheet

/-- The number of a sheet that is gone. -/
def Registry.retired (g : Registry) (id : Nat) : Bool := id ≤ g.lastSheetId && !g.hasSheet id

namespace Book

/-- A book, and the registry and the entries in its files. The number `u` of an update is remembered
in them. -/
structure Mirrors (lasting : Prop) (u : Nat) (b : Book) (g : Registry) (es : List LogEntry) :
    Prop where
  /-- The book may know of more updates than the registry's file. -/
  registry : b.registry = { g with lastUpdateId := b.registry.lastUpdateId }
  lastUpdateId_le : g.lastUpdateId ≤ b.registry.lastUpdateId
  id_le : ∀ e ∈ es, e.id ≤ b.registry.lastUpdateId
  readable : LogFile.Readable es
  sublist : b.entries.Sublist es
  /-- Entries that the book does not have are ones of sheets that are gone. -/
  kept : es.filter (fun e => !g.retired e.sheet) = b.entries.filter fun e => !g.retired e.sheet
  sheet_le : ∀ s ∈ g.sheets, s.id ≤ g.lastSheetId
  recalls : u ≤ g.lastUpdateId ∨
    ∃ e ∈ b.entries, (lasting → g.hasSheet e.sheet = true) ∧ u ≤ e.id

/-- The newest entry is one of a sheet that is there. -/
def NewestHomed (b : Book) : Prop :=
  ∀ e ∈ b.entries.getLast?, b.registry.hasSheet e.sheet = true

/-- All entries are ones of sheets that are there. -/
def Homed (b : Book) : Prop := ∀ e ∈ b.entries, b.registry.hasSheet e.sheet = true

theorem Homed.newestHomed {b : Book} (h : b.Homed) : b.NewestHomed :=
  fun e he => h e (List.mem_of_getLast? he)

theorem mirrors_empty (lasting : Prop) : Mirrors lasting 0 {} {} [] where
  registry := rfl
  lastUpdateId_le := Nat.le_refl _
  id_le := by simp
  readable := .nil
  sublist := .refl _
  kept := rfl
  sheet_le := by simp
  recalls := .inl (Nat.le_refl _)

/-! ### Changes of the registry -/

/-- What becomes of a book when its registry is changed and entries of sheets that are gone are
dropped. -/
structure Changes (b b' : Book) : Prop where
  lastUpdateId : b'.registry.lastUpdateId = b.registry.lastUpdateId
  lastSheetId_le : b.registry.lastSheetId ≤ b'.registry.lastSheetId
  sheet_le : ∀ s ∈ b'.registry.sheets, s.id ≤ b'.registry.lastSheetId
  retired : ∀ id, b.registry.retired id = true → b'.registry.retired id = true
  sublist : b'.entries.Sublist b.entries
  kept : b.entries.filter (fun e => !b'.registry.retired e.sheet) =
    b'.entries.filter fun e => !b'.registry.retired e.sheet
  homed : b.Homed → b'.Homed

section Changes

variable {b : Book} (hb : ∀ s ∈ b.registry.sheets, s.id ≤ b.registry.lastSheetId)
include hb

theorem changes_addPublisher (p : String) :
    b.Changes { b with registry := b.registry.addPublisher p } where
  lastUpdateId := rfl
  lastSheetId_le := Nat.le_refl _
  sheet_le := hb
  retired _ h := h
  sublist := .refl _
  kept := rfl
  homed h := h

theorem changes_addSheet (a : SheetAddress) (v : Visibility) :
    b.Changes { b with registry := b.registry.addSheet a v } where
  lastUpdateId := rfl
  lastSheetId_le := Nat.le_succ _
  sheet_le := Registry.forall_mem_addSheet (fun s hs => Nat.le_succ_of_le (hb s hs))
    (Nat.le_refl _)
  retired id h := by
    simp only [Registry.retired, Bool.and_eq_true, decide_eq_true_eq, Bool.not_eq_true',
      Registry.hasSheet_addSheet, Bool.or_eq_false_iff, beq_eq_false_iff_ne] at h ⊢
    refine ⟨Nat.le_succ_of_le h.1, h.2, ?_⟩
    omega
  sublist := .refl _
  kept := rfl
  homed h e he := by
    rw [Registry.hasSheet_addSheet, h e he]
    rfl

theorem changes_removeSheet {id : Nat} (hid : b.registry.hasSheet id = true) :
    b.Changes { registry := b.registry.removeSheet id, entries := b.withoutSheet id } where
  lastUpdateId := rfl
  lastSheetId_le := Nat.le_refl _
  sheet_le s hs := hb s (List.mem_filter.1 hs).1
  retired id' h := by
    simp only [Registry.retired, Bool.and_eq_true, decide_eq_true_eq, Bool.not_eq_true',
      Registry.hasSheet_removeSheet, Bool.and_eq_false_iff] at h ⊢
    exact ⟨h.1, .inl h.2⟩
  sublist := List.filter_sublist
  kept := by
    obtain ⟨s, hs, rfl⟩ := Registry.hasSheet_iff.1 hid
    have hretired : (b.registry.removeSheet s.id).retired s.id = true := by
      simp only [Registry.retired, Registry.hasSheet_removeSheet, bne_self_eq_false, Bool.and_false,
        Bool.not_false, Bool.and_true, decide_eq_true_eq]
      exact hb s hs
    simp only [withoutSheet, List.filter_filter]
    refine List.filter_congr fun e _ => ?_
    by_cases he : e.sheet = s.id
    · simp [he, hretired]
    · simp [he]
  homed h e he := by
    obtain ⟨he, hne⟩ := List.mem_filter.1 he
    rw [Registry.hasSheet_removeSheet, h e he, hne]
    rfl

end Changes

end Book

/-- What a call can do to the store on disk: it appends, or it changes nothing, or it replaces the
registry and then, perhaps, the log. -/
theorem StoreCall.effects_cases {b : Book}
    (hb : ∀ s ∈ b.registry.sheets, s.id ≤ b.registry.lastSheetId) (c : StoreCall) :
    (∃ d, c = .append d) ∨
      (c.commits b = [] ∧ c.cleansUp b = [] ∧ (c.onFiles b).2 = b) ∨
      (c.commits b = FileStore.rewriteRegistry (c.onFiles b).2.registry ∧
        (c.cleansUp b = [] ∨ c.cleansUp b = FileStore.rewriteLog (c.onFiles b).2.entries) ∧
        b.Changes (c.onFiles b).2) := by
  cases c with
  | append d => exact .inl ⟨d, rfl⟩
  | registerPublisher p =>
    refine .inr ?_
    by_cases hp : b.registry.knows p = true
    · simp [commits, cleansUp, onFiles, onBook, Book.registerPublisher, hp]
    · refine .inr ?_
      simp only [commits, cleansUp, onFiles, onBook, Book.registerPublisher, hp]
      exact ⟨rfl, .inl trivial, Book.changes_addPublisher hb p⟩
  | insertSheet a v => exact .inr (.inr ⟨rfl, .inl rfl, Book.changes_addSheet hb a v⟩)
  | deleteSheet id =>
    refine .inr ?_
    by_cases hid : b.registry.hasSheet id = true
    · refine .inr ?_
      simp only [commits, cleansUp, onFiles, onBook, Book.deleteSheet, hid, if_true]
      exact ⟨trivial, .inr trivial, Book.changes_removeSheet hb hid⟩
    · simp [commits, cleansUp, onFiles, hid]
  | ask q => exact .inr (.inl ⟨rfl, rfl, rfl⟩)

namespace Book.Mirrors

variable {lasting : Prop} {u : Nat} {b b' : Book} {g : Registry} {es : List LogEntry}

/-! ### Book and files -/

theorem hasSheet (h : b.Mirrors lasting u g es) (id : Nat) :
    b.registry.hasSheet id = g.hasSheet id := by
  rw [h.registry]
  rfl

theorem lastSheetId (h : b.Mirrors lasting u g es) :
    b.registry.lastSheetId = g.lastSheetId := by
  rw [h.registry]

theorem registry_sheet_le (h : b.Mirrors lasting u g es) :
    ∀ s ∈ b.registry.sheets, s.id ≤ b.registry.lastSheetId := by
  rw [h.registry]
  exact h.sheet_le

theorem retired (h : b.Mirrors lasting u g es) (id : Nat) :
    b.registry.retired id = g.retired id := by
  rw [Registry.retired, Registry.retired, h.hasSheet, h.lastSheetId]

theorem le_lastUpdateId (h : b.Mirrors lasting u g es) : u ≤ b.registry.lastUpdateId := by
  rcases h.recalls with hle | ⟨e, he, -, hle⟩
  · exact Nat.le_trans hle h.lastUpdateId_le
  · exact Nat.le_trans hle (h.id_le e (h.sublist.mem he))

theorem recovered_le (h : b.Mirrors lasting u g es) :
    (FileStore.recovered g es).lastUpdateId ≤ b.registry.lastUpdateId :=
  FileStore.recovered_le_iff.2 ⟨h.lastUpdateId_le, h.id_le⟩

/-- In the files there are the entries that the book has of sheets that are there. -/
theorem filter_hasSheet (h : b.Mirrors lasting u g es) :
    es.filter (fun e => g.hasSheet e.sheet) =
      b.entries.filter fun e => b.registry.hasSheet e.sheet := by
  have hthere : ∀ fs : List LogEntry, fs.filter (fun e => g.hasSheet e.sheet) =
      (fs.filter fun e => !g.retired e.sheet).filter fun e => g.hasSheet e.sheet := fun fs => by
    rw [List.filter_filter]
    refine List.filter_congr fun e _ => ?_
    cases he : g.hasSheet e.sheet <;> simp [Registry.retired, he]
  simp only [h.hasSheet]
  rw [hthere, h.kept, ← hthere]

/-- A number is remembered for good if the newest entry lasts. -/
theorem last (h : b.Mirrors lasting u g es) (hnewest : lasting ∨ b.NewestHomed) :
    b.Mirrors True u g es := by
  refine { h with recalls := ?_ }
  rcases h.recalls with hle | ⟨e, he, hhome, hle⟩
  · exact .inl hle
  · rcases hnewest with hlasting | hnewest
    · exact .inr ⟨e, he, fun _ => hhome hlasting, hle⟩
    · obtain ⟨f, hf⟩ : ∃ f, b.entries.getLast? = some f :=
        Option.isSome_iff_exists.1 (by simpa using List.ne_nil_of_mem he)
      have hfe : e.id ≤ f.id := by
        obtain ⟨fs, hfs⟩ := List.getLast?_eq_some_iff.1 hf
        have hsorted := h.readable.ascending.sublist h.sublist
        rw [hfs] at he hsorted
        rcases List.mem_append.1 he with he | he
        · exact Nat.le_of_lt ((List.pairwise_append.1 hsorted).2.2 e he f (by simp))
        · exact Nat.le_of_eq (congrArg _ (List.mem_singleton.1 he))
      refine .inr ⟨f, List.mem_of_getLast? hf, fun _ => ?_, Nat.le_trans hle hfe⟩
      rw [← h.hasSheet]
      exact hnewest f hf

/-- Less may be known. -/
theorem weaken (h : b.Mirrors True u g es) (lasting : Prop) : b.Mirrors lasting u g es where
  __ := h
  recalls := h.recalls.imp_right fun ⟨e, he, hhome, hle⟩ => ⟨e, he, fun _ => hhome trivial, hle⟩

/-! ### Calls -/

/-- A further entry in the book and in the log's file. -/
theorem append (h : b.Mirrors lasting u g es) {d : Draft} (hsheet : d.sheet < UInt64.size)
    (hid : b.registry.lastUpdateId + 1 < UInt64.size) :
    (b.append d).2.Mirrors lasting u g (es ++ [b.nextEntry d]) where
  registry := by
    have hregistry : (b.append d).2.registry = b.registry.noteUpdate (b.nextEntry d).id := rfl
    rw [hregistry, Registry.noteUpdate, h.registry]
  lastUpdateId_le := Nat.le_trans h.lastUpdateId_le (Nat.le_max_left ..)
  id_le e he := by
    rcases List.mem_append.1 he with he | he
    · exact Nat.le_trans (h.id_le e he) (Nat.le_max_left ..)
    · rw [List.mem_singleton.1 he]
      exact Nat.le_max_right ..
  readable := h.readable.concat (fun e he => Nat.lt_succ_of_le (h.id_le e he)) ⟨hid, hsheet⟩
  sublist := h.sublist.append (.refl _)
  kept := by
    have hentries : (b.append d).2.entries = b.entries ++ [b.nextEntry d] := rfl
    rw [hentries, List.filter_append, List.filter_append, h.kept]
  sheet_le := h.sheet_le
  recalls := h.recalls.imp_right fun ⟨e, he, hhome, hle⟩ =>
    ⟨e, List.mem_append_left _ he, hhome, hle⟩

/-- Of the number that was just given it is not known yet whether it lasts. -/
theorem recall_append (h : (b.append d).2.Mirrors lasting u g es) :
    (b.append d).2.Mirrors False (b.nextEntry d).id g es where
  __ := h
  recalls := .inr ⟨b.nextEntry d, List.mem_append_right _ (by simp), False.elim, Nat.le_refl _⟩

/-- The registry is replaced, and then it knows all numbers. -/
theorem change (h : b.Mirrors lasting u g es) (hchanges : b.Changes b') :
    b'.Mirrors lasting u b'.registry es where
  registry := rfl
  lastUpdateId_le := Nat.le_refl _
  id_le e he := hchanges.lastUpdateId ▸ h.id_le e he
  readable := h.readable
  sublist := hchanges.sublist.trans h.sublist
  kept := by
    have hretired : ∀ fs : List LogEntry, fs.filter (fun e => !b'.registry.retired e.sheet) =
        (fs.filter fun e => !g.retired e.sheet).filter
          fun e => !b'.registry.retired e.sheet := fun fs => by
      rw [List.filter_filter]
      refine List.filter_congr fun e _ => ?_
      cases he : g.retired e.sheet with
      | false => simp
      | true => simp [hchanges.retired e.sheet ((h.retired _).trans he)]
    rw [hretired, h.kept, ← hretired, hchanges.kept]
  sheet_le := hchanges.sheet_le
  recalls := .inl (hchanges.lastUpdateId ▸ h.le_lastUpdateId)

/-- The log is rewritten with the entries of the book. -/
theorem rewritten (h : b.Mirrors lasting u g es) : b.Mirrors lasting u g b.entries where
  __ := h
  id_le e he := h.id_le e (h.sublist.mem he)
  readable := h.readable.sublist h.sublist
  sublist := .refl _
  kept := rfl

variable {d : Disk}

/-- **What a call leaves in the book and in the files.** It fails only if an access is refused, and
then the book stays as it was. -/
theorem perform (h : b.Mirrors lasting u g es) (hd : d.Holds g es) (c : StoreCall)
    (hfits : ∀ draft, c = .append draft →
      draft.sheet < UInt64.size ∧ b.registry.lastUpdateId + 1 < UInt64.size) :
    ∃ d' g' es', d'.Holds g' es' ∧
      ((c.perform (⟨b, d⟩ : FileStore) = (.ok (c.onFiles b).1, ⟨(c.onFiles b).2, d'⟩) ∧
          (c.onFiles b).2.Mirrors lasting u g' es') ∨
        ((∃ fault, c.perform (⟨b, d⟩ : FileStore) = (.error fault, ⟨b, d'⟩)) ∧
          b.Mirrors lasting u g' es' ∧ ¬ d.Steady)) := by
  rw [FileStore.perform_eq]
  rcases c.effects_cases h.registry_sheet_le with
    ⟨draft, rfl⟩ | ⟨hcommits, hcleansUp, hbook⟩ | ⟨hcommits, hcleansUp, hchanges⟩
  · obtain ⟨hsheet, hid⟩ := hfits draft rfl
    obtain ⟨ok, d', hrun, hdone, hfailed⟩ := hd.append (b.nextEntry draft)
    rw [StoreCall.commits, hrun]
    cases ok with
    | true => exact ⟨d', g, _, hdone rfl, .inl ⟨rfl, h.append hsheet hid⟩⟩
    | false => exact ⟨d', g, es, (hfailed rfl).1, .inr ⟨⟨_, rfl⟩, h, (hfailed rfl).2⟩⟩
  · rw [hcommits, hcleansUp, hbook]
    exact ⟨d, g, es, hd, .inl ⟨rfl, h⟩⟩
  · obtain ⟨ok, d', hrun, hdone, hfailed⟩ := hd.rewriteRegistry (c.onFiles b).2.registry
    have hafter := h.change hchanges
    rw [hcommits, hrun]
    cases ok with
    | true =>
      rcases hcleansUp with hcleansUp | hcleansUp
      · rw [hcleansUp]
        exact ⟨d', _, es, hdone rfl, .inl ⟨rfl, hafter⟩⟩
      · rw [hcleansUp]
        rcases (hdone rfl).rewriteLog (c.onFiles b).2.entries with hlog | hlog
        · exact ⟨_, _, _, hlog, .inl ⟨rfl, hafter.rewritten⟩⟩
        · exact ⟨_, _, _, hlog, .inl ⟨rfl, hafter⟩⟩
    | false => exact ⟨d', g, es, (hfailed rfl).1, .inr ⟨⟨_, rfl⟩, h, (hfailed rfl).2⟩⟩

/-- **What a crash in the middle of a call leaves in the files**: those of the book before the call,
or those of the book after it. Only an append can leave a log that is no text. -/
theorem performUntil (h : b.Mirrors lasting u g es) (hd : d.Holds g es) (c : StoreCall)
    (hfits : ∀ draft, c = .append draft →
      draft.sheet < UInt64.size ∧ b.registry.lastUpdateId + 1 < UInt64.size)
    (done : Nat) (begun : Option Nat) :
    ((d.performUntil (c.effects b) done begun).Illegible ∧ ∃ draft, c = .append draft) ∨
      ∃ b' g' es', (b' = b ∨ b' = (c.onFiles b).2) ∧
        (d.performUntil (c.effects b) done begun).Tells g' es' ∧ b'.Mirrors lasting u g' es' := by
  rcases c.effects_cases h.registry_sheet_le with
    ⟨draft, rfl⟩ | ⟨hcommits, hcleansUp, -⟩ | ⟨hcommits, hcleansUp, hchanges⟩
  · obtain ⟨hsheet, hid⟩ := hfits draft rfl
    have hafter := h.append hsheet hid
    have heffects : (StoreCall.append draft).effects b =
        [.append .log (b.nextEntry draft).line.toUTF8] := rfl
    rw [heffects]
    rcases hd.append_until hafter.readable done begun with hillegible | htells | htells
    · exact .inl ⟨hillegible, draft, rfl⟩
    · exact .inr ⟨b, g, es, .inl rfl, htells, h⟩
    · exact .inr ⟨_, g, _, .inr rfl, htells, hafter⟩
  · rw [StoreCall.effects, hcommits, hcleansUp]
    exact .inr ⟨b, g, es, .inl rfl, hd.tells h.readable, h⟩
  · have hafter := h.change hchanges
    rw [StoreCall.effects, hcommits, Disk.performUntil_append]
    refine .inr ?_
    split
    · rcases hd.rewriteRegistry_until (c.onFiles b).2.registry done begun with hnew | hold
      · exact ⟨_, _, es, .inr rfl, hnew.tells h.readable, hafter⟩
      · exact ⟨b, g, es, .inl rfl, hold.tells h.readable, h⟩
    · obtain ⟨ok, d', hrun, hdone, hfailed⟩ := hd.rewriteRegistry (c.onFiles b).2.registry
      rw [hrun]
      cases ok with
      | true =>
        rcases hcleansUp with hcleansUp | hcleansUp
        · rw [hcleansUp]
          exact ⟨_, _, es, .inr rfl, (hdone rfl).tells h.readable, hafter⟩
        · rw [hcleansUp]
          rcases (hdone rfl).rewriteLog_until (c.onFiles b).2.entries (done - _) begun with
            hlog | hlog
          · exact ⟨_, _, _, .inr rfl, hlog.tells hafter.rewritten.readable, hafter.rewritten⟩
          · exact ⟨_, _, es, .inr rfl, hlog.tells h.readable, hafter⟩
      | false => exact ⟨b, g, es, .inl rfl, (hfailed rfl).1.tells h.readable, h⟩

/-! ### Opening -/

/-- The book that is made of the files. -/
theorem opened (h : b.Mirrors True u g es) :
    Mirrors True u ⟨FileStore.recovered g es, es.filter fun e => g.hasSheet e.sheet⟩ g
      (es.filter fun e => g.hasSheet e.sheet) where
  registry := FileStore.recovered_eq g es
  lastUpdateId_le := (FileStore.recovered_le_iff.1 (Nat.le_refl _)).1
  id_le _ he := FileStore.id_le_recovered (List.mem_filter.1 he).1
  readable := h.readable.sublist List.filter_sublist
  sublist := .refl _
  kept := rfl
  sheet_le := h.sheet_le
  recalls := h.recalls.imp_right fun ⟨e, he, hhome, hle⟩ =>
    ⟨e, List.mem_filter.2 ⟨h.sublist.mem he, hhome trivial⟩, hhome, hle⟩

end Book.Mirrors

/-- The book that is opened in the place of another. Entries of sheets that are not there are
dropped, and so may be the knowledge of their numbers. -/
structure Book.Reopened (b b' : Book) : Prop where
  entries : b'.entries = b.entries.filter fun e => b.registry.hasSheet e.sheet
  registry : b'.registry = { b.registry with lastUpdateId := b'.registry.lastUpdateId }
  lastUpdateId_le : b'.registry.lastUpdateId ≤ b.registry.lastUpdateId

namespace Book.Reopened

variable {b b' : Book}

theorem lastSheetId (h : b.Reopened b') : b'.registry.lastSheetId = b.registry.lastSheetId := by
  rw [h.registry]

theorem hasSheet (h : b.Reopened b') (id : Nat) :
    b'.registry.hasSheet id = b.registry.hasSheet id := by
  rw [h.registry]
  rfl

theorem homed (h : b.Reopened b') : b'.Homed := fun e he => by
  rw [h.entries] at he
  rw [h.hasSheet]
  exact (List.mem_filter.1 he).2

/-- If no entry was dropped then everything is answered as before. -/
theorem answer (h : b.Reopened b') (hhomed : b.Homed) (q : StoreQuery) :
    b'.answer q = b.answer q := by
  have hbook : b' = { b with registry :=
      { b.registry with lastUpdateId := b'.registry.lastUpdateId } } := by
    rw [← h.registry, ← List.filter_eq_self.2 hhomed, ← h.entries]
  rw [hbook]
  cases q <;> rfl

end Book.Reopened

namespace Book.Mirrors

variable {lasting : Prop} {u : Nat} {b : Book} {g : Registry} {es : List LogEntry} {d : Disk}

theorem fits (h : b.Mirrors lasting u g es) (hsheet : b.registry.lastSheetId < UInt64.size)
    (hupdate : b.registry.lastUpdateId < UInt64.size) : g.Fits where
  sheets s hs := Nat.lt_of_le_of_lt (h.lastSheetId ▸ h.sheet_le s hs) hsheet
  lastSheetId := h.lastSheetId ▸ hsheet
  lastUpdateId := Nat.lt_of_le_of_lt h.lastUpdateId_le hupdate

theorem reopened (h : b.Mirrors lasting u g es) :
    b.Reopened ⟨FileStore.recovered g es, es.filter fun e => g.hasSheet e.sheet⟩ where
  entries := h.filter_hasSheet
  registry := by
    rw [FileStore.recovered_eq, h.registry]
  lastUpdateId_le := h.recovered_le

end Book.Mirrors

end SharedSheet
