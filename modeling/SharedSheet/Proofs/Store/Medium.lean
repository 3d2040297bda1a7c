import SharedSheet.Proofs.Store.FileStore

/-!
# Media

Services are the same over every store, and so is what is proved of them. What they rely on is
collected in the class `Medium`: each operation of the store does to its book what the book's own
operation does, or it fails and the book stays as it was. Failing needs a reason outside the store,
an access that is refused. So a store that is `Steady` behaves like a plain book, and this is all
that has to be known of files from here on.

There are two media, the book itself and the store on disk. A book that is gone is gone: it cannot
be opened again.

## Main definitions

* `Performs` — an operation did what a book's operation does, or failed and did nothing
* `Medium` — stores with their laws
* the instances for `Book` and `FileStore`
-/

namespace SharedSheet

/-- What an operation came to: it did to the book what `spec` says, or it failed for a reason
outside the store and left the book. -/
structure Performs {σ α : Type} (book : σ → Book) (Intact Steady : σ → Prop) (s : σ)
    (done : Except StoreError α × σ) (spec : α × Book) : Prop where
  intact : Intact done.2
  steady : Steady s → Steady done.2
  result : done.1 = .ok spec.1 ∧ book done.2 = spec.2 ∨
    (∃ e, done.1 = .error e) ∧ book done.2 = book s ∧ ¬ Steady s

/-- Stores with the laws that services rely on. -/
class Medium (σ : Type) extends Store σ where
  /-- The store that nothing was put into. -/
  fresh : σ
  /-- Opens the store again after the program ended. -/
  reopen : Operation σ StoreError Unit
  /-- The store once other accesses are refused. -/
  refuse : (Access → Bool) → σ → σ
  /-- What is kept outside the program makes the book. -/
  Intact : σ → Prop
  /-- Nothing is refused. -/
  Steady : σ → Prop
  book_fresh : book fresh = {}
  intact_fresh : Intact fresh
  steady_fresh : Steady fresh
  book_refuse (r : Access → Bool) (s : σ) : book (refuse r s) = book s
  intact_refuse {s : σ} (r : Access → Bool) : Intact s → Intact (refuse r s)
  performs_append {s : σ} (d : Draft) : Intact s → (book s).Sound →
    (book s).registry.hasSheet d.sheet = true →
    Performs book Intact Steady s (append d s) ((book s).append d)
  performs_registerPublisher {s : σ} (p : String) : Intact s →
    Performs book Intact Steady s (registerPublisher p s) ((book s).registerPublisher p)
  performs_insertSheet {s : σ} (a : SheetAddress) (v : Visibility) : Intact s →
    Performs book Intact Steady s (insertSheet a v s) ((book s).insertSheet a v)
  performs_deleteSheet {s : σ} (id : Nat) : Intact s → (book s).registry.hasSheet id = true →
    Performs book Intact Steady s (deleteSheet id s) ((book s).deleteSheet id)
  intact_reopen {s : σ} : Intact s → (book s).registry.lastUpdateId < UInt64.size →
    Intact (reopen s).2
  book_reopen {s : σ} : Intact s → (book s).registry.lastUpdateId < UInt64.size →
    book (reopen s).2 = book s
  steady_reopen {s : σ} : Intact s → (book s).registry.lastUpdateId < UInt64.size → Steady s →
    Steady (reopen s).2

/-! ### The book itself -/

instance : Medium Book where
  fresh := {}
  reopen b := (.error .io, b)
  refuse _ b := b
  Intact _ := True
  Steady _ := True
  book_fresh := rfl
  intact_fresh := trivial
  steady_fresh := trivial
  book_refuse _ _ := rfl
  intact_refuse _ h := h
  performs_append _ _ _ _ := ⟨trivial, id, .inl ⟨rfl, rfl⟩⟩
  performs_registerPublisher _ _ := ⟨trivial, id, .inl ⟨rfl, rfl⟩⟩
  performs_insertSheet _ _ _ := ⟨trivial, id, .inl ⟨rfl, rfl⟩⟩
  performs_deleteSheet _ _ _ := ⟨trivial, id, .inl ⟨rfl, rfl⟩⟩
  intact_reopen _ _ := trivial
  book_reopen _ _ := rfl
  steady_reopen _ _ _ := trivial

/-! ### The store on disk -/

namespace FileStore

/-- A store on disk to which nothing is refused. -/
abbrev Steady (s : FileStore) : Prop := s.disk.Steady

variable {s : FileStore}

theorem intact_fresh : Intact ⟨{}, {}⟩ :=
  ⟨{}, [], .inr ⟨rfl, rfl⟩, .inr ⟨rfl, rfl⟩, by simp [Disk.slot], by simp [Disk.slot], rfl, rfl,
    .nil, by simp, by simp⟩

theorem intact_refuse (h : s.Intact) (r : Access → Bool) :
    Intact ⟨s.book, { s.disk with refuses := r }⟩ := by
  obtain ⟨g, es, h⟩ := h
  exact ⟨g, es, h.of_slots rfl rfl h.registryTemp h.logTemp⟩

theorem steady_of_refuses_eq {disk : Disk} (h : disk.refuses = s.disk.refuses) (hs : s.Steady) :
    disk.Steady := fun a => by rw [h]; exact hs a

theorem performs_append (h : s.Intact) (hbook : s.book.Sound) (d : Draft)
    (hsheet : s.book.registry.hasSheet d.sheet = true) :
    Performs book Intact Steady s (append d s) (s.book.append d) := by
  obtain ⟨g, es, h⟩ := h
  obtain ⟨disk, hrefuses, ⟨hrun, hintact⟩ | ⟨hrun, hintact, hsteady⟩⟩ := h.append hbook hsheet
  · rw [hrun]
    exact ⟨hintact, steady_of_refuses_eq hrefuses, .inl ⟨rfl, rfl⟩⟩
  · rw [hrun]
    exact ⟨hintact, steady_of_refuses_eq hrefuses, .inr ⟨⟨_, rfl⟩, rfl, hsteady⟩⟩

theorem performs_registerPublisher (h : s.Intact) (p : String) :
    Performs book Intact Steady s (registerPublisher p s) (s.book.registerPublisher p) := by
  obtain ⟨g, es, h⟩ := h
  unfold registerPublisher Book.registerPublisher
  split
  · exact ⟨⟨g, es, h⟩, id, .inl ⟨rfl, rfl⟩⟩
  · have hentries : (es.filter fun e => (s.book.registry.addPublisher p).hasSheet e.sheet) =
        s.book.entries := by
      rw [h.kept, h.recovered]
      simp
    obtain ⟨disk, hrefuses, ⟨hrun, hbacked⟩ | ⟨hrun, hbacked, hsteady⟩⟩ :=
      h.commit (s.book.registry.addPublisher p) rfl (Nat.le_refl _)
    · rw [hentries] at hbacked
      rw [hrun]
      exact ⟨⟨_, _, hbacked⟩, steady_of_refuses_eq hrefuses, .inl ⟨rfl, rfl⟩⟩
    · rw [hrun]
      exact ⟨⟨_, _, hbacked⟩, steady_of_refuses_eq hrefuses, .inr ⟨⟨_, rfl⟩, rfl, hsteady⟩⟩

theorem performs_insertSheet (h : s.Intact) (a : SheetAddress) (v : Visibility) :
    Performs book Intact Steady s (insertSheet a v s) (s.book.insertSheet a v) := by
  obtain ⟨g, es, h⟩ := h
  have hentries : (es.filter fun e => (s.book.registry.addSheet a v).hasSheet e.sheet) =
      s.book.entries := by
    rw [h.kept]
    refine List.filter_congr fun e he => ?_
    have hnew : (s.book.registry.lastSheetId + 1 == e.sheet) = false := by
      have := h.sheet_le e he
      rw [h.recovered, lastSheetId_recovered, beq_eq_false_iff_ne]
      omega
    rw [Registry.hasSheet_addSheet, hnew, Bool.or_false, h.recovered, hasSheet_recovered]
  obtain ⟨disk, hrefuses, ⟨hrun, hbacked⟩ | ⟨hrun, hbacked, hsteady⟩⟩ :=
    h.commit (s.book.registry.addSheet a v) rfl (Nat.le_succ _)
  · rw [hentries] at hbacked
    unfold insertSheet
    rw [hrun]
    exact ⟨⟨_, _, hbacked⟩, steady_of_refuses_eq hrefuses, .inl ⟨rfl, rfl⟩⟩
  · unfold insertSheet
    rw [hrun]
    exact ⟨⟨_, _, hbacked⟩, steady_of_refuses_eq hrefuses, .inr ⟨⟨_, rfl⟩, rfl, hsteady⟩⟩

theorem performs_deleteSheet (h : s.Intact) {id : Nat}
    (hid : s.book.registry.hasSheet id = true) :
    Performs book Intact Steady s (deleteSheet id s) (s.book.deleteSheet id) := by
  obtain ⟨g, es, h⟩ := h
  have hentries : (es.filter fun e => (s.book.registry.removeSheet id).hasSheet e.sheet) =
      s.book.withoutSheet id := by
    rw [Book.withoutSheet, h.kept, List.filter_filter, h.recovered]
    refine List.filter_congr fun e _ => ?_
    rw [Registry.hasSheet_removeSheet, hasSheet_recovered, Bool.and_comm]
  obtain ⟨disk, hrefuses, ⟨hrun, hbacked⟩ | ⟨hrun, hbacked, hsteady⟩⟩ :=
    h.commit (s.book.registry.removeSheet id) rfl (Nat.le_refl _)
  · -- The deletion counts from here on, whether or not the log can be rewritten.
    rw [hentries] at hbacked
    obtain ⟨disk', hrefuses', hintact, hrewrite⟩ := hbacked.rewriteLog
    have hdisk : (disk.performAll (FileStore.rewriteLog (s.book.withoutSheet id))).2 = disk' := by
      rcases hrewrite with hrewrite | ⟨hrewrite, -⟩ <;> exact congrArg Prod.snd hrewrite
    have hanswer : (s.book.deleteSheet id).1 = true := hid
    have hdone : deleteSheet id s = (.ok true, ⟨(s.book.deleteSheet id).2, disk'⟩) := by
      unfold deleteSheet
      rw [if_pos hid, hrun, ← hdisk]
      rfl
    rw [hdone]
    exact ⟨hintact, steady_of_refuses_eq (hrefuses'.trans hrefuses),
      .inl ⟨congrArg Except.ok hanswer.symm, rfl⟩⟩
  · unfold deleteSheet
    rw [if_pos hid, hrun]
    exact ⟨⟨_, _, hbacked⟩, steady_of_refuses_eq hrefuses, .inr ⟨⟨_, rfl⟩, rfl, hsteady⟩⟩

/-- The book is the same after the files are opened again, and they can be opened if nothing is
refused and the numbers fit. -/
theorem reopen_eq (h : s.Intact) (hupdate : s.book.registry.lastUpdateId < UInt64.size) :
    (reopen s).2.Intact ∧ (reopen s).2.book = s.book ∧
      (reopen s).2.disk.refuses = s.disk.refuses ∧
      (s.Steady → s.book.registry.Fits → (reopen s).1 = .ok ()) := by
  obtain ⟨g, es, h⟩ := h
  unfold reopen
  obtain ⟨disk, hrefuses, hintact, hrun | ⟨e, hrun, hwhy⟩⟩ := h.openDisk hupdate
  · rw [hrun]
    exact ⟨hintact, rfl, hrefuses, fun _ _ => rfl⟩
  · rw [hrun]
    exact ⟨hintact, rfl, hrefuses, fun hsteady hfits => absurd ⟨hsteady, hfits⟩ hwhy⟩

instance : Medium FileStore where
  fresh := ⟨{}, {}⟩
  reopen := reopen
  refuse r s := ⟨s.book, { s.disk with refuses := r }⟩
  Intact := Intact
  Steady := Steady
  book_fresh := rfl
  intact_fresh := intact_fresh
  steady_fresh _ := rfl
  book_refuse _ _ := rfl
  intact_refuse r h := intact_refuse h r
  performs_append d h hbook hsheet := performs_append h hbook d hsheet
  performs_registerPublisher p h := performs_registerPublisher h p
  performs_insertSheet a v h := performs_insertSheet h a v
  performs_deleteSheet _ h hid := performs_deleteSheet h hid
  intact_reopen h hupdate := (reopen_eq h hupdate).1
  book_reopen h hupdate := (reopen_eq h hupdate).2.1
  steady_reopen h hupdate hsteady := steady_of_refuses_eq (reopen_eq h hupdate).2.2.1 hsteady

end FileStore

end SharedSheet
