import SharedSheet.Proofs.Store.Interface
import SharedSheet.Proofs.Store.TornLog

/-!
# What the files hold, also after a crash

The program may end between any two effects, and also in the middle of one: a write that was begun
has made some of its bytes. Putting a file in the place of another happens at once. So the registry's
file and, when it is rewritten, the log's file always hold the old text or the new one, and a prefix
of the new one is at most in a temporary file, which nobody reads. Only an append is seen half done.

While the program runs its files hold the text of a registry and of entries, `Disk.Holds`. After a
crash the log's file is only known to be read as entries, `Disk.Tells`, and not even that if the crash
cut a character of the last line in two, `Disk.Illegible`.

## Main definitions

* `Disk.performUntil` — effects that were made up to a crash
* `Disk.Holds`, `Disk.Tells`, `Disk.Illegible` — what is in the files

## Main results

* `Disk.Holds.rewriteRegistry` and its siblings — what is in the files after effects, all of them or
  those before a crash
* `Disk.Tells.openDisk` — what is made of the files when the store is opened
-/

namespace SharedSheet

/-! ### Crashes -/

/-- The part of an effect that was made when some bytes were written. -/
def Effect.cut? (written : Nat) : Effect → Option Effect
  | .write f content => some (.write f (content.extract 0 written))
  | .append f content => some (.append f (content.extract 0 written))
  | .rename _ _ => none

namespace Disk

/-- The disk after a crash: of the effects, `done` were made before it, and of the next one as many
bytes as `begun` says if it was begun. No effect is made after one that fails. -/
def performUntil (d : Disk) : List Effect → Nat → Option Nat → Disk
  | [], _, _ => d
  | _ :: _, 0, none => d
  | e :: _, 0, some written => ((e.cut? written).bind d.perform?).getD d
  | e :: es, done + 1, begun =>
    match d.perform? e with
    | some d => performUntil d es done begun
    | none => d

/-- A crash comes during the first effects or after them. -/
theorem performUntil_append (d : Disk) (es fs : List Effect) (done : Nat) (begun : Option Nat) :
    d.performUntil (es ++ fs) done begun =
      if done < es.length then d.performUntil es done begun
      else
        match d.performAll es with
        | (true, d) => d.performUntil fs (done - es.length) begun
        | (false, d) => d := by
  induction es generalizing d done with
  | nil => rfl
  | cons e es ih =>
    cases done with
    | zero => cases begun <;> rfl
    | succ done =>
      simp only [List.cons_append, performUntil, performAll, List.length_cons,
        Nat.add_lt_add_iff_right, Nat.add_sub_add_right]
      cases d.perform? e with
      | none => simp
      | some d => exact ih d done

/-! ### Refused accesses -/

variable {d d' : Disk}

theorem refuses_perform? {e : Effect} (h : d.perform? e = some d') : d'.refuses = d.refuses := by
  unfold perform? at h
  split at h
  · simp at h
  · split at h
    · obtain ⟨s, -, rfl⟩ := Option.map_eq_some_iff.1 h
      exact refuses_setSlot ..
    · obtain ⟨s, -, rfl⟩ := Option.map_eq_some_iff.1 h
      exact refuses_setSlot ..
    · split at h
      · simp at h
      · obtain rfl := Option.some.inj h
        rw [refuses_setSlot, refuses_setSlot]
      · simp at h

theorem refuses_performAll (d : Disk) (es : List Effect) :
    (d.performAll es).2.refuses = d.refuses := by
  induction es generalizing d with
  | nil => rfl
  | cons e es ih =>
    rw [performAll]
    cases h : d.perform? e with
    | none => rfl
    | some d' => exact (ih d').trans (refuses_perform? h)

theorem refuses_performUntil (d : Disk) (es : List Effect) (done : Nat) (begun : Option Nat) :
    (d.performUntil es done begun).refuses = d.refuses := by
  induction es generalizing d done with
  | nil => rfl
  | cons e es ih =>
    cases done with
    | zero =>
      cases begun with
      | none => rfl
      | some written =>
        rw [performUntil]
        cases h : (e.cut? written).bind d.perform? with
        | none => rfl
        | some d' =>
          obtain ⟨e', -, he'⟩ := Option.bind_eq_some_iff.1 h
          exact refuses_perform? he'
    | succ done =>
      rw [performUntil]
      cases h : d.perform? e with
      | none => rfl
      | some d' => exact (ih d' done).trans (refuses_perform? h)

theorem refuses_openDisk (d : Disk) : (FileStore.openDisk d).2.refuses = d.refuses := by
  unfold FileStore.openDisk
  split
  · rfl
  · split
    · rfl
    · simp only
      split
      · split
        · rename_i hrun
          exact (congrArg (·.2.refuses) hrun).symm.trans (refuses_performAll ..)
        · rename_i hrun
          exact (congrArg (·.2.refuses) hrun).symm.trans (refuses_performAll ..)
      · rfl

/-! ### Replacing a file -/

/-- What may have become of a disk on which a file was being replaced. -/
structure Replacing (temp target : FileName) (content : String) (d d' : Disk) : Prop where
  unblocked : ∀ f, (d'.slot f).isDirectory = false
  other : ∀ f, f ≠ temp → f ≠ target → d'.slot f = d.slot f
  target : d'.slot target = .file content.toUTF8 ∨ d'.slot target = d.slot target

section Replacing

variable {temp target : FileName} {content : String}

theorem replacing_none (h : ∀ f, (d.slot f).isDirectory = false) :
    Replacing temp target content d d :=
  ⟨h, fun _ _ _ => rfl, .inr rfl⟩

theorem replacing_temp (hne : temp ≠ target) (h : ∀ f, (d.slot f).isDirectory = false)
    (content : String) (bytes : ByteArray) : Replacing temp target content d (d.setSlot temp (.file bytes)) where
  unblocked f := by
    rw [slot_setSlot]
    split
    · rfl
    · exact h f
  other f hf _ := by rw [slot_setSlot, if_neg hf]
  target := .inr (by rw [slot_setSlot, if_neg hne.symm])

theorem replacing_target (h : ∀ f, (d.slot f).isDirectory = false) :
    Replacing temp target content d
      ((d.setSlot temp .absent).setSlot target (.file content.toUTF8)) where
  unblocked f := by
    rw [slot_setSlot, slot_setSlot]
    split
    · rfl
    · split
      · rfl
      · exact h f
  other f hf hf' := by rw [slot_setSlot, if_neg hf', slot_setSlot, if_neg hf]
  target := .inl (by rw [slot_setSlot, if_pos rfl])

/-- A file is replaced, or that is refused and nothing that is ever read has changed. -/
theorem performAll_replacing (hne : temp ≠ target) (h : ∀ f, (d.slot f).isDirectory = false)
    (content : String) :
    ∃ ok d', d.performAll (Effect.replace temp target content) = (ok, d') ∧
      Replacing temp target content d d' ∧
      (ok = true → d'.slot target = .file content.toUTF8) ∧
      (ok = false → d'.slot target = d.slot target ∧ ¬ d.Steady) := by
  rw [performAll_replace_eq content hne, h, h, Bool.or_false, Bool.or_false]
  split
  · rename_i hrefused
    exact ⟨_, _, rfl, replacing_none h, by simp,
      fun _ => ⟨rfl, fun hsteady => by simp [hsteady _] at hrefused⟩⟩
  · split
    · rename_i hrefused
      exact ⟨_, _, rfl, replacing_temp hne h _ _, by simp,
        fun _ => ⟨by rw [slot_setSlot, if_neg hne.symm],
          fun hsteady => by simp [hsteady _] at hrefused⟩⟩
    · exact ⟨_, _, rfl, replacing_target h, fun _ => by rw [slot_setSlot, if_pos rfl], by simp⟩

/-- A crash leaves the old file or the new one. -/
theorem performUntil_replacing (hne : temp ≠ target) (h : ∀ f, (d.slot f).isDirectory = false)
    (content : String) (done : Nat) (begun : Option Nat) :
    Replacing temp target content d
      (d.performUntil (Effect.replace temp target content) done begun) := by
  have hnone : Replacing temp target content d d := replacing_none h
  have hmade := replacing_temp hne h content
  simp only [Effect.replace]
  cases hwrite : d.refuses (.write temp) with
  | true =>
    -- The temporary file is not even made.
    rcases done with _ | done
    · cases begun <;> simpa [performUntil, Effect.cut?, perform?_write, hwrite] using hnone
    · simpa [performUntil, perform?_write, hwrite] using hnone
  | false =>
    have hwritten : d.perform? (.write temp content.toUTF8) =
        some (d.setSlot temp (.file content.toUTF8)) := by simp [perform?_write, hwrite, h]
    rcases done with _ | _ | done
    · cases begun with
      | none => exact hnone
      | some written =>
        simpa [performUntil, Effect.cut?, perform?_write, hwrite, h] using hmade _
    · simp only [performUntil, hwritten]
      cases begun <;> exact hmade _
    · simp only [performUntil, hwritten, perform?_rename_setSlot _ hne]
      split
      · rename_i hrename
        split at hrename
        · simp at hrename
        · obtain rfl := Option.some.inj hrename
          exact replacing_target h
      · exact hmade _

end Replacing

/-! ### What the files hold -/

/-- The registry's file holds a registry, and no directory is in the place of a file. -/
structure HoldsRegistry (d : Disk) (g : Registry) : Prop where
  registry : d.slot .registry = .file g.render.toUTF8 ∨ d.slot .registry = .absent ∧ g = {}
  unblocked : ∀ f, (d.slot f).isDirectory = false

/-- The files hold a registry and entries. -/
structure Holds (d : Disk) (g : Registry) (es : List LogEntry) : Prop extends
    HoldsRegistry d g where
  log : d.slot .log = .file (LogFile.render es).toUTF8 ∨ d.slot .log = .absent ∧ es = []

/-- The files hold a registry, and entries are read from them. -/
structure Tells (d : Disk) (g : Registry) (es : List LogEntry) : Prop extends
    HoldsRegistry d g where
  log : (∃ text, d.slot .log = .file text.toUTF8 ∧ LogFile.Tells text es) ∨
    d.slot .log = .absent ∧ es = []

/-- The log's file is no text. -/
def Illegible (d : Disk) : Prop := ∃ bytes, d.slot .log = .file bytes ∧ ¬ bytes.IsValidUTF8

theorem holds_empty : Holds {} {} [] where
  registry := .inr ⟨rfl, rfl⟩
  unblocked f := by cases f <;> rfl
  log := .inr ⟨rfl, rfl⟩

variable {g g' : Registry} {es fs : List LogEntry} {e : LogEntry} {content : String}

theorem Holds.tells (h : d.Holds g es) (hread : LogFile.Readable es) : d.Tells g es where
  toHoldsRegistry := h.toHoldsRegistry
  log := h.log.imp_left fun hlog => ⟨_, hlog, LogFile.tells_render hread⟩

theorem Tells.refuse (h : d.Tells g es) (r : Access → Bool) :
    Tells { d with refuses := r } g es :=
  ⟨⟨h.registry, h.unblocked⟩, h.log⟩

theorem Holds.refuse (h : d.Holds g es) (r : Access → Bool) :
    Holds { d with refuses := r } g es :=
  ⟨⟨h.registry, h.unblocked⟩, h.log⟩

theorem Illegible.refuse (h : d.Illegible) (r : Access → Bool) :
    Illegible { d with refuses := r } := h

namespace Replacing

/-- The registry's file was being replaced. -/
theorem holds_registry (h : Replacing .registryTemp .registry g'.render d d') (hd : d.Holds g es) :
    (d'.slot .registry = .file g'.render.toUTF8 → d'.Holds g' es) ∧
      (d'.slot .registry = d.slot .registry → d'.Holds g es) := by
  have hlog : d'.slot .log = d.slot .log := h.other _ (by decide) (by decide)
  exact ⟨fun hnew => ⟨⟨.inl hnew, h.unblocked⟩, by rw [hlog]; exact hd.log⟩,
    fun hold => ⟨⟨by rw [hold]; exact hd.registry, h.unblocked⟩, by rw [hlog]; exact hd.log⟩⟩

/-- The log's file was being replaced. -/
theorem holdsRegistry (h : Replacing .logTemp .log content d d') (hd : d.HoldsRegistry g) :
    d'.HoldsRegistry g where
  registry := by
    rw [h.other _ (by decide) (by decide)]
    exact hd.registry
  unblocked := h.unblocked

theorem holds_log (h : Replacing .logTemp .log (LogFile.render fs) d d') (hd : d.Holds g es) :
    d'.Holds g fs ∨ d'.Holds g es := by
  have hregistry := h.holdsRegistry hd.toHoldsRegistry
  rcases h.target with hnew | hold
  · exact .inl ⟨hregistry, .inl hnew⟩
  · exact .inr ⟨hregistry, by rw [hold]; exact hd.log⟩

end Replacing

namespace Holds

/-! ### Changes of the files -/

theorem rewriteRegistry (h : d.Holds g es) (g' : Registry) :
    ∃ ok d', d.performAll (FileStore.rewriteRegistry g') = (ok, d') ∧
      (ok = true → d'.Holds g' es) ∧ (ok = false → d'.Holds g es ∧ ¬ d.Steady) := by
  obtain ⟨ok, d', hrun, hreplacing, hdone, hfailed⟩ :=
    performAll_replacing (show FileName.registryTemp ≠ .registry by decide) h.unblocked g'.render
  have hholds := hreplacing.holds_registry h
  exact ⟨ok, d', hrun, fun hok => hholds.1 (hdone hok),
    fun hok => ⟨hholds.2 (hfailed hok).1, (hfailed hok).2⟩⟩

theorem rewriteRegistry_until (h : d.Holds g es) (g' : Registry) (done : Nat)
    (begun : Option Nat) :
    (d.performUntil (FileStore.rewriteRegistry g') done begun).Holds g' es ∨
      (d.performUntil (FileStore.rewriteRegistry g') done begun).Holds g es := by
  have hreplacing := performUntil_replacing (show FileName.registryTemp ≠ .registry by decide)
    h.unblocked g'.render done begun
  have hholds := hreplacing.holds_registry h
  exact hreplacing.target.imp hholds.1 hholds.2

/-- A crash before the new registry is put in its place leaves what was there. -/
theorem rewriteRegistry_begun (h : d.Holds g es) (g' : Registry) (begun : Option Nat) :
    (d.performUntil (FileStore.rewriteRegistry g') 0 begun).Holds g es := by
  cases begun with
  | none => exact h
  | some written =>
    simp only [FileStore.rewriteRegistry, Effect.replace, performUntil, Effect.cut?,
      Option.bind_some, perform?_write, h.unblocked, Bool.or_false]
    cases d.refuses (.write .registryTemp) with
    | true => exact h
    | false =>
      have hreplacing := replacing_temp (show FileName.registryTemp ≠ .registry by decide)
        h.unblocked g'.render (g'.render.toUTF8.extract 0 written)
      refine (hreplacing.holds_registry h).2 ?_
      rw [slot_setSlot, if_neg (by decide)]

theorem rewriteLog (h : d.Holds g es) (fs : List LogEntry) :
    (d.performAll (FileStore.rewriteLog fs)).2.Holds g fs ∨
      (d.performAll (FileStore.rewriteLog fs)).2.Holds g es := by
  obtain ⟨ok, d', hrun, hreplacing, -⟩ :=
    performAll_replacing (show FileName.logTemp ≠ .log by decide) h.unblocked (LogFile.render fs)
  rw [FileStore.rewriteLog, hrun]
  exact hreplacing.holds_log h

theorem rewriteLog_until (h : d.Holds g es) (fs : List LogEntry) (done : Nat)
    (begun : Option Nat) :
    (d.performUntil (FileStore.rewriteLog fs) done begun).Holds g fs ∨
      (d.performUntil (FileStore.rewriteLog fs) done begun).Holds g es :=
  (performUntil_replacing (by decide) h.unblocked (LogFile.render fs) done begun).holds_log h

/-- What was appended is in the log's file after the text of the entries, or nothing happened. -/
theorem perform?_append (h : d.Holds g es) (bytes : ByteArray) :
    (d.perform? (.append .log bytes) = none ∧ ¬ d.Steady) ∨
      ∃ d', d.perform? (.append .log bytes) = some d' ∧ d'.HoldsRegistry g ∧
        d'.slot .log = .file ((LogFile.render es).toUTF8 ++ bytes) := by
  by_cases hrefused : d.refuses (.append .log) = true
  · refine .inl ⟨by simp [perform?, Effect.access, hrefused], fun hsteady => ?_⟩
    simp [hsteady _] at hrefused
  · refine .inr ⟨d.setSlot .log (.file ((LogFile.render es).toUTF8 ++ bytes)), ?_, ⟨?_, ?_⟩, ?_⟩
    · rcases h.log with hlog | ⟨hlog, rfl⟩
      · simp [perform?, Effect.access, hrefused, hlog, Slot.append?]
      · simp [perform?, Effect.access, hrefused, hlog, Slot.append?, LogFile.render]
    · rw [slot_setSlot, if_neg (by decide)]
      exact h.registry
    · intro f
      rw [slot_setSlot]
      split
      · rfl
      · exact h.unblocked f
    · rw [slot_setSlot, if_pos rfl]

theorem append (h : d.Holds g es) (e : LogEntry) :
    ∃ ok d', d.performAll [.append .log e.line.toUTF8] = (ok, d') ∧
      (ok = true → d'.Holds g (es ++ [e])) ∧ (ok = false → d'.Holds g es ∧ ¬ d.Steady) := by
  rcases h.perform?_append e.line.toUTF8 with ⟨hrun, hsteady⟩ | ⟨d', hrun, hregistry, hlog⟩
  · exact ⟨false, d, by simp only [performAll, hrun], by simp, fun _ => ⟨h, hsteady⟩⟩
  · refine ⟨true, d', by simp only [performAll, hrun], fun _ => ⟨hregistry, .inl ?_⟩, by simp⟩
    rw [hlog, LogFile.toUTF8_render_concat]

/-- The append of a line was cut off between two characters. -/
theorem append_cut (h : d.Holds g es) (hread : LogFile.Readable (es ++ [e])) (hsteady : d.Steady)
    {s rest : String} (hline : e.line = s ++ rest) :
    (d.performUntil [.append .log e.line.toUTF8] 0 (some s.utf8ByteSize)).Tells g
      (es ++ if e.toJson.compact.utf8ByteSize ≤ s.utf8ByteSize then [e] else []) := by
  have hcut : e.line.toUTF8.extract 0 s.utf8ByteSize = s.toUTF8 := by
    rw [hline]
    simp [ByteArray.extract_append_eq_left]
  rcases h.perform?_append s.toUTF8 with ⟨-, hunsteady⟩ | ⟨d', hrun, hregistry, hlog⟩
  · exact absurd hsteady hunsteady
  · simp only [performUntil, Effect.cut?, Option.bind_some, hcut, hrun, Option.getD_some]
    refine ⟨hregistry, .inl ⟨LogFile.render es ++ s, ?_, LogFile.tells_render_append hread hline⟩⟩
    simp [hlog]

/-- The append of a line was cut off within a character. -/
theorem append_cut_illegible (h : d.Holds g es) (hsteady : d.Steady) {written : Nat}
    (hle : written ≤ e.line.utf8ByteSize)
    (hcut : ¬ (⟨written⟩ : String.Pos.Raw).IsValid e.line) :
    (d.performUntil [.append .log e.line.toUTF8] 0 (some written)).Illegible := by
  rcases h.perform?_append (e.line.toUTF8.extract 0 written) with
    ⟨-, hunsteady⟩ | ⟨d', hrun, -, hlog⟩
  · exact absurd hsteady hunsteady
  · simp only [performUntil, Effect.cut?, Option.bind_some, hrun, Option.getD_some]
    refine ⟨_, hlog, fun hvalid => hcut ?_⟩
    exact String.Pos.Raw.isValid_iff_isValidUTF8_extract_zero.2
      ⟨by simpa [String.Pos.Raw.le_iff] using hle, isValidUTF8_of_append hvalid⟩

/-- An append was cut off: the log is no text any more, or it is read with the entry or without. -/
theorem append_until (h : d.Holds g es) (hread : LogFile.Readable (es ++ [e])) (done : Nat)
    (begun : Option Nat) :
    (d.performUntil [.append .log e.line.toUTF8] done begun).Illegible ∨
      (d.performUntil [.append .log e.line.toUTF8] done begun).Tells g es ∨
      (d.performUntil [.append .log e.line.toUTF8] done begun).Tells g (es ++ [e]) := by
  have hbefore : d.Tells g es := h.tells (hread.sublist (List.sublist_append_left _ _))
  rcases done with _ | done
  · cases begun with
    | none => exact .inr (.inl hbefore)
    | some written =>
      simp only [performUntil, Effect.cut?, Option.bind_some]
      rcases h.perform?_append (e.line.toUTF8.extract 0 written) with
        ⟨hrun, -⟩ | ⟨d', hrun, hregistry, hlog⟩
      · rw [hrun]
        exact .inr (.inl hbefore)
      · rw [hrun, Option.getD_some]
        rcases exists_prefix_or_not_isValidUTF8 e.line written with
          ⟨s, rest, hline, -, hcut⟩ | hinvalid
        · have htells := LogFile.tells_render_append hread hline
          have htext : d'.slot .log = .file (LogFile.render es ++ s).toUTF8 := by
            rw [hlog, hcut]
            exact congrArg Slot.file (String.toByteArray_append ..).symm
          refine .inr ?_
          split at htells
          · exact .inr ⟨hregistry, .inl ⟨_, htext, htells⟩⟩
          · rw [List.append_nil] at htells
            exact .inl ⟨hregistry, .inl ⟨_, htext, htells⟩⟩
        · exact .inl ⟨_, hlog, fun hvalid => hinvalid (isValidUTF8_of_append hvalid)⟩
  · obtain ⟨ok, d', hrun, hdone, hfailed⟩ := h.append e
    refine .inr ?_
    have huntil : d.performUntil [.append .log e.line.toUTF8] (done + 1) begun = d' := by
      rw [performAll] at hrun
      rw [performUntil]
      cases happend : d.perform? (.append .log e.line.toUTF8) with
      | none => rw [happend] at hrun; exact (Prod.mk.inj hrun).2
      | some d'' => rw [happend] at hrun; exact (Prod.mk.inj hrun).2
    rw [huntil]
    cases ok with
    | true => exact .inr ((hdone rfl).tells hread)
    | false => exact .inl ((hfailed rfl).1.tells (hread.sublist (List.sublist_append_left _ _)))

end Holds

/-! ### Opening -/

/-- A log that is no text is not opened, and stays as it is. -/
theorem Illegible.openDisk (h : d.Illegible) :
    ∃ fault, FileStore.openDisk d = (.error fault, d) := by
  obtain ⟨bytes, hlog, hinvalid⟩ := h
  have hread : FileStore.readLog d = .error .io := by
    unfold FileStore.readLog readText?
    by_cases hrefused : d.refuses (.read .log) = true
    · simp [hrefused]
    · simp [hrefused, hlog, Slot.text?, String.fromUTF8?, hinvalid]
  unfold FileStore.openDisk
  split
  · exact ⟨_, rfl⟩
  · rw [hread]
    exact ⟨_, rfl⟩

namespace Tells

theorem readRegistry (h : d.Tells g es) :
    FileStore.readRegistry d = .ok g ∨
      (∃ fault, FileStore.readRegistry d = .error fault) ∧ ¬ (d.Steady ∧ g.Fits) := by
  unfold FileStore.readRegistry readText?
  by_cases hrefused : d.refuses (.read .registry) = true
  · refine .inr ⟨⟨.io, by simp [hrefused]⟩, fun hcalm => ?_⟩
    simp [hcalm.1 _] at hrefused
  · rcases h.registry with hslot | ⟨hslot, rfl⟩
    · simp only [hrefused, hslot, Slot.text?_file, Option.map_some, Bool.false_eq_true, if_false]
      cases hparse : Registry.parse g.render with
      | error fault =>
        refine .inr ⟨⟨.json, rfl⟩, fun hcalm => ?_⟩
        simp [(g.parse_render_eq_ok_iff g).2 ⟨hcalm.2, rfl⟩] at hparse
      | ok g' =>
        obtain ⟨-, rfl⟩ := (g.parse_render_eq_ok_iff g').1 hparse
        exact .inl rfl
    · exact .inl (by simp [hrefused, hslot])

/-- The entries are read, and if the last line is whole the log's file holds their text. -/
theorem readLog (h : d.Tells g es) :
    (∃ torn, FileStore.readLog d = .ok (es, torn) ∧ (torn = false → d.Holds g es)) ∨
      (∃ fault, FileStore.readLog d = .error fault) ∧ ¬ d.Steady := by
  unfold FileStore.readLog readText?
  by_cases hrefused : d.refuses (.read .log) = true
  · refine .inr ⟨⟨.io, by simp [hrefused]⟩, fun hsteady => ?_⟩
    simp [hsteady _] at hrefused
  · refine .inl ?_
    rcases h.log with ⟨text, hslot, torn, hparse, hwhole⟩ | ⟨hslot, rfl⟩
    · refine ⟨torn, ?_, fun htorn => ⟨h.toHoldsRegistry, .inl (hwhole htorn ▸ hslot)⟩⟩
      simp [hrefused, hslot, Slot.text?_file, hparse, -String.toUTF8_eq_toByteArray]
    · exact ⟨false, by simp [hrefused, hslot], fun _ => ⟨h.toHoldsRegistry, .inr ⟨hslot, rfl⟩⟩⟩

theorem rewriteLog (h : d.Tells g es) (fs : List LogEntry) :
    ∃ ok d', d.performAll (FileStore.rewriteLog fs) = (ok, d') ∧
      (ok = true → d'.Holds g fs) ∧ (ok = false → d'.Tells g es ∧ ¬ d.Steady) := by
  obtain ⟨ok, d', hrun, hreplacing, hdone, hfailed⟩ :=
    performAll_replacing (show FileName.logTemp ≠ .log by decide) h.unblocked (LogFile.render fs)
  have hregistry := hreplacing.holdsRegistry h.toHoldsRegistry
  refine ⟨ok, d', hrun, fun hok => ⟨hregistry, .inl (hdone hok)⟩, fun hok => ⟨⟨hregistry, ?_⟩,
    (hfailed hok).2⟩⟩
  rw [(hfailed hok).1]
  exact h.log

/-- **What is made of the files when the store is opened.** The book has the entries of the sheets
that are there, and the files hold it then. If the store is not opened the files tell the same as
before, and there is a reason: a refused access, or a number that does not fit. -/
theorem openDisk (h : d.Tells g es) :
    (∃ d', FileStore.openDisk d = (.ok ⟨FileStore.recovered g es,
        es.filter fun e => g.hasSheet e.sheet⟩, d') ∧
        d'.Holds g (es.filter fun e => g.hasSheet e.sheet)) ∨
      (∃ fault d', FileStore.openDisk d = (.error fault, d') ∧ d'.Tells g es) ∧
        ¬ (d.Steady ∧ g.Fits) := by
  rcases h.readRegistry with hg | ⟨⟨fault, hg⟩, hwhy⟩
  · rcases h.readLog with ⟨torn, hes, hwhole⟩ | ⟨⟨fault, hes⟩, hwhy⟩
    · simp only [FileStore.openDisk, hg, hes]
      split
      · obtain ⟨ok, d', hrun, hdone, hfailed⟩ :=
          h.rewriteLog (es.filter fun e => g.hasSheet e.sheet)
        rw [hrun]
        cases ok with
        | true => exact .inl ⟨d', rfl, hdone rfl⟩
        | false =>
          exact .inr ⟨⟨.io, d', rfl, (hfailed rfl).1⟩, fun hcalm => (hfailed rfl).2 hcalm.1⟩
      · -- Nothing is torn and nothing is an orphan.
        rename_i hnothing
        simp only [Bool.or_eq_true, bne_iff_ne, ne_eq, not_or, Decidable.not_not,
          Bool.not_eq_true] at hnothing
        have hall := (List.filter_sublist (l := es)).eq_of_length hnothing.2
        exact .inl ⟨d, rfl, by rw [hall]; exact hwhole hnothing.1⟩
    · exact .inr ⟨⟨fault, d, by simp [FileStore.openDisk, hg, hes], h⟩, fun hcalm => hwhy hcalm.1⟩
  · exact .inr ⟨⟨fault, d, by simp [FileStore.openDisk, hg], h⟩, hwhy⟩

end Tells

end Disk

end SharedSheet
