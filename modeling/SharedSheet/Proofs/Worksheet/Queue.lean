import Mathlib.Data.List.Perm.Basic
import SharedSheet.Proofs.Worksheet.Settled

/-!
# The queue settles a worksheet

The queue takes cells one by one, each after the cells that it reads. An outcome that is there is
never made again, so it has to be right for good when it is made, before most of the others are
known. `Evaluation.PartlySettled` says that this is so: an outcome is made from outcomes that are
there already. No order of the cells has to be mentioned for it, only that a cell in the queue has
nothing left to wait for, which is what `Evaluation.Task.Pending` and `Evaluation.Progress` keep
track of.

At the end no cell is in the queue, and every cell that still waits does so for another one that
waits. These are the cells from which one gets to a cycle.

## Main definitions

* `Evaluation.PartlySettled` — the outcomes so far are right
* `Evaluation.Task.Pending` — a task waits for what it has to wait for
* `Evaluation.Progress` — what holds while the queue is worked off

## Main results

* `Evaluation.Progress.step`, `Evaluation.Progress.run` — it holds after every cell, and at the end
* `Worksheet.evaluate_settled` — the evaluation of a worksheet is settled, and no other one is
-/

namespace SharedSheet

open Formula

namespace Evaluation

/-! ### Single operations -/

theorem find?_record (v : Evaluation) (q r : Reference) (c : Content) :
    (v.record q c).outcomes.find? r = if r = q then some (v.content c) else v.outcomes.find? r := by
  simp only [record, Table.find?_insert, Ranked.rank_inj]

theorem find?_refuse (v : Evaluation) (ts : List Task) (r : Reference) :
    (v.refuse ts).outcomes.find? r =
      if r ∈ ts.map (·.cell) then some (.error .cycle) else v.outcomes.find? r := by
  show (ts.foldl (fun out t => out.insert t.cell (.error .cycle)) v.outcomes).find? r = _
  induction ts generalizing v with
  | nil => simp
  | cons t ts ih =>
    have := ih { v with outcomes := v.outcomes.insert t.cell (.error .cycle) }
    rw [List.foldl_cons, this, Table.find?_insert]
    by_cases hr : r ∈ ts.map (·.cell)
    · simp [hr]
    · simp [hr, Ranked.rank_inj]

/-- The tasks after one is done are the others, each waiting for one cell less. -/
theorem release_perm (r : Reference) (waiting : List Task) :
    ((release r waiting).1 ++ (release r waiting).2).Perm (waiting.map (Task.after r)) := by
  rw [release, List.partition_eq_filter_filter]
  exact List.filter_append_perm _ _

theorem isReady_of_mem_release {r : Reference} {waiting : List Task} :
    (∀ t ∈ (release r waiting).1, t.unread = []) ∧ ∀ t ∈ (release r waiting).2, t.unread ≠ [] := by
  simp only [release, List.partition_eq_filter_filter, List.mem_filter, Task.isReady]
  exact ⟨fun t ht => List.isEmpty_iff.1 ht.2, fun t ht hnil => by simp [hnil] at ht⟩

/-! ### The outcomes so far -/

/-- The outcomes so far are those of cells with a term, each is the right one, given the others, and
those that it is made from are there. -/
def PartlySettled (w : Worksheet) (v : Evaluation) : Prop :=
  ∀ r o, v.outcomes.find? r = some o → w.Grounded r ∧
    (∃ s, w.get? r = some s ∧ o = v.content (.ofTerm s)) ∧
    ∀ r', w.Reads r r' → (v.outcomes.find? r').isSome = true

section

variable {w : Worksheet} {v : Evaluation} {q : Reference} {s : String}

/-- What a cell holds has the same outcome later, if all cells that it reads have theirs. Later
means that cells with a term and without an outcome have got one. -/
theorem content_later {v' : Evaluation} (hs : w.get? q = some s)
    (hreads : ∀ r, w.Reads q r → (v.outcomes.find? r).isSome = true)
    (hlater : ∀ r, v'.outcomes.find? r = v.outcomes.find? r ∨
      v.outcomes.find? r = none ∧ (w.get? r).isSome = true) :
    v'.content (.ofTerm s) = v.content (.ofTerm s) := by
  refine content_congr fun r hr => ?_
  rcases hlater r with heq | ⟨hnone, hterm⟩
  · exact heq
  · have := hreads r ((Worksheet.reads_iff hs).2 ⟨hr, hterm⟩)
    rw [hnone] at this
    cases this

theorem isSome_find?_record {c : Content} {r : Reference}
    (h : (v.outcomes.find? r).isSome = true) :
    ((v.record q c).outcomes.find? r).isSome = true := by
  rw [find?_record]
  split
  · rfl
  · exact h

/-- A cell is evaluated after all cells that it reads. -/
theorem PartlySettled.record (h : PartlySettled w v) (hs : w.get? q = some s)
    (hnone : v.outcomes.find? q = none)
    (hreads : ∀ r, w.Reads q r → (v.outcomes.find? r).isSome = true) :
    PartlySettled w (v.record q (.ofTerm s)) := by
  have hlater : ∀ r, (v.record q (.ofTerm s)).outcomes.find? r = v.outcomes.find? r ∨
      v.outcomes.find? r = none ∧ (w.get? r).isSome = true := fun r => by
    by_cases hr : r = q
    · subst hr
      exact .inr ⟨hnone, by rw [hs]; rfl⟩
    · exact .inl (by rw [find?_record, if_neg hr])
  intro r o ho
  rw [find?_record] at ho
  split at ho
  · rename_i hr
    subst hr
    obtain rfl := Option.some.inj ho
    refine ⟨⟨_, fun r' hr' => ?_⟩, ⟨s, hs, (content_later hs hreads hlater).symm⟩,
      fun r' hr' => isSome_find?_record (hreads r' hr')⟩
    obtain ⟨o', ho'⟩ := Option.isSome_iff_exists.1 (hreads r' hr')
    exact (h r' o' ho').1
  · obtain ⟨hgrounded, ⟨s', hs', ho'⟩, hreads'⟩ := h r o ho
    exact ⟨hgrounded, ⟨s', hs', by rw [content_later hs' hreads' hlater, ho']⟩,
      fun r' hr' => isSome_find?_record (hreads' r' hr')⟩

end

/-! ### Tasks -/

/-- A task is about a cell without its outcome, has what the cell holds, and waits for the cells
that are read and are without theirs. -/
structure Task.Pending (w : Worksheet) (v : Evaluation) (t : Task) : Prop where
  unsettled : v.outcomes.find? t.cell = none
  content : ∃ s, w.get? t.cell = some s ∧ t.content = .ofTerm s
  unread : ∀ r, r ∈ t.unread ↔ w.Reads t.cell r ∧ v.outcomes.find? r = none

namespace Task

variable {w : Worksheet} {v : Evaluation} {q : Reference} {t : Task}

theorem after_of_unread_eq_nil (h : t.unread = []) : t.after q = t := by
  obtain ⟨cell, content, unread⟩ := t
  obtain rfl : unread = [] := h
  rfl

/-- Another cell got its outcome. -/
theorem Pending.after (h : t.Pending w v) (hne : t.cell ≠ q) (c : Content) :
    (t.after q).Pending w (v.record q c) where
  unsettled := by
    show (v.record q c).outcomes.find? t.cell = none
    rw [find?_record, if_neg hne]
    exact h.unsettled
  content := h.content
  unread r := by
    simp only [Task.after, List.mem_filter, h.unread, find?_record, decide_eq_true_eq]
    by_cases hr : r = q <;> simp [hr]

/-- A task that waits for nothing reads only cells that have their outcomes. -/
theorem Pending.isSome_of_reads (h : t.Pending w v) (hready : t.unread = []) {r : Reference}
    (hr : w.Reads t.cell r) : (v.outcomes.find? r).isSome = true := by
  by_contra hnone
  have := (h.unread r).2 ⟨hr, Option.not_isSome_iff_eq_none.1 hnone⟩
  rw [hready] at this
  cases this

end Task

/-! ### Progress -/

/-- What holds while the queue is worked off. -/
structure Progress (w : Worksheet) (v : Evaluation) (queue waiting : List Task) : Prop where
  /-- Every cell with a term has its outcome or a task. -/
  covered : ∀ r, (w.get? r).isSome = true →
    (v.outcomes.find? r).isSome = true ∨ r ∈ (queue ++ waiting).map (·.cell)
  /-- Tasks are about different cells. -/
  distinct : ((queue ++ waiting).map (·.cell)).Nodup
  pending : ∀ t ∈ queue ++ waiting, t.Pending w v
  ready : ∀ t ∈ queue, t.unread = []
  waits : ∀ t ∈ waiting, t.unread ≠ []
  settled : PartlySettled w v

namespace Progress

variable {w : Worksheet} {v : Evaluation} {queue waiting : List Task} {t : Task}

/-- The tasks after a cell is evaluated are the others, each waiting for one cell less. -/
theorem perm_tasks (h : Progress w v (t :: queue) waiting) :
    (queue ++ (release t.cell waiting).1 ++ (release t.cell waiting).2).Perm
      ((queue ++ waiting).map (Task.after t.cell)) := by
  have hqueue : queue.map (Task.after t.cell) = queue := by
    refine (List.map_congr_left fun u hu => ?_).trans (List.map_id queue)
    exact Task.after_of_unread_eq_nil (h.ready u (List.mem_cons_of_mem _ hu))
  rw [List.append_assoc, List.map_append, hqueue]
  exact (release_perm t.cell waiting).append_left queue

/-- **One cell is evaluated.** -/
theorem step (h : Progress w v (t :: queue) waiting) :
    Progress w (v.record t.cell t.content) (queue ++ (release t.cell waiting).1)
      (release t.cell waiting).2 := by
  have hperm := h.perm_tasks
  have hcells : ((queue ++ (release t.cell waiting).1 ++ (release t.cell waiting).2).map
      (·.cell)).Perm ((queue ++ waiting).map (·.cell)) := by
    have := hperm.map (·.cell)
    rwa [List.map_map] at this
  have hdistinct := h.distinct
  rw [List.cons_append, List.map_cons, List.nodup_cons] at hdistinct
  have ht := h.pending t List.mem_cons_self
  constructor
  · intro r hr
    rw [hcells.mem_iff]
    rcases h.covered r hr with hold | hmem
    · exact .inl (isSome_find?_record hold)
    · rcases List.mem_cons.1 hmem with rfl | hmem
      · exact .inl (by simp [find?_record])
      · exact .inr hmem
  · rw [hcells.nodup_iff]
    exact hdistinct.2
  · intro t' ht'
    obtain ⟨u, hu, rfl⟩ := List.mem_map.1 (hperm.mem_iff.1 ht')
    have hne : u.cell ≠ t.cell := fun heq => hdistinct.1 (heq ▸ List.mem_map_of_mem hu)
    exact (h.pending u (List.mem_cons_of_mem _ hu)).after hne t.content
  · intro t' ht'
    rcases List.mem_append.1 ht' with hqueue | hready
    · exact h.ready t' (List.mem_cons_of_mem _ hqueue)
    · exact isReady_of_mem_release.1 t' hready
  · exact isReady_of_mem_release.2
  · obtain ⟨s, hs, hcontent⟩ := ht.content
    rw [hcontent]
    exact h.settled.record hs ht.unsettled fun r hr =>
      ht.isSome_of_reads (h.ready t List.mem_cons_self) hr

/-- **The queue is worked off.** -/
theorem run (h : Progress w v queue waiting) :
    Progress w (Evaluation.run v queue waiting).1 [] (Evaluation.run v queue waiting).2 := by
  fun_induction Evaluation.run v queue waiting with
  | case1 v waiting => exact h
  | case2 v waiting t queue ih => exact ih h.step

/-- When the queue is empty, the cells that wait are those from which one gets to a cycle. -/
theorem reachesCycle_iff (h : Progress w v [] waiting) {r : Reference} :
    w.ReachesCycle r ↔ r ∈ waiting.map (·.cell) := by
  constructor
  · intro hr
    obtain ⟨t, ht⟩ := hr.holdsFormula
    obtain ⟨s, hs, -⟩ := ht
    rcases h.covered r (by rw [hs]; rfl) with hold | hmem
    · obtain ⟨o, ho⟩ := Option.isSome_iff_exists.1 hold
      exact absurd hr (h.settled r o ho).1.not_reachesCycle
    · exact hmem
  · refine Worksheet.reachesCycle_of_forall_exists_reads (fun r hr => ?_) r
    obtain ⟨t, ht, rfl⟩ := List.mem_map.1 hr
    obtain ⟨r', hr'⟩ := List.exists_mem_of_ne_nil _ (h.waits t ht)
    obtain ⟨hreads, hnone⟩ := ((h.pending t ht).unread r').1 hr'
    obtain ⟨-, -, -, hterm⟩ := id hreads
    rcases h.covered r' hterm with hold | hmem
    · simp [hnone] at hold
    · exact ⟨r', hmem, hreads⟩

theorem grounded (h : Progress w v [] waiting) {r : Reference} (hr : ¬ w.ReachesCycle r) :
    w.Grounded r := by
  refine ⟨r, fun r' hreads => ?_⟩
  obtain ⟨-, -, -, hterm⟩ := id hreads
  rcases h.covered r' hterm with hold | hmem
  · obtain ⟨o, ho⟩ := Option.isSome_iff_exists.1 hold
    exact (h.settled r' o ho).1
  · exact absurd ((h.reachesCycle_iff.2 hmem).of_reads hreads) hr

/-- When the cells that wait have got their error, the worksheet is settled. -/
theorem settledBy (h : Progress w v [] waiting) : w.SettledBy (v.refuse waiting) := by
  have hfind : ∀ r, ¬ w.ReachesCycle r →
      (v.refuse waiting).outcomes.find? r = v.outcomes.find? r := fun r hr => by
    rw [find?_refuse, if_neg (mt h.reachesCycle_iff.2 hr)]
  refine .of_outcome (fun r hr => ?_) (fun r hr => ?_) fun r s hs hr => ?_
  · have hcycle : ¬ w.ReachesCycle r := fun hcycle => by
      obtain ⟨t, s, hs, -⟩ := hcycle.holdsFormula
      simp [hr] at hs
    rw [hfind r hcycle]
    refine Option.eq_none_iff_forall_ne_some.2 fun o ho => ?_
    obtain ⟨-, ⟨s, hs, -⟩, -⟩ := h.settled r o ho
    simp [hr] at hs
  · rw [find?_refuse, if_pos (h.reachesCycle_iff.1 hr)]
  · have hlater : ∀ r', (v.refuse waiting).outcomes.find? r' = v.outcomes.find? r' ∨
        v.outcomes.find? r' = none ∧ (w.get? r').isSome = true := fun r' => by
      by_cases hr' : w.ReachesCycle r'
      · obtain ⟨t, s', hs', -⟩ := hr'.holdsFormula
        obtain ⟨u, hu, rfl⟩ := List.mem_map.1 (h.reachesCycle_iff.1 hr')
        exact .inr ⟨(h.pending u hu).unsettled, by rw [hs']; rfl⟩
      · exact .inl (hfind r' hr')
    rw [hfind r hr]
    rcases h.covered r (by rw [hs]; rfl) with hold | hmem
    · obtain ⟨o, ho⟩ := Option.isSome_iff_exists.1 hold
      obtain ⟨-, ⟨s', hs', ho'⟩, hreads⟩ := h.settled r o ho
      obtain rfl := Option.some.inj (hs.symm.trans hs')
      rw [ho, ho', content_later hs hreads hlater]
    · exact absurd (h.reachesCycle_iff.2 hmem) hr

end Progress

end Evaluation

/-! ### Worksheets -/

namespace Worksheet

open Evaluation

/-- At the beginning a cell waits for all cells that it reads. -/
theorem pending_of_mem_tasks {w : Worksheet} {t : Task} (h : t ∈ w.tasks) : t.Pending w {} := by
  obtain ⟨⟨r, s⟩, hrow, rfl⟩ := List.mem_map.1 h
  have hs : w.get? r = some s := Table.mem_rows_iff.1 hrow
  have hnone : ∀ r, (∅ : Table Reference Outcome).find? r = none := fun r => Table.find?_empty r
  refine ⟨hnone r, ⟨s, hs, rfl⟩, fun r' => ?_⟩
  rw [reads_iff hs, hnone, eq_self, and_true]
  exact List.mem_filter

theorem cells_tasks (w : Worksheet) : w.tasks.map (·.cell) = w.terms.keys := by
  rw [tasks, List.map_map]
  rfl

theorem progress_tasks (w : Worksheet) :
    Progress w {} (w.tasks.filter (·.isReady)) (w.tasks.filter (!·.isReady)) := by
  have hperm := List.filter_append_perm (fun t : Task => t.isReady) w.tasks
  constructor
  · intro r hr
    rw [(hperm.map _).mem_iff, cells_tasks]
    obtain ⟨s, hs⟩ := Option.isSome_iff_exists.1 hr
    exact .inr (List.mem_map_of_mem (Table.mem_rows_iff.2 hs))
  · rw [(hperm.map _).nodup_iff, cells_tasks]
    exact List.pairwise_map.2 (w.terms.sorted.imp fun hlt heq => by simp [heq] at hlt)
  · exact fun t ht => pending_of_mem_tasks (hperm.mem_iff.1 ht)
  · exact fun t ht => List.isEmpty_iff.1 (List.mem_filter.1 ht).2
  · exact fun t ht hnil => by simp [Task.isReady, hnil] at ht
  · intro r o ho
    cases ho

/-- **The evaluation of a worksheet is settled, and the settled evaluations are those with the same
outcomes.** -/
theorem evaluate_settled (w : Worksheet) :
    w.SettledBy w.evaluate ∧ ∀ v, w.SettledBy v ↔ v.outcomes = w.evaluate.outcomes := by
  have hprogress := w.progress_tasks.run
  have hsettled : w.SettledBy w.evaluate := hprogress.settledBy
  refine ⟨hsettled, fun v => ⟨fun hv => Table.ext fun r => ?_, fun heq => ?_⟩⟩
  · by_cases hr : w.ReachesCycle r
    · obtain ⟨t, ht⟩ := hr.holdsFormula
      rw [(hv.cyclic r t ht).2 hr, (hsettled.cyclic r t ht).2 hr]
    · exact hv.find?_eq hsettled (hprogress.grounded hr)
  · obtain ⟨outcomes, copies⟩ := v
    obtain rfl : outcomes = w.evaluate.outcomes := heq
    exact ⟨hsettled.outcomes, hsettled.literal, hsettled.broken, hsettled.cyclic,
      hsettled.upstream, hsettled.evaluated⟩

end Worksheet

end SharedSheet
