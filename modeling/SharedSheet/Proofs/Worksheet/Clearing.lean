import SharedSheet.Proofs.Payload
import SharedSheet.Proofs.Worksheet

/-!
# Clearing here and elsewhere

A worksheet takes a row or a column out by itself, and hands out a payload that is to do the same in
its copies. There the payload goes the long way: it is read line by line, each line writes the empty
term, and each cell that is written enlarges the extent. The two agree because of what holds of all
worksheets that changes can lead to. Their cells have names that are read back, so every line comes
through, and they lie inside the extent, so writing them once more enlarges nothing.

## Main definitions

* `Worksheet.Sound` — what the cells of a worksheet have in common
* `Worksheet.Action`, `Worksheet.run` — the worksheets that changes lead to
* `Worksheet.ClearedAlike` — a clearing that went the same way in a copy

## Main results

* `Worksheet.Sound.act`, `Worksheet.sound_run` — changes keep worksheets sound
* `Worksheet.Sound.applyPayload_clear` — the payload of a clearing clears a copy
* `Worksheet.clears_replicate` — rows and columns of all worksheets that changes lead to
-/

namespace SharedSheet

/-! ### Cells inside an extent -/

namespace Extent

variable {e f : Extent} {r q : Reference}

theorem Within.contains (h : e.Within f) (hr : e.contains r = true) : f.contains r = true := by
  simp only [Extent.contains, Bool.and_eq_true, decide_eq_true_eq] at hr ⊢
  exact ⟨UInt32.le_trans hr.1 h.1, UInt32.le_trans hr.2 h.2⟩

theorem contains_grow_self (e : Extent) (r : Reference) : (e.grow r).contains r = true :=
  (grow_within_iff.1 (.refl _)).2

theorem contains_grow (h : e.contains q = true) : (e.grow r).contains q = true :=
  (grow_within_iff.1 (.refl _)).1.contains h

/-- Cells inside do not enlarge an extent. -/
theorem growAll_of_contains {rs : List Reference} (h : ∀ r ∈ rs, e.contains r = true) :
    e.growAll rs = e :=
  ((growAll_within_iff.2 ⟨.refl e, h⟩).antisymm (growAll_within_iff.1 (.refl _)).1)

end Extent

namespace Worksheet

variable {w mirror : Worksheet} {r : Reference}

/-! ### Sound worksheets -/

/-- A worksheet whose cells have names and terms and lie inside its extent. -/
structure Sound (w : Worksheet) : Prop where
  isCell : ∀ r term, w.get? r = some term → r.IsCell
  ne_empty : ∀ r term, w.get? r = some term → term ≠ ""
  inside : ∀ r term, w.get? r = some term → w.extent.contains r = true

theorem sound_empty (e : Extent) : Sound { extent := e } where
  isCell _ _ h := nomatch h
  ne_empty _ _ h := nomatch h
  inside _ _ h := nomatch h

theorem get?_set_eq_some {term s : String} {q : Reference} (h : (w.set r term).get? q = some s) :
    (q = r ∧ term = s ∧ s ≠ "") ∨ w.get? q = some s := by
  rw [get?_set] at h
  split at h
  · next hq => exact .inl ⟨hq, kept_eq_some_iff.1 h⟩
  · exact .inr h

theorem Sound.set (h : w.Sound) (hr : r.IsCell) (term : String) : (w.set r term).Sound where
  isCell q s hq := by
    rcases get?_set_eq_some hq with ⟨rfl, -⟩ | hq
    · exact hr
    · exact h.isCell q s hq
  ne_empty q s hq := by
    rcases get?_set_eq_some hq with ⟨-, -, hne⟩ | hq
    · exact hne
    · exact h.ne_empty q s hq
  inside q s hq := by
    rcases get?_set_eq_some hq with ⟨rfl, -⟩ | hq
    · exact w.extent.contains_grow_self q
    · exact Extent.contains_grow (h.inside q s hq)

theorem Sound.apply {es : List Edit} (h : w.Sound) (hes : ∀ e ∈ es, e.IsSound) :
    (w.apply es).Sound := by
  induction es generalizing w with
  | nil => exact h
  | cons e es ih =>
    obtain ⟨he, hes⟩ := List.forall_mem_cons.1 hes
    exact ih (h.set he.isCell e.term) hes

/-- **What a clearing leaves.** -/
theorem get?_clear (w : Worksheet) (chosen : Reference → Bool) (r : Reference) :
    (w.clear chosen).1.get? r = if chosen r = true then none else w.get? r := by
  rw [get?, clear, Table.find?_filter, get?]
  cases chosen r <;> cases w.terms.find? r <;> rfl

theorem get?_clear_eq_some {chosen : Reference → Bool} {s : String}
    (h : (w.clear chosen).1.get? r = some s) : w.get? r = some s := by
  rw [get?_clear] at h
  exact (Option.ite_none_left_eq_some.1 h).2

theorem Sound.clear (h : w.Sound) (chosen : Reference → Bool) : (w.clear chosen).1.Sound where
  isCell r s hr := h.isCell r s (get?_clear_eq_some hr)
  ne_empty r s hr := h.ne_empty r s (get?_clear_eq_some hr)
  inside r s hr := h.inside r s (get?_clear_eq_some hr)

/-! ### Worksheets that changes lead to -/

/-- A change of a worksheet. The cells that are set have names. -/
inductive Action where
  | set (r : Reference) (isCell : r.IsCell) (term : String)
  | applyPayload (payload : String)
  | clearRow (row : UInt32)
  | clearColumn (column : UInt32)

/-- The worksheet after a change. A payload that is refused changes nothing. -/
def act (w : Worksheet) : Action → Worksheet
  | .set r _ term => w.set r term
  | .applyPayload payload =>
    match w.applyPayload payload with
    | .ok (made, _) => made
    | .error _ => w
  | .clearRow row => (w.clearRow row).1
  | .clearColumn column => (w.clearColumn column).1

/-- The worksheet after changes. -/
def run (w : Worksheet) (as : List Action) : Worksheet := as.foldl act w

theorem Sound.act (h : w.Sound) (a : Action) : (w.act a).Sound := by
  cases a with
  | set r isCell term => exact h.set isCell term
  | applyPayload payload =>
    rw [Worksheet.act, Worksheet.applyPayload]
    cases hparse : Payload.parse payload with
    | ok es => exact h.apply fun e he => Payload.isSound_of_parse hparse he
    | error bad => exact h
  | clearRow row => exact h.clear _
  | clearColumn column => exact h.clear _

/-- **Changes keep worksheets sound.** -/
theorem sound_run (h : w.Sound) (as : List Action) : (w.run as).Sound := by
  induction as generalizing w with
  | nil => exact h
  | cons a as ih => exact ih (h.act a)

/-! ### The payload of a clearing -/

/-- The changes that clear cells elsewhere. -/
def clearing (w : Worksheet) (chosen : Reference → Bool) : List Edit :=
  Edit.ofTable (fun _ => "") (w.terms.filter fun r _ => chosen r)

theorem payload_clear (w : Worksheet) (chosen : Reference → Bool) :
    (w.clear chosen).2 = Payload.render (w.clearing chosen) := by
  rw [clear, clearing, Edit.ofTable, Table.filter, Table.keys, List.filter_map, List.map_map]
  rfl

theorem mem_clearing {chosen : Reference → Bool} {e : Edit} (h : e ∈ w.clearing chosen) :
    (∃ s, w.get? e.reference = some s) ∧ e.term = "" := by
  obtain ⟨s, hs, hterm⟩ := Edit.mem_ofTable_iff.1 h
  rw [Table.find?_filter] at hs
  exact ⟨⟨s, (Option.filter_eq_some_iff.1 hs).1⟩, hterm.symm⟩

/-- The changes of a clearing come through. -/
theorem Sound.parse_clear (h : w.Sound) (chosen : Reference → Bool) :
    Payload.parse (w.clear chosen).2 = .ok (w.clearing chosen) := by
  rw [payload_clear, Payload.parse_render_eq_self_iff]
  intro e he
  obtain ⟨⟨s, hs⟩, hterm⟩ := mem_clearing he
  refine ⟨⟨h.isCell _ s hs, ?_⟩, Edit.received_eq_self_iff.2 ?_⟩ <;> simp [hterm]

/-- Made where they come from, they make what the clearing makes. -/
theorem Sound.apply_clearing (h : w.Sound) (chosen : Reference → Bool) :
    w.apply (w.clearing chosen) = (w.clear chosen).1 := by
  refine ext ?_ fun r => ?_
  · rw [extent_apply]
    refine Extent.growAll_of_contains fun r hr => ?_
    obtain ⟨e, he, rfl⟩ := List.mem_map.1 hr
    obtain ⟨⟨s, hs⟩, -⟩ := mem_clearing he
    exact h.inside _ s hs
  · rw [get?_apply, clearing, Edit.lastTerm?_ofTable, Table.find?_filter, get?_clear, get?]
    cases chosen r <;> cases w.terms.find? r <;> rfl

/-- **The payload of a clearing clears a copy.** -/
theorem Sound.applyPayload_clear (h : w.Sound) (chosen : Reference → Bool)
    (hterms : ∀ r, mirror.get? r = w.get? r) (hextent : mirror.extent = w.extent) :
    mirror.applyPayload (w.clear chosen).2 =
      .ok ((w.clear chosen).1, (w.clearing chosen).length) := by
  rw [ext hextent hterms, applyPayload, h.parse_clear]
  simp only [h.apply_clearing]

/-! ### Rows and columns -/

/-- That what was cleared here is cleared in a copy too, and nothing else. -/
structure ClearedAlike (w mirror : Worksheet) (cleared : Worksheet × String)
    (chosen : Reference → Prop) : Prop where
  /-- The payload is accepted, and the copy is then equal to what is left here. -/
  copied : ∃ count, mirror.applyPayload cleared.2 = .ok (cleared.1, count)
  extent_eq : cleared.1.extent = w.extent
  get?_of_chosen : ∀ r, chosen r → cleared.1.get? r = none
  get?_of_not_chosen : ∀ r, ¬ chosen r → cleared.1.get? r = w.get? r

theorem Sound.clearedAlike (h : w.Sound) {chosen : Reference → Bool} {P : Reference → Prop}
    (hchosen : ∀ r, chosen r = true ↔ P r) (hterms : ∀ r, mirror.get? r = w.get? r)
    (hextent : mirror.extent = w.extent) : ClearedAlike w mirror (w.clear chosen) P where
  copied := ⟨_, h.applyPayload_clear chosen hterms hextent⟩
  extent_eq := rfl
  get?_of_chosen r hr := by rw [get?_clear, if_pos ((hchosen r).2 hr)]
  get?_of_not_chosen r hr := by rw [get?_clear, if_neg (mt (hchosen r).1 hr)]

/-- **Clearing a row or a column clears it in every copy.** In all worksheets that changes lead to,
the stored terms are not empty and their cells lie inside the extent. A copy with the same terms and
the same extent takes the payload of a clearing, and is then again equal: the row or the column is
gone from both, and nothing else, the extent included, is changed. -/
theorem clears_replicate (e : Extent) (as : List Action) :
    (∀ r term, (run { extent := e } as).get? r = some term →
      term ≠ "" ∧ (run { extent := e } as).extent.contains r = true) ∧
    ∀ mirror : Worksheet, (∀ r, mirror.get? r = (run { extent := e } as).get? r) →
      mirror.extent = (run { extent := e } as).extent → ∀ n : UInt32,
        ClearedAlike (run { extent := e } as) mirror ((run { extent := e } as).clearRow n)
          (·.row = n) ∧
        ClearedAlike (run { extent := e } as) mirror ((run { extent := e } as).clearColumn n)
          (·.column = n) := by
  have hsound := sound_run (sound_empty e) as
  refine ⟨fun r term h => ⟨hsound.ne_empty r term h, hsound.inside r term h⟩,
    fun mirror hterms hextent n => ⟨?_, ?_⟩⟩
  · exact hsound.clearedAlike (fun _ => beq_iff_eq) hterms hextent
  · exact hsound.clearedAlike (fun _ => beq_iff_eq) hterms hextent

/-- Changes with a term of two lines, a refused payload, and a cell far out that is only cleared. -/
def drafting : List Action :=
  [.set ⟨2, 3⟩ (by decide) "x\ny", .applyPayload "$A1 1\r\n\n$C3 z", .applyPayload "A1 2",
    .clearColumn 1, .set ⟨1, 1⟩ (by decide) "2", .set ⟨9, 9⟩ (by decide) ""]

/-- A copy of what they lead to. -/
def draftCopy : Worksheet :=
  run { extent := ⟨9, 9⟩ }
    [.applyPayload "$C3 z\n$A1 2\n", .set ⟨2, 3⟩ (by decide) "x\ny"]

theorem clears_replicate_drafting :
    (∀ r, draftCopy.get? r = (run { extent := ⟨2, 2⟩ } drafting).get? r) ∧
      draftCopy.extent = (run { extent := ⟨2, 2⟩ } drafting).extent ∧
      ((run { extent := ⟨2, 2⟩ } drafting).clearRow 3).1.terms.rows = [(⟨1, 1⟩, "2")] ∧
      ClearedAlike (run { extent := ⟨2, 2⟩ } drafting) draftCopy
        ((run { extent := ⟨2, 2⟩ } drafting).clearRow 3) (·.row = 3) := by
  have hrows : draftCopy.terms.rows = (run { extent := ⟨2, 2⟩ } drafting).terms.rows := by
    decide +kernel
  have hterms : ∀ r, draftCopy.get? r = (run { extent := ⟨2, 2⟩ } drafting).get? r :=
    fun r => congrArg (Table.search r) hrows
  have hextent : draftCopy.extent = (run { extent := ⟨2, 2⟩ } drafting).extent := by
    decide +kernel
  exact ⟨hterms, hextent, by decide +kernel,
    ((clears_replicate ⟨2, 2⟩ drafting).2 draftCopy hterms hextent 3).1⟩

end Worksheet

end SharedSheet
