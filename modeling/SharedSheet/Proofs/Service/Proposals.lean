import SharedSheet.Proofs.Service.Cursors
import SharedSheet.Proofs.Service.Restarts

/-!
# Proposals are invisible

Proposals are kept in the log, where they take up numbers, and that is all. The accepted state of
every sheet is the same as in a run in which some of the proposals were never made, although all
later entries have other numbers there.

Numbers reach the accepted state in two places. Entries are put in their order, and the cells of a
cache are written out in the order of the entries that wrote them. Both depend on which of two
numbers is less and on nothing else, and leaving out numbers does not change that. So the books of
the two runs are related by what they accepted, entry by entry but for the numbers.

## Main definitions

* `Request.isProposal` — the requests that may be left out
* `Omits` — events, and the same without some proposals
* `Book.AcceptsAlike` — books that accepted the same

## Main results

* `Book.AcceptsAlike.respond`, `Book.AcceptsAlike.respond_proposal` — books stay alike if both are
  asked, and also if a proposal is made to one of them
* `CachedSheet.payload_delta_congr` — numbers do not show in the payload that writes the cells
* `Server.proposals_invisible` — proposals do not show in the accepted state
-/

namespace SharedSheet

/-! ### Proposals -/

namespace Request

/-- The payload of a request that updates a sheet. -/
def payload? : Request → Option String
  | publish _ _ payload | propose _ _ payload | submit _ _ payload => some payload
  | _ => none

/-- Whether a request makes a proposal: it says so, or it is submitted by somebody else than the
publisher named. -/
def isProposal : Request → Bool
  | propose .. => true
  | submit caller a _ => caller ≠ a.publisher
  | _ => false

end Request

namespace Book

variable {b b' : Book} {extent : Extent} {now : Timestamp} {q : Request} {action : Action}

theorem enters_of_planPublish {caller payload : String} {a : SheetAddress}
    (h : b.planPublish now caller a payload = .ok action) :
    ∃ d, action = .enter d ∧ d.payload = payload ∧ d.accepted = true := by
  obtain ⟨es, -, h⟩ := bind_eq_ok_iff.1 h
  obtain ⟨sheet, -, h⟩ := bind_eq_ok_iff.1 h
  exact ⟨_, (Except.ok.inj h).symm, rfl, rfl⟩

theorem enters_of_planPropose {caller payload : String} {a : SheetAddress}
    (h : b.planPropose now caller a payload = .ok action) :
    ∃ d, action = .enter d ∧ d.payload = payload ∧ d.accepted = false := by
  obtain ⟨es, -, h⟩ := bind_eq_ok_iff.1 h
  obtain ⟨sheet, -, h⟩ := bind_eq_ok_iff.1 h
  exact ⟨_, (Except.ok.inj h).symm, rfl, rfl⟩

/-- What is entered for a request has its payload, and is accepted unless it is a proposal. -/
theorem enters_of_plan {payload : String} (hq : q.payload? = some payload)
    (h : b.plan extent now q = .ok action) :
    ∃ d, action = .enter d ∧ d.payload = payload ∧ d.accepted = !q.isProposal := by
  cases q with
  | publish caller a payload' =>
    obtain rfl := Option.some.inj hq
    exact enters_of_planPublish h
  | propose caller a payload' =>
    obtain rfl := Option.some.inj hq
    exact enters_of_planPropose h
  | submit caller a payload' =>
    obtain rfl := Option.some.inj hq
    simp only [plan] at h
    split at h
    · rename_i howner
      obtain ⟨d, haction, hpayload, haccepted⟩ := enters_of_planPublish h
      exact ⟨d, haction, hpayload, by simp [haccepted, Request.isProposal, howner]⟩
    · rename_i howner
      obtain ⟨d, haction, hpayload, haccepted⟩ := enters_of_planPropose h
      exact ⟨d, haction, hpayload, by simp [haccepted, Request.isProposal, howner]⟩
  | register | publishers | sheets | create | delete | resolve | publishedDelta | subscriptionDelta
  | snapshot | evaluate => simp [Request.payload?] at hq

/-! ### Books that accepted the same -/

/-- The accepted entries of all sheets without their numbers. -/
def acceptedDrafts (b : Book) : List Draft := (b.entries.filter (·.accepted)).map (·.toDraft)

/-- A book that gave another number last. -/
def recounted (b : Book) (n : Nat) : Book :=
  { b with registry := { b.registry with lastUpdateId := n } }

/-- Books that accepted the same: they have the same publishers and sheets, and the same accepted
entries but for the numbers. The first one gave at least as many numbers. -/
structure AcceptsAlike (b b' : Book) : Prop where
  registry : b.registry = (b'.recounted b.registry.lastUpdateId).registry
  lastUpdateId : b'.registry.lastUpdateId ≤ b.registry.lastUpdateId
  acceptedDrafts : b.acceptedDrafts = b'.acceptedDrafts

theorem acceptedDrafts_append (d : Draft) : (b.append d).2.acceptedDrafts =
    b.acceptedDrafts ++ if d.accepted then [d] else [] := by
  have hentry : (b.nextEntry d).accepted = d.accepted := rfl
  simp only [acceptedDrafts, append, addEntry, List.filter_append, List.map_append,
    List.filter_cons, List.filter_nil, hentry]
  split <;> rfl

theorem acceptedDrafts_deleteSheet (id : Nat) : (b.deleteSheet id).2.acceptedDrafts =
    b.acceptedDrafts.filter (·.sheet != id) := by
  simp only [acceptedDrafts, deleteSheet, withoutSheet, List.filter_filter, List.filter_map]
  congr 1
  exact List.filter_congr fun e _ => Bool.and_comm ..

theorem map_toDraft_acceptedOf (id : Nat) : (b.acceptedOf id).map (·.toDraft) =
    b.acceptedDrafts.filter (·.sheet == id) := by
  simp only [acceptedDrafts, acceptedOf, List.filter_map, List.filter_filter]
  congr 1
  exact List.filter_congr fun e _ => Bool.and_comm ..

/-- Plans do not depend on the number given last. -/
theorem plan_recounted (n : Nat) : (b.recounted n).plan extent now q = b.plan extent now q := by
  cases q <;> rfl

namespace AcceptsAlike

theorem refl (b : Book) : AcceptsAlike b b := ⟨rfl, Nat.le_refl _, rfl⟩

/-- Both books do the same. -/
theorem act (h : AcceptsAlike b b') (action : Action) :
    AcceptsAlike (b.act action).2 (b'.act action).2 := by
  cases action with
  | tell answer => exact h
  | list publisher =>
    have hknows : b.registry.knows publisher = b'.registry.knows publisher :=
      congrArg (·.knows publisher) h.registry
    simp only [Book.act, registerPublisher, hknows]
    split
    · exact h
    · exact { h with registry := congrArg (·.addPublisher publisher) h.registry }
  | make a v => exact { h with registry := congrArg (·.addSheet a v) h.registry }
  | drop sheet =>
    refine { h with registry := congrArg (·.removeSheet sheet) h.registry, acceptedDrafts := ?_ }
    simp only [Book.act, acceptedDrafts_deleteSheet, h.acceptedDrafts]
  | enter d =>
    have hle := h.lastUpdateId
    refine ⟨?_, ?_, ?_⟩
    · exact congrArg (·.noteUpdate (b.registry.lastUpdateId + 1)) h.registry
    · simp only [Book.act, append, addEntry, nextEntry, Registry.noteUpdate]
      omega
    · simp only [Book.act, acceptedDrafts_append, h.acceptedDrafts]

/-- **Books that are asked the same stay alike.** -/
theorem respond (h : AcceptsAlike b b') (extent : Extent) (now : Timestamp) (q : Request) :
    AcceptsAlike (b.respond extent now q).2 (b'.respond extent now q).2 := by
  cases hreads : q.readsEntries with
  | true => rwa [respond_of_readsEntries hreads, respond_of_readsEntries hreads]
  | false =>
    unfold Book.respond
    rw [plan_congr h.registry hreads, plan_recounted]
    cases b'.plan extent now q with
    | error e => exact h
    | ok action => exact h.act action

/-- **Books stay alike if a proposal is made to one of them.** -/
theorem respond_proposal (h : AcceptsAlike b b') (hq : q.isProposal = true) (extent : Extent)
    (now : Timestamp) : AcceptsAlike (b.respond extent now q).2 b' := by
  have hpayload : ∃ payload, q.payload? = some payload := by
    cases q <;> simp [Request.isProposal, Request.payload?] at hq ⊢
  obtain ⟨payload, hpayload⟩ := hpayload
  unfold Book.respond
  cases hplan : b.plan extent now q with
  | error e => exact h
  | ok action =>
    obtain ⟨d, rfl, -, haccepted⟩ := enters_of_plan hpayload hplan
    refine ⟨congrArg (·.noteUpdate (b.registry.lastUpdateId + 1)) h.registry,
      Nat.le_trans h.lastUpdateId (Nat.le_max_left _ _), ?_⟩
    simp only [Book.act, acceptedDrafts_append, haccepted, hq, h.acceptedDrafts]
    exact List.append_nil _

end AcceptsAlike

end Book

/-! ### Numbers do not show -/

/-- An entry with another number. -/
def LogEntry.renumbered (f : Nat → Nat) (e : LogEntry) : LogEntry := { e with id := f e.id }

/-- A cell that was written by an entry with another number. -/
def CachedCell.renumbered (f : Nat → Nat) (c : CachedCell) : CachedCell :=
  { c with updateId := f c.updateId }

/-- Entries that differ in their numbers alone are renumbered in their order. -/
theorem LogEntry.exists_renumbered {es es' : List LogEntry}
    (hsame : es.map (·.toDraft) = es'.map (·.toDraft)) (horder : es.Pairwise (·.id < ·.id))
    (horder' : es'.Pairwise (·.id < ·.id)) : ∃ f : Nat → Nat, es' = es.map (renumbered f) ∧
      ∀ e₁ ∈ es, ∀ e₂ ∈ es, f e₁.id ≤ f e₂.id ↔ e₁.id ≤ e₂.id := by
  induction es generalizing es' with
  | nil => exact ⟨fun n => n, List.map_eq_nil_iff.1 hsame.symm, by simp⟩
  | cons e es ih =>
    cases es' with
    | nil => simp at hsame
    | cons e' es' =>
      obtain ⟨hdraft, hsame⟩ := List.cons.inj hsame
      obtain ⟨hlt, horder⟩ := List.pairwise_cons.1 horder
      obtain ⟨hlt', horder'⟩ := List.pairwise_cons.1 horder'
      obtain ⟨f, rfl, hmono⟩ := ih hsame horder horder'
      have hnew : Function.update f e.id e'.id e.id = e'.id := Function.update_self ..
      have hold : ∀ e₁ ∈ es, Function.update f e.id e'.id e₁.id = f e₁.id := fun e₁ he₁ =>
        Function.update_of_ne (Nat.ne_of_gt (hlt e₁ he₁)) ..
      have hlt'' : ∀ e₁ ∈ es, e'.id < f e₁.id := fun e₁ he₁ => hlt' _ (List.mem_map_of_mem he₁)
      refine ⟨Function.update f e.id e'.id, ?_, ?_⟩
      · rw [List.map_cons, List.cons.injEq]
        refine ⟨?_, List.map_congr_left fun e₁ he₁ => ?_⟩
        · obtain ⟨d, n⟩ := e'
          obtain rfl : e.toDraft = d := hdraft
          rw [renumbered, hnew]
        · rw [renumbered, renumbered, hold e₁ he₁]
      · rintro e₁ (_ | ⟨_, he₁⟩) e₂ (_ | ⟨_, he₂⟩)
        · simp
        · rw [hnew, hold e₂ he₂]
          exact iff_of_true (Nat.le_of_lt (hlt'' e₂ he₂)) (Nat.le_of_lt (hlt e₂ he₂))
        · rw [hnew, hold e₁ he₁]
          exact iff_of_false (Nat.not_le_of_lt (hlt'' e₁ he₁)) (Nat.not_le_of_lt (hlt e₁ he₁))
        · rw [hold e₁ he₁, hold e₂ he₂]
          exact hmono e₁ he₁ e₂ he₂

theorem CachedCell.last?_renumbered (f : Nat → Nat) (r : Reference) (es : List LogEntry) :
    last? r (es.map (LogEntry.renumbered f)) = (last? r es).map (renumbered f) := by
  induction es using List.reverseRecOn with
  | nil => rfl
  | append_singleton es e ih =>
    have hedits : (e.renumbered f).edits = e.edits := rfl
    rw [List.map_append, List.map_singleton, last?_concat, last?_concat, ih, hedits]
    cases Edit.lastTerm? r e.edits <;> rfl

namespace CachedSheet

theorem rows_ofEntries_renumbered (extent : Extent) (f : Nat → Nat) (es : List LogEntry) :
    (ofEntries extent (es.map (LogEntry.renumbered f))).cells.rows =
      (ofEntries extent es).cells.rows.map fun row => (row.1, row.2.renumbered f) := by
  have hcells : (ofEntries extent (es.map (LogEntry.renumbered f))).cells =
      (ofEntries extent es).cells.map fun _ c => c.renumbered f := Table.ext fun r => by
    rw [Table.find?_map, find?_ofEntries, find?_ofEntries, CachedCell.last?_renumbered]
  rw [hcells]
  rfl

/-- **Numbers do not show in the payload that writes the cells.** -/
theorem payload_delta_congr (extent : Extent) {es es' : List LogEntry}
    (hsame : es.map (·.toDraft) = es'.map (·.toDraft)) (horder : es.Pairwise (·.id < ·.id))
    (horder' : es'.Pairwise (·.id < ·.id)) (hpos : ∀ e ∈ es, 0 < e.id)
    (hpos' : ∀ e ∈ es', 0 < e.id) :
    ((ofEntries extent es).delta 0).payload = ((ofEntries extent es').delta 0).payload := by
  obtain ⟨f, rfl, hmono⟩ := LogEntry.exists_renumbered hsame horder horder'
  -- Of two cells the same one comes first, since their entries are in the same order.
  have hfirst : ∀ row₁ ∈ (ofEntries extent es).cells.rows,
      ∀ row₂ ∈ (ofEntries extent es).cells.rows,
      decide (row₁.2.updateId ≤ row₂.2.updateId) =
        decide ((row₁.2.renumbered f).updateId ≤ (row₂.2.renumbered f).updateId) := by
    intro row₁ hrow₁ row₂ hrow₂
    obtain ⟨e₁, he₁, hid₁, -⟩ := exists_entry_of_mem_rows extent horder hrow₁
    obtain ⟨e₂, he₂, hid₂, -⟩ := exists_entry_of_mem_rows extent horder hrow₂
    rw [decide_eq_decide, CachedCell.renumbered, CachedCell.renumbered, ← hid₁, ← hid₂]
    exact (hmono e₁ he₁ e₂ he₂).symm
  rw [delta, delta, writtenSince_zero extent horder hpos, writtenSince_zero extent horder' hpos',
    rows_ofEntries_renumbered, ← List.map_mergeSort hfirst, List.map_map]
  rfl

end CachedSheet

/-! ### The accepted state of alike books -/

theorem Book.Sound.untimed {b : Book} (h : b.Sound) : b.untimed.Sound where
  registry := h.registry
  ascending := List.pairwise_map.2 h.ascending
  id_pos := List.forall_mem_map.2 h.id_pos
  id_le := List.forall_mem_map.2 h.id_le
  homed := List.forall_mem_map.2 h.homed
  readable := List.forall_mem_map.2 h.readable

namespace Book.AcceptsAlike

variable {b b' : Book}

theorem resolveVisible (h : b.AcceptsAlike b') (caller : String) (a : SheetAddress) :
    b.resolveVisible caller a = b'.resolveVisible caller a :=
  resolveVisible_congr h.registry caller a

theorem map_toDraft_acceptedOf (h : b.AcceptsAlike b') (id : Nat) :
    (b.acceptedOf id).map (·.toDraft) = (b'.acceptedOf id).map (·.toDraft) := by
  rw [Book.map_toDraft_acceptedOf, h.acceptedDrafts, Book.map_toDraft_acceptedOf]

theorem payload (h : b.AcceptsAlike b') (hb : b.Sound) (hb' : b'.Sound) (extent : Extent)
    (id : Nat) :
    ((b.sheetState extent id).delta 0).payload = ((b'.sheetState extent id).delta 0).payload :=
  CachedSheet.payload_delta_congr extent (h.map_toDraft_acceptedOf id) (hb.ascending_acceptedOf id)
    (hb'.ascending_acceptedOf id) (fun e he => hb.id_pos e (mem_acceptedOf.1 he).1)
    fun e he => hb'.id_pos e (mem_acceptedOf.1 he).1

theorem worksheet (h : b.AcceptsAlike b') (extent : Extent) (id : Nat) :
    (b.sheetState extent id).worksheet = (b'.sheetState extent id).worksheet := by
  have hedits : ∀ es : List LogEntry, es.flatMap LogEntry.edits =
      (es.map (·.toDraft)).flatMap fun d => Payload.edits d.payload := fun es => by
    rw [List.flatMap_map]
    rfl
  rw [sheetState, sheetState, CachedSheet.worksheet_ofEntries, CachedSheet.worksheet_ofEntries,
    hedits, hedits, h.map_toDraft_acceptedOf]

end Book.AcceptsAlike

/-! ### Two runs -/

/-- Events, and the same events without some proposals. -/
inductive Omits : List Event → List Event → Prop
  | nil : Omits [] []
  /-- An event that is in both runs. -/
  | keep {es es' : List Event} (e : Event) : Omits es es' → Omits (e :: es) (e :: es')
  /-- A proposal that is left out. -/
  | leaveOut {es es' : List Event} (now : Timestamp) {q : Request} :
    q.isProposal = true → Omits es es' → Omits (.request now q :: es) es'

namespace Server

variable {σ : Type} [Medium σ] {v v' : Server σ} {extent : Extent}

/-- Two servers that accepted the same, numbers and times of entries apart. -/
structure Abreast (extent : Extent) (v v' : Server σ) : Prop where
  left : v.Follows extent v.service.book.untimed
  right : v'.Follows extent v'.service.book.untimed
  accepts : v.service.book.untimed.AcceptsAlike v'.service.book.untimed

namespace Abreast

/-- What follows books that accepted the same is abreast. -/
theorem of_follows {b b' : Book} (h : v.Follows extent b) (h' : v'.Follows extent b')
    (haccepts : b.AcceptsAlike b') : Abreast extent v v' := by
  obtain rfl := h.book
  obtain rfl := h'.book
  exact ⟨h, h', haccepts⟩

/-- An event that is in both runs. -/
theorem step (h : Abreast extent v v') {e : Event} (hcalm : ∀ r, e ≠ .refuse r)
    (hrestart : e = .restart → Medium.Reopens σ ∧
      v.service.book.registry.lastSheetId < UInt64.size ∧ v.lastUpdateId < UInt64.size) :
    Abreast extent (v.step e).1 (v'.step e).1 := by
  have hsheet : v.service.book.registry.lastSheetId = v'.service.book.registry.lastSheetId :=
    congrArg (·.lastSheetId) h.accepts.registry
  have hupdate : v'.lastUpdateId ≤ v.lastUpdateId := h.accepts.lastUpdateId
  refine of_follows (h.left.step hcalm hrestart).1 (h.right.step hcalm fun he => ?_).1 ?_
  · obtain ⟨hreopens, hsheet', hupdate'⟩ := hrestart he
    exact ⟨hreopens, hsheet ▸ hsheet', Nat.lt_of_le_of_lt hupdate hupdate'⟩
  · cases e with
    | request now q => exact h.accepts.respond extent .epoch q
    | checkpoint | restart | refuse => exact h.accepts

/-- A proposal that is left out. -/
theorem step_proposal (h : Abreast extent v v') (now : Timestamp) {q : Request}
    (hq : q.isProposal = true) : Abreast extent (v.step (.request now q)).1 v' :=
  of_follows (h.left.step (e := .request now q) (by simp) (by simp)).1 h.right
    (h.accepts.respond_proposal hq extent .epoch)

/-- **Servers stay abreast if one of them gets more proposals.** -/
theorem run {es es' : List Event} (h : Abreast extent v v') (homits : Omits es es')
    (hcalm : ∀ r, .refuse r ∉ es) (hreopens : .restart ∈ es → Medium.Reopens σ)
    (hfew : v.lastUpdateId + (issuedIds (v.run es).2).length < UInt64.size)
    (hsheets : (v.run es).1.service.book.registry.lastSheetId < UInt64.size) :
    Abreast extent (v.run es).1 (v'.run es').1 := by
  induction homits generalizing v v' with
  | nil => exact h
  | @keep es es' e _ ih =>
    have hlast := Nat.lt_of_le_of_lt (grows_run h.left.sound hfew).lastSheetId hsheets
    simp only [Server.run, issuedIds_append, List.length_append] at hfew hsheets ⊢
    obtain ⟨-, -, hnumber, -⟩ := sound_step h.left.sound (by omega) e
    refine ih (h.step (fun r he => hcalm r (he ▸ List.mem_cons_self)) fun he => ?_)
      (fun r hr => hcalm r (List.mem_cons_of_mem _ hr))
      (fun hr => hreopens (List.mem_cons_of_mem _ hr)) (by omega) hsheets
    exact ⟨hreopens (he ▸ List.mem_cons_self), hlast, by omega⟩
  | @leaveOut es es' now q hq _ ih =>
    simp only [Server.run, issuedIds_append, List.length_append] at hfew hsheets ⊢
    obtain ⟨-, -, hnumber, -⟩ := sound_step h.left.sound (by omega) (.request now q)
    exact ih (h.step_proposal now hq) (fun r hr => hcalm r (List.mem_cons_of_mem _ hr))
      (fun hr => hreopens (List.mem_cons_of_mem _ hr)) (by omega) hsheets

end Abreast

end Server

namespace Service

variable {σ : Type} [Medium σ] {s s' : Service σ}

/-- Values are those of the worksheet that is shown. -/
theorem exec_evaluate (requester : String) (a : SheetAddress) (term : String) :
    (Call.exec (evaluate requester a term) s).1 =
      (Call.exec (snapshot requester a) s).1 >>= fun w =>
        (w.evaluate.term term).mapError .cell := by
  unfold evaluate
  rw [Call.exec_bind]
  rcases Call.exec (snapshot requester a) s with ⟨_ | w, s'⟩
  · rfl
  · exact congrArg Prod.fst (exec_orRefuse _ _)

/-- The accepted state is the same in services that accepted the same. -/
theorem accepted_congr (h : s.Sound) (h' : s'.Sound) (hextent : s.extent = s'.extent)
    (haccepts : s.book.untimed.AcceptsAlike s'.book.untimed) (requester : String)
    (a : SheetAddress) (term : String) :
    (Call.exec (subscriptionDelta requester a 0) s).1.map (·.payload) =
        (Call.exec (subscriptionDelta requester a 0) s').1.map (·.payload) ∧
      (Call.exec (snapshot requester a) s).1 = (Call.exec (snapshot requester a) s').1 ∧
      (Call.exec (evaluate requester a term) s).1 =
        (Call.exec (evaluate requester a term) s').1 := by
  have hsheet : s.book.resolveVisible requester a = s'.book.resolveVisible requester a :=
    haccepts.resolveVisible requester a
  have hworksheet : (Call.exec (snapshot requester a) s).1 =
      (Call.exec (snapshot requester a) s').1 := by
    rw [exec_snapshot h.mirrors_current, exec_snapshot h'.mirrors_current, hsheet, hextent]
    refine congrArg (fun f => Except.map f (s'.book.resolveVisible requester a))
      (funext fun sheet => ?_)
    have := haccepts.worksheet s'.extent sheet.id
    rwa [Book.sheetState_untimed, Book.sheetState_untimed] at this
  refine ⟨?_, hworksheet, by rw [exec_evaluate, exec_evaluate, hworksheet]⟩
  rw [exec_subscriptionDelta h.mirrors_current, exec_subscriptionDelta h'.mirrors_current, hsheet,
    hextent]
  cases s'.book.resolveVisible requester a with
  | error e => rfl
  | ok sheet =>
    have := haccepts.payload h.book.untimed h'.book.untimed s'.extent sheet.id
    rw [Book.sheetState_untimed, Book.sheetState_untimed] at this
    exact congrArg Except.ok this

end Service

namespace Server

variable {σ : Type} [Medium σ]

/-- **Proposals are invisible** to the accepted state. A server gets the same requests with and
without some of the proposals, restarts and checkpoints among them, and no access is refused. Then
both are open, and the payload that brings a subscriber up to date from the beginning, the snapshot
and the value of every term are the same for every sheet and everybody who asks. -/
theorem proposals_invisible (extent : Extent) (keepsCheckpoint : Bool) {es es' : List Event}
    (homits : Omits es es') (hcalm : ∀ r, .refuse r ∉ es)
    (hreopens : .restart ∈ es → Medium.Reopens σ)
    (hfew : (issuedIds (history σ extent keepsCheckpoint es).2).length < UInt64.size)
    (hsheets : (history σ extent keepsCheckpoint es).1.service.book.registry.lastSheetId <
      UInt64.size) :
    (history σ extent keepsCheckpoint es).1.isOpen = true ∧
      (history σ extent keepsCheckpoint es').1.isOpen = true ∧
      ∀ requester a term,
        (Call.exec (Service.subscriptionDelta requester a 0)
            (history σ extent keepsCheckpoint es).1.service).1.map (·.payload) =
          (Call.exec (Service.subscriptionDelta requester a 0)
            (history σ extent keepsCheckpoint es').1.service).1.map (·.payload) ∧
        (Call.exec (Service.snapshot requester a)
            (history σ extent keepsCheckpoint es).1.service).1 =
          (Call.exec (Service.snapshot requester a)
            (history σ extent keepsCheckpoint es').1.service).1 ∧
        (Call.exec (Service.evaluate requester a term)
            (history σ extent keepsCheckpoint es).1.service).1 =
          (Call.exec (Service.evaluate requester a term)
            (history σ extent keepsCheckpoint es').1.service).1 := by
  have hstart := follows_start (σ := σ) extent keepsCheckpoint
  have hlast := lastUpdateId_start (σ := σ) extent keepsCheckpoint
  have habreast : Abreast extent (history σ extent keepsCheckpoint es).1
      (history σ extent keepsCheckpoint es').1 :=
    (Abreast.of_follows hstart hstart (.refl {})).run homits hcalm hreopens
      (by rw [hlast, Nat.zero_add]; exact hfew) hsheets
  exact ⟨habreast.left.isOpen, habreast.right.isOpen,
    Service.accepted_congr habreast.left.sound habreast.right.sound
      (habreast.left.extent.trans habreast.right.extent.symm) habreast.accepts⟩

/-- A run in which others make proposals before the cache is saved and the server started again. -/
def suggesting (proposals : List Event) : List Event :=
  publishing ["$A1 1"] ++ (proposals ++ [.checkpoint, .restart,
    .request .epoch (.publish "ana" planSheet.address "$B2 x")])

/-- A proposal for the sheet of somebody else. -/
def suggestion : Event := .request .epoch (.submit "bea" planSheet.address "$A1 2")

theorem proposals_invisible_suggesting :
    (history FileStore ⟨10, 10⟩ true (suggesting [suggestion])).1.isOpen = true ∧
      (history FileStore ⟨10, 10⟩ true (suggesting [])).1.isOpen = true ∧
      (Call.exec (Service.subscriptionDelta "bob" planSheet.address 0)
          (history FileStore ⟨10, 10⟩ true (suggesting [suggestion])).1.service).1.map (·.payload) =
        (Call.exec (Service.subscriptionDelta "bob" planSheet.address 0)
          (history FileStore ⟨10, 10⟩ true (suggesting [])).1.service).1.map (·.payload) := by
  have homits : Omits (suggesting [suggestion]) (suggesting []) :=
    .keep _ (.keep _ (.keep _ (.leaveOut _ rfl (.keep _ (.keep _ (.keep _ .nil))))))
  have hcalm : ∀ r, .refuse r ∉ suggesting [suggestion] := by
    simp [suggesting, suggestion, publishing]
  have hlength : (suggesting [suggestion]).length < UInt64.size := by decide
  obtain ⟨hupdates, hsheets⟩ := numbers_history_le (σ := FileStore) ⟨10, 10⟩ true hlength
  obtain ⟨hopen, hopen', hsame⟩ := proposals_invisible (σ := FileStore) ⟨10, 10⟩ true homits hcalm
    (fun _ => FileStore.reopens) (Nat.lt_of_le_of_lt hupdates hlength)
    (Nat.lt_of_le_of_lt hsheets hlength)
  exact ⟨hopen, hopen', (hsame "bob" planSheet.address "").1⟩

end Server

end SharedSheet
