import SharedSheet.Proofs.Service.Request

/-!
# What a book hides

A sheet that only its owner sees is hidden from everybody else, and so is what it says. Here this is
said by comparing two books: they list the same publishers and sheets and have counted the same
updates, and they have the same entries but for those of hidden sheets. Whoever is no insider, an
owner of such sheets, cannot tell the two books apart. And they stay so: whatever is asked of
both, by insiders too, leaves them in agreement, and an insider may even enter different payloads
into a hidden sheet.

What makes this work is that all refusals and all numbers depend on the registry alone. Only the
requests that look at the entries of a sheet depend on more, and those look at one sheet that the
caller sees.

## Main definitions

* `Registry.Hides` — the sheets that are hidden from everybody but insiders
* `Book.Agrees` — books that differ in entries of hidden sheets at most
* `Request.readsEntries` — the requests that look at the entries of a sheet

## Main results

* `Book.Agrees.answer` — whoever is no insider gets the same answer from both books
* `Book.Agrees.respond` — every request leaves the books in agreement
* `Book.Agrees.respond_hidden` — so do two updates of a hidden sheet with different payloads
-/

namespace SharedSheet

/-! ### Requests -/

namespace Request

/-- Who asks. Publishers and names are told to everybody, so that it does not matter who asks for
them. -/
def caller? : Request → Option String
  | register publisher => some publisher
  | publishers | resolve _ => none
  | sheets _ caller | create caller _ | delete caller _ | publish caller .. | propose caller ..
  | submit caller .. | publishedDelta caller .. | subscriptionDelta caller .. | snapshot caller _
  | evaluate caller .. => some caller

/-- Whether a request looks at the entries of a sheet. -/
def readsEntries : Request → Bool
  | publishedDelta .. | subscriptionDelta .. | snapshot .. | evaluate .. => true
  | _ => false

end Request

namespace Book

variable {b b' : Book} {extent : Extent} {now : Timestamp} {q : Request}

/-! ### What depends on the registry alone -/

section

variable (h : b.registry = b'.registry)
include h

theorem resolve_congr (a : SheetAddress) : b.resolve a = b'.resolve a := by
  rw [resolve, resolve, h]

theorem resolveVisible_congr (caller : String) (a : SheetAddress) :
    b.resolveVisible caller a = b'.resolveVisible caller a := by
  rw [resolveVisible, resolveVisible, resolve_congr h]

theorem resolveOwned_congr (caller : String) (a : SheetAddress) (deed : Deed) :
    b.resolveOwned caller a deed = b'.resolveOwned caller a deed := by
  rw [resolveOwned, resolveOwned, resolve_congr h]

theorem planPublish_congr (caller : String) (a : SheetAddress) (payload : String) :
    b.planPublish now caller a payload = b'.planPublish now caller a payload := by
  rw [planPublish, planPublish, resolveOwned_congr h]

theorem planPropose_congr (caller : String) (a : SheetAddress) (payload : String) :
    b.planPropose now caller a payload = b'.planPropose now caller a payload := by
  rw [planPropose, planPropose, resolveVisible_congr h]

/-- Plans of requests that do not look at entries depend on the registry alone. -/
theorem plan_congr (hreads : q.readsEntries = false) :
    b.plan extent now q = b'.plan extent now q := by
  cases q with
  | register publisher => rfl
  | publishers => simp only [plan, h]
  | sheets publisher caller => simp only [plan, h]
  | create caller a => simp only [plan, planCreate, h]
  | delete caller a => simp only [plan, resolveOwned_congr h]
  | resolve a => simp only [plan, resolve_congr h]
  | publish caller a payload => exact planPublish_congr h caller a payload
  | propose caller a payload => exact planPropose_congr h caller a payload
  | submit caller a payload =>
    simp only [plan, planPublish_congr h, planPropose_congr h]
  | publishedDelta | subscriptionDelta | snapshot | evaluate =>
    simp [Request.readsEntries] at hreads

/-- Answers of actions depend on the registry alone. -/
theorem act_answer_congr (action : Action) : (b.act action).1 = (b'.act action).1 := by
  cases action with
  | tell answer => rfl
  | list publisher =>
    simp only [act, registerPublisher, h]
    split <;> rfl
  | make a v => simp only [act, insertSheet, h]
  | drop sheet => rfl
  | enter d => simp only [act, append, nextEntry, h]

/-- So does what actions make of the registry. -/
theorem act_registry_congr (action : Action) :
    (b.act action).2.registry = (b'.act action).2.registry := by
  cases action with
  | tell answer => exact h
  | list publisher =>
    simp only [act, registerPublisher, h]
    split
    · exact h
    · rfl
  | make a v => simp only [act, insertSheet, h]
  | drop sheet => simp only [act, deleteSheet, h]
  | enter d => simp only [act, append, addEntry, nextEntry, h]

end

/-- A request that looks at entries is only told something. -/
theorem exists_tell_of_plan {action : Action} (hreads : q.readsEntries = true)
    (h : b.plan extent now q = .ok action) : ∃ answer, action = .tell answer := by
  cases q with
  | publishedDelta | subscriptionDelta | snapshot =>
    obtain ⟨sheet, -, hplan⟩ := bind_eq_ok_iff.1 h
    exact ⟨_, (Except.ok.inj hplan).symm⟩
  | evaluate =>
    obtain ⟨sheet, -, hplan⟩ := bind_eq_ok_iff.1 h
    obtain ⟨value, -, hplan⟩ := bind_eq_ok_iff.1 hplan
    exact ⟨_, (Except.ok.inj hplan).symm⟩
  | register | publishers | sheets | create | delete | resolve | publish | propose | submit =>
    simp [Request.readsEntries] at hreads

/-- So it changes nothing. -/
theorem respond_of_readsEntries (hreads : q.readsEntries = true) :
    (b.respond extent now q).2 = b := by
  unfold respond
  cases hplan : b.plan extent now q with
  | error e => rfl
  | ok action =>
    obtain ⟨answer, rfl⟩ := exists_tell_of_plan hreads hplan
    rfl

/-- An update that is taken puts an entry into its sheet. -/
theorem respond_update (hb : b.registry.Sound) {sheet : Sheet} (hsheet : sheet ∈ b.registry.sheets)
    (hq : q.updated? = some sheet.address) {answer : Answer}
    (hok : (b.respond extent now q).1 = .ok answer) :
    ∃ d, d.sheet = sheet.id ∧ (b.respond extent now q).2 = (b.append d).2 := by
  unfold respond at hok ⊢
  cases hplan : b.plan extent now q with
  | error e => simp [hplan] at hok
  | ok action =>
    obtain ⟨s, d, hresolve, htakes, rfl⟩ := takes_of_plan hq hplan
    obtain ⟨-, hs, haddress⟩ := resolve_eq_ok hresolve
    obtain rfl := hb.eq_of_address_eq hs hsheet haddress
    exact ⟨d, htakes.sheet, rfl⟩

/-! ### The entries of a sheet -/

/-- The entries of a sheet. -/
def entriesOf (b : Book) (id : Nat) : List LogEntry := b.entries.filter (·.sheet == id)

theorem sheetUpdates_eq (id : Nat) (scope : Scope) (after : Nat) : b.sheetUpdates id scope after =
    (b.entriesOf id).filter fun e => after < e.id && scope.admits e := by
  rw [sheetUpdates, entriesOf, List.filter_filter]
  refine List.filter_congr fun e _ => ?_
  rw [Bool.and_assoc, Bool.and_comm]

theorem acceptedOf_eq (id : Nat) : b.acceptedOf id = (b.entriesOf id).filter (·.accepted) := by
  rw [acceptedOf, entriesOf, List.filter_filter]

theorem entriesOf_append (d : Draft) (id : Nat) : (b.append d).2.entriesOf id =
    b.entriesOf id ++ if d.sheet = id then [b.nextEntry d] else [] := by
  simp only [append, addEntry, entriesOf, List.filter_append, List.filter_cons, List.filter_nil,
    beq_iff_eq]
  rfl

theorem entriesOf_deleteSheet (sheet id : Nat) : (b.deleteSheet sheet).2.entriesOf id =
    if id = sheet then [] else b.entriesOf id := by
  simp only [deleteSheet, withoutSheet, entriesOf, List.filter_filter]
  split
  · rename_i hid
    exact List.filter_eq_nil_iff.2 fun e _ => by simp [hid]
  · rename_i hid
    refine List.filter_congr fun e _ => ?_
    by_cases he : e.sheet = id
    · simp [he, hid]
    · simp [he]

theorem entriesOf_registerPublisher (p : String) (id : Nat) :
    (b.registerPublisher p).2.entriesOf id = b.entriesOf id := by
  rw [entriesOf, entriesOf, entries_registerPublisher]

end Book

/-! ### Hidden sheets -/

/-- A sheet is hidden if only its owner sees it and the owner is an insider. -/
def Registry.Hides (g : Registry) (insider : String → Prop) (id : Nat) : Prop :=
  ∃ s ∈ g.sheets, s.id = id ∧ s.visibility = .ownerOnly ∧ insider s.owner

namespace Registry

variable {g : Registry} {insider : String → Prop}

/-- What somebody else sees is not hidden. -/
theorem Sound.not_hides (h : g.Sound) {sheet : Sheet} (hsheet : sheet ∈ g.sheets) {caller : String}
    (hvisible : sheet.isVisibleTo caller = true) (hcaller : ¬ insider caller) :
    ¬ g.Hides insider sheet.id := by
  rintro ⟨s, hs, hid, hprivate, howner⟩
  obtain rfl := h.eq_of_id_eq hs hsheet hid
  have hcaller' : s.owner = caller := by
    simpa [Sheet.isVisibleTo, Sheet.isOwnedBy, hprivate] using hvisible
  exact hcaller (hcaller' ▸ howner)

theorem Hides.addSheet {id : Nat} (h : g.Hides insider id) (a : SheetAddress) (v : Visibility) :
    (g.addSheet a v).Hides insider id := by
  obtain ⟨s, hs, h⟩ := h
  exact ⟨s, List.mem_append_left _ hs, h⟩

theorem Hides.removeSheet {id sheet : Nat} (h : g.Hides insider id) (hne : id ≠ sheet) :
    (g.removeSheet sheet).Hides insider id := by
  obtain ⟨s, hs, hid, h⟩ := h
  exact ⟨s, List.mem_filter.2 ⟨hs, by simpa [hid] using hne⟩, hid, h⟩

end Registry

/-! ### Books that agree -/

/-- Two books that differ in entries of hidden sheets at most. -/
structure Book.Agrees (insider : String → Prop) (b b' : Book) : Prop where
  registry : b.registry = b'.registry
  entries : ∀ id, ¬ b.registry.Hides insider id → b.entriesOf id = b'.entriesOf id

namespace Book.Agrees

variable {insider : String → Prop} {b b' : Book} {extent : Extent} {now : Timestamp}

theorem refl (b : Book) : Agrees insider b b := ⟨rfl, fun _ _ => rfl⟩

/-! ### What outsiders are told -/

/-- What is made of the entries of a sheet that an outsider sees is the same in both books. -/
theorem visible_congr (h : Agrees insider b b') (hb : b.registry.Sound) {caller : String}
    (hcaller : ¬ insider caller) (a : SheetAddress) {k k' : Sheet → Except Refusal Action}
    (hk : ∀ sheet, b.entriesOf sheet.id = b'.entriesOf sheet.id → k sheet = k' sheet) :
    b.resolveVisible caller a >>= k = b'.resolveVisible caller a >>= k' := by
  rw [← resolveVisible_congr h.registry]
  cases hsheet : b.resolveVisible caller a with
  | error e => rfl
  | ok sheet =>
    obtain ⟨hresolve, hvisible⟩ := resolveVisible_eq_ok hsheet
    exact hk sheet
      (h.entries _ (hb.not_hides (resolve_eq_ok hresolve).2.1 hvisible hcaller))

/-- Requests of outsiders are planned alike. -/
theorem plan (h : Agrees insider b b') (hb : b.registry.Sound) {q : Request}
    (hcaller : ∀ c, q.caller? = some c → ¬ insider c) :
    b.plan extent now q = b'.plan extent now q := by
  cases hreads : q.readsEntries with
  | false => exact plan_congr h.registry hreads
  | true =>
    cases q with
    | publishedDelta caller a since =>
      exact h.visible_congr hb (hcaller caller rfl) a fun sheet hentries => by
        rw [sheetUpdates_eq, sheetUpdates_eq, hentries]
    | subscriptionDelta caller a since =>
      exact h.visible_congr hb (hcaller caller rfl) a fun sheet hentries => by
        rw [sheetUpdates_eq, sheetUpdates_eq, sheetState, sheetState, acceptedOf_eq, acceptedOf_eq,
          hentries]
    | snapshot caller a =>
      exact h.visible_congr hb (hcaller caller rfl) a fun sheet hentries => by
        rw [sheetState, sheetState, acceptedOf_eq, acceptedOf_eq, hentries]
    | evaluate caller a term =>
      exact h.visible_congr hb (hcaller caller rfl) a fun sheet hentries => by
        rw [sheetState, sheetState, acceptedOf_eq, acceptedOf_eq, hentries]
    | register | publishers | sheets | create | delete | resolve | publish | propose | submit =>
      simp [Request.readsEntries] at hreads

/-- **Outsiders get the same answers.** -/
theorem answer (h : Agrees insider b b') (hb : b.registry.Sound) {q : Request}
    (hcaller : ∀ c, q.caller? = some c → ¬ insider c) :
    (b.respond extent now q).1 = (b'.respond extent now q).1 := by
  unfold Book.respond
  rw [h.plan hb hcaller]
  cases b'.plan extent now q with
  | error e => rfl
  | ok action => exact congrArg Except.ok (act_answer_congr h.registry action)

/-! ### What requests leave -/

/-- Actions leave the books in agreement. -/
theorem act (h : Agrees insider b b') (action : Action) :
    Agrees insider (b.act action).2 (b'.act action).2 := by
  refine ⟨act_registry_congr h.registry action, fun id hid => ?_⟩
  cases action with
  | tell answer => exact h.entries id hid
  | list publisher =>
    simp only [Book.act, entriesOf_registerPublisher]
    refine h.entries id fun hhides => hid ?_
    simpa only [Registry.Hides, Book.act, sheets_registerPublisher] using hhides
  | make a v => exact h.entries id fun hhides => hid (hhides.addSheet a v)
  | drop sheet =>
    simp only [Book.act, entriesOf_deleteSheet]
    split
    · rfl
    · rename_i hne
      exact h.entries id fun hhides => hid (hhides.removeSheet hne)
  | enter d =>
    have hentry : b.nextEntry d = b'.nextEntry d := by rw [nextEntry, nextEntry, h.registry]
    simp only [Book.act, entriesOf_append, hentry]
    rw [h.entries id hid]

/-- **Every request leaves the books in agreement**, whoever asks. -/
theorem respond (h : Agrees insider b b') (q : Request) :
    Agrees insider (b.respond extent now q).2 (b'.respond extent now q).2 := by
  cases hreads : q.readsEntries with
  | true =>
    rw [respond_of_readsEntries hreads, respond_of_readsEntries hreads]
    exact h
  | false =>
    unfold Book.respond
    rw [plan_congr h.registry hreads]
    cases b'.plan extent now q with
    | error e => exact h
    | ok action => exact h.act action

/-- Different entries may be put into a hidden sheet. -/
theorem append (h : Agrees insider b b') {d d' : Draft}
    (hhides : b.registry.Hides insider d.sheet) (hsheet : d'.sheet = d.sheet) :
    Agrees insider (b.append d).2 (b'.append d').2 := by
  refine ⟨?_, fun id hid => ?_⟩
  · show (b.registry.noteUpdate _) = (b'.registry.noteUpdate _)
    rw [nextEntry, nextEntry, h.registry]
  · have hne : d.sheet ≠ id := by
      rintro rfl
      exact hid hhides
    rw [entriesOf_append, entriesOf_append, if_neg hne, if_neg (hsheet ▸ hne), h.entries id hid]

/-- **Different updates of a hidden sheet leave the books in agreement** if both are taken. -/
theorem respond_hidden (h : Agrees insider b b') (hb : b.registry.Sound) {sheet : Sheet}
    (hsheet : sheet ∈ b.registry.sheets) (hprivate : sheet.visibility = .ownerOnly)
    (howner : insider sheet.owner) {q q' : Request} (hq : q.updated? = some sheet.address)
    (hq' : q'.updated? = some sheet.address) {answer answer' : Answer}
    (hok : (b.respond extent now q).1 = .ok answer)
    (hok' : (b'.respond extent now q').1 = .ok answer') :
    Agrees insider (b.respond extent now q).2 (b'.respond extent now q').2 := by
  obtain ⟨d, hd, hrespond⟩ := respond_update hb hsheet hq hok
  obtain ⟨d', hd', hrespond'⟩ := respond_update (h.registry ▸ hb) (h.registry ▸ hsheet) hq' hok'
  rw [hrespond, hrespond']
  exact h.append ⟨sheet, hsheet, hd.symm, hprivate, howner⟩ (hd'.trans hd.symm)

end Book.Agrees

end SharedSheet
