import SharedSheet.Proofs.Service.Proposals

/-!
# Subscribers

A subscriber follows a sheet by its address. It keeps a copy of the worksheet and the number that
it was told last, asks for what is newer, and makes the changes that it is told in its copy. In the
meantime the sheet may be deleted and made again under the same name.

Numbers of updates are given by the whole store, so the number can be given to the new sheet as if
it had come from there. All entries of the new sheet are later, and no change of it is missed. But
nobody is told that the former sheet is gone: the new one starts empty, it has no entries that clear
the cells of the former one, and they stay in the copy until an entry of the new sheet names them.
So the copy is right in every cell that the new sheet names, and elsewhere it stays as it was.

## Main definitions

* `Subscription`, `Copy` — who follows which sheet, and what it has of it
* `Copy.Tracks` — what a copy owes to the log
* `Polled`, `Polled.run` — a server and the copy of a subscriber who polls it

## Main results

* `Copy.Tracks.grows`, `Copy.Tracks.receive` — a copy tracks the log when the log grows, and when it
  is told of the sheet
* `Polled.Sound.run` — it does so all the time
* `Polled.Sound.get?_run` — cells that the sheet does not name stay as they are
* `Polled.polling_up_to_former_terms` — after every poll that succeeds the copy shows the sheet, up
  to cells that it does not name
-/

namespace SharedSheet

/-! ### Copies -/

/-- Who follows which sheet. -/
structure Subscription where
  requester : String
  address : SheetAddress

/-- What a subscriber has: a worksheet of its own, and the last number told that was not zero. -/
structure Copy where
  worksheet : Worksheet
  cursor : Nat := 0

/-- The delta that was told, if the request succeeded. -/
def told? : List Reply → Option Delta
  | [.ok (.delta d)] => some d
  | _ => none

namespace Copy

/-- The copy after the changes that were told. -/
def receive (c : Copy) (d : Delta) : Copy :=
  match c.worksheet.applyPayload d.payload with
  | .ok (w, _) => ⟨w, if d.lastId = 0 then c.cursor else d.lastId⟩
  | .error _ => c

/-- The copy after a request was answered. -/
def hear (c : Copy) (replies : List Reply) : Copy :=
  match told? replies with
  | some d => c.receive d
  | none => c

end Copy

/-! ### Payloads without carriage returns -/

/-- A request that publishes no carriage return. -/
def Request.IsPlain (q : Request) : Prop :=
  q.isProposal = false → ∀ payload, q.payload? = some payload → '\r' ∉ payload.toList

namespace Book

variable {b b' : Book}

theorem mem_of_resolveVisible {requester : String} {a : SheetAddress} {sheet : Sheet}
    (h : b.resolveVisible requester a = .ok sheet) :
    sheet ∈ b.registry.sheets ∧ sheet.address = a ∧ sheet.isVisibleTo requester = true := by
  obtain ⟨hresolve, hvisible⟩ := resolveVisible_eq_ok h
  obtain ⟨-, hmem, haddress⟩ := resolve_eq_ok hresolve
  exact ⟨hmem, haddress, hvisible⟩

/-- A book that accepted no carriage return. -/
def IsPlain (b : Book) : Prop := ∀ e ∈ b.entries, e.accepted = true → '\r' ∉ e.payload.toList

/-- The changes of a sheet that were accepted, in their order. -/
def acceptedEdits (b : Book) (id : Nat) : List Edit := (b.acceptedOf id).flatMap LogEntry.edits

/-- Whether a cell was written or cleared by an accepted change of a sheet. -/
def Names (b : Book) (id : Nat) (r : Reference) : Prop :=
  ∃ edit ∈ b.acceptedEdits id, edit.reference = r

theorem names_iff {id : Nat} {r : Reference} :
    b.Names id r ↔ (Edit.lastTerm? r (b.acceptedEdits id)).isSome = true :=
  Edit.lastTerm?_isSome.symm

theorem lastTerm?_of_not_names {id : Nat} {r : Reference} (h : ¬ b.Names id r) :
    Edit.lastTerm? r (b.acceptedEdits id) = none :=
  Option.not_isSome_iff_eq_none.1 (mt names_iff.2 h)

/-- A cell of the worksheet that is shown has the term that it was given last. -/
theorem get?_sheetState (extent : Extent) (id : Nat) (r : Reference) :
    (b.sheetState extent id).worksheet.get? r =
      (Edit.lastTerm? r (b.acceptedEdits id)).bind Worksheet.kept := by
  rw [sheetState, CachedSheet.worksheet_ofEntries, Worksheet.get?_apply, acceptedEdits]
  cases Edit.lastTerm? r ((b.acceptedOf id).flatMap LogEntry.edits) <;> rfl

namespace IsPlain

theorem act (h : b.IsPlain) {action : Action}
    (henter : ∀ d, action = .enter d → d.accepted = true → '\r' ∉ d.payload.toList) :
    (b.act action).2.IsPlain := by
  cases action with
  | tell | make => exact h
  | list publisher =>
    intro e he
    rw [Book.act, entries_registerPublisher] at he
    exact h e he
  | drop sheet => exact fun e he => h e (List.mem_filter.1 he).1
  | enter d => exact forall_mem_append h (henter d rfl)

/-- A request that publishes no carriage return leaves a book without one. -/
theorem respond (h : b.IsPlain) {q : Request} (hq : q.IsPlain) (extent : Extent)
    (now : Timestamp) : (b.respond extent now q).2.IsPlain := by
  unfold Book.respond
  cases hplan : b.plan extent now q with
  | error e => exact h
  | ok action =>
    refine h.act fun d hd haccepted => ?_
    subst hd
    obtain ⟨payload, hpayload⟩ : ∃ payload, q.payload? = some payload := by
      cases hupdated : q.updated? with
      | none => exact absurd rfl ((permits_plan_of_updated?_eq_none hupdated hplan).2 d)
      | some a => cases q <;> simp [Request.updated?, Request.payload?] at hupdated ⊢
    obtain ⟨d', hd, rfl, hproposal⟩ := enters_of_plan hpayload hplan
    obtain rfl := Action.enter.inj hd
    rw [haccepted, eq_comm, Bool.not_eq_true'] at hproposal
    exact hq hproposal _ hpayload

/-- Terms of accepted changes come back as they are. -/
theorem receivedTerm_eq (h : b.IsPlain) (hb : b.Sound) {id : Nat} {r : Reference} {term : String}
    (hlast : Edit.lastTerm? r (b.acceptedEdits id) = some term) :
    Edit.receivedTerm term = term := by
  obtain ⟨e, he, hedit⟩ := List.mem_flatMap.1 (Edit.mem_of_lastTerm? hlast)
  obtain ⟨hmem, haccepted, -⟩ := mem_acceptedOf.1 he
  exact Edit.receivedTerm_eq_self_iff.2 fun hreturn => h e hmem haccepted
    (Payload.mem_of_mem_term (hb.readable e hmem).1 hedit (List.mem_of_getLast? hreturn))

/-- Writing all cells and reading them again makes the accepted changes. -/
theorem get?_apply_received (h : b.IsPlain) (hb : b.Sound) (w : Worksheet) (extent : Extent)
    (id : Nat) (r : Reference) :
    (w.apply ((b.sheetState extent id).edits.map Edit.received)).get? r =
      (w.apply (b.acceptedEdits id)).get? r := by
  rw [Worksheet.get?_apply, Worksheet.get?_apply, Edit.lastTerm?_map_received, sheetState,
    CachedSheet.lastTerm?_edits, CachedSheet.find?_ofEntries, CachedCell.map_term_last?,
    ← acceptedEdits]
  cases hlast : Edit.lastTerm? r (b.acceptedEdits id) with
  | none => rfl
  | some term => rw [Option.map_some, h.receivedTerm_eq hb hlast]

end IsPlain

/-- The accepted entries of a book that grew are those before and later ones. -/
theorem Grows.acceptedOf (h : b.Grows b') {id : Nat} (hid : b'.registry.hasSheet id = true) :
    ∃ new, b'.acceptedOf id = b.acceptedOf id ++ new ∧
      ∀ e ∈ new, b.registry.lastUpdateId < e.id := by
  obtain ⟨new, hnew, hlater⟩ := h.entries id hid
  refine ⟨new.filter (·.accepted), ?_, fun e he => hlater e (List.mem_filter.1 he).1⟩
  rw [acceptedOf_eq, acceptedOf_eq, hnew, List.filter_append]

/-- Cells that a sheet names are named by it later on. -/
theorem Grows.names (h : b.Grows b') {id : Nat} (hid : b'.registry.hasSheet id = true)
    {r : Reference} (hr : b.Names id r) : b'.Names id r := by
  obtain ⟨new, hnew, -⟩ := h.acceptedOf hid
  obtain ⟨edit, hedit, hreference⟩ := hr
  refine ⟨edit, ?_, hreference⟩
  rw [acceptedEdits, hnew, List.flatMap_append]
  exact List.mem_append_left _ hedit

end Book

/-! ### What a copy owes to the log -/

namespace Copy

/-- A copy has the last terms of all changes that were accepted, up to the number last told, for the
sheet that has the address now. -/
structure Tracks (c : Copy) (a : SheetAddress) (b : Book) : Prop where
  cursor_le : c.cursor ≤ b.registry.lastUpdateId
  known : ∀ sheet ∈ b.registry.sheets, sheet.address = a → ∀ r term,
    Edit.lastTerm? r (((b.acceptedOf sheet.id).filter (·.id ≤ c.cursor)).flatMap LogEntry.edits) =
      some term → c.worksheet.get? r = Worksheet.kept term

namespace Tracks

variable {c : Copy} {a : SheetAddress} {b b' : Book}

theorem start (w : Worksheet) (a : SheetAddress) : Tracks { worksheet := w } a {} where
  cursor_le := Nat.le_refl _
  known := by simp

/-- A copy tracks the log when the log grows. What is new in it is later than the number told, be it
an entry of the sheet or a new sheet with all its entries. -/
theorem grows (h : c.Tracks a b) (hb : b.Sound) (hgrows : b.Grows b') : c.Tracks a b' where
  cursor_le := Nat.le_trans h.cursor_le hgrows.lastUpdateId
  known sheet hsheet haddress r term hlast := by
    obtain ⟨new, hnew, hlater⟩ := hgrows.acceptedOf (Registry.hasSheet_iff.2 ⟨sheet, hsheet, rfl⟩)
    have hnone : new.filter (·.id ≤ c.cursor) = [] := List.filter_eq_nil_iff.2 fun e he => by
      have := hlater e he
      have := h.cursor_le
      simp only [decide_eq_true_eq]
      omega
    rw [hnew, List.filter_append, hnone, List.append_nil] at hlast
    by_cases hold : sheet.id ≤ b.registry.lastSheetId
    · exact h.known sheet (hgrows.sheets sheet hsheet hold) haddress r term hlast
    · have hfirst : b.registry.hasSheet sheet.id = false := Bool.eq_false_iff.2 fun hfirst =>
        hold (hb.registry.le_of_hasSheet hfirst)
      rw [hb.acceptedOf_eq_nil hfirst] at hlast
      simp at hlast

/-- Making the later changes makes all of them, since the earlier ones are made. -/
theorem get?_apply_later (h : c.Tracks a b) (hb : b.Sound) {sheet : Sheet}
    (hsheet : sheet ∈ b.registry.sheets) (haddress : sheet.address = a) (r : Reference) :
    (c.worksheet.apply
        (((b.acceptedOf sheet.id).filter (c.cursor < ·.id)).flatMap LogEntry.edits)).get? r =
      (c.worksheet.apply (b.acceptedEdits sheet.id)).get? r := by
  have hsplit : b.acceptedEdits sheet.id =
      ((b.acceptedOf sheet.id).filter (·.id ≤ c.cursor)).flatMap LogEntry.edits ++
        ((b.acceptedOf sheet.id).filter (c.cursor < ·.id)).flatMap LogEntry.edits := by
    rw [← List.flatMap_append, LogEntry.filter_le_append_filter_lt (hb.ascending_acceptedOf _),
      Book.acceptedEdits]
  rw [Worksheet.get?_apply, Worksheet.get?_apply, hsplit, Edit.lastTerm?_append]
  cases Edit.lastTerm? r
      (((b.acceptedOf sheet.id).filter (c.cursor < ·.id)).flatMap LogEntry.edits) with
  | some term => rfl
  | none =>
    cases hknown : Edit.lastTerm? r
        (((b.acceptedOf sheet.id).filter (·.id ≤ c.cursor)).flatMap LogEntry.edits) with
    | none => rfl
    | some term => exact h.known sheet hsheet haddress r term hknown

variable {σ : Type} [Medium σ] {s : Service σ} {sheet : Sheet} {requester : String} {d : Delta}

/-- What a subscriber is told can be applied. Then the copy has the terms that it has when all
accepted changes of the sheet are made in it. -/
theorem exists_apply (h : c.Tracks a s.book) (hs : s.Sound) (hplain : s.book.IsPlain)
    (hsheet : s.book.resolveVisible requester a = .ok sheet)
    (hd : (Call.exec (Service.subscriptionDelta requester a c.cursor) s).1 = .ok d) :
    ∃ w n, c.worksheet.applyPayload d.payload = .ok (w, n) ∧
      c.receive d = ⟨w, if d.lastId = 0 then c.cursor else d.lastId⟩ ∧
      ∀ r, w.get? r = (c.worksheet.apply (s.book.acceptedEdits sheet.id)).get? r := by
  suffices hmade : ∃ w n, c.worksheet.applyPayload d.payload = .ok (w, n) ∧
      ∀ r, w.get? r = (c.worksheet.apply (s.book.acceptedEdits sheet.id)).get? r by
    obtain ⟨w, n, happly, hget⟩ := hmade
    exact ⟨w, n, happly, by rw [receive, happly], hget⟩
  obtain ⟨hmem, rfl, hvisible⟩ := Book.mem_of_resolveVisible hsheet
  rw [hs.exec_subscriptionDelta hmem hvisible] at hd
  obtain rfl := Except.ok.inj hd
  split
  · -- All cells are told.
    obtain ⟨n, happly⟩ := CachedSheet.applyPayload_delta s.extent c.worksheet
      (hs.book.ascending_acceptedOf sheet.id)
      fun e he => hs.book.id_pos e (Book.mem_acceptedOf.1 he).1
    exact ⟨_, n, happly, hplain.get?_apply_received hs.book c.worksheet s.extent sheet.id⟩
  · -- The later entries are told.
    rw [Book.sheetUpdates_accepted]
    exact ⟨_, _, Worksheet.applyPayload_of_parse (hs.book.parse_acceptedOf ..),
      h.get?_apply_later hs.book hmem rfl⟩

/-- Cells that the sheet names are right in the copy then. -/
theorem get?_receive_of_names (h : c.Tracks a s.book) (hs : s.Sound) (hplain : s.book.IsPlain)
    (hsheet : s.book.resolveVisible requester a = .ok sheet)
    (hd : (Call.exec (Service.subscriptionDelta requester a c.cursor) s).1 = .ok d)
    (extent : Extent) {r : Reference} (hr : s.book.Names sheet.id r) :
    (c.receive d).worksheet.get? r = (s.book.sheetState extent sheet.id).worksheet.get? r := by
  obtain ⟨w, n, -, hreceive, hget⟩ := h.exists_apply hs hplain hsheet hd
  obtain ⟨term, hlast⟩ := Option.isSome_iff_exists.1 (Book.names_iff.1 hr)
  rw [hreceive, hget, Worksheet.get?_apply, Book.get?_sheetState, hlast]
  rfl

/-- Other cells stay as they are. -/
theorem get?_receive_of_not_names (h : c.Tracks a s.book) (hs : s.Sound) (hplain : s.book.IsPlain)
    (hsheet : s.book.resolveVisible requester a = .ok sheet)
    (hd : (Call.exec (Service.subscriptionDelta requester a c.cursor) s).1 = .ok d)
    {r : Reference} (hr : ¬ s.book.Names sheet.id r) :
    (c.receive d).worksheet.get? r = c.worksheet.get? r := by
  obtain ⟨w, n, -, hreceive, hget⟩ := h.exists_apply hs hplain hsheet hd
  rw [hreceive, hget, Worksheet.get?_apply, Book.lastTerm?_of_not_names hr]
  rfl

/-- The number that is kept is not before any accepted entry of the sheet. -/
theorem le_cursor (hs : s.Sound) (hsheet : s.book.resolveVisible requester a = .ok sheet)
    (hd : (Call.exec (Service.subscriptionDelta requester a c.cursor) s).1 = .ok d) :
    ∀ e ∈ s.book.acceptedOf sheet.id, e.id ≤ if d.lastId = 0 then c.cursor else d.lastId := by
  intro e he
  obtain ⟨hmem, rfl, hvisible⟩ := Book.mem_of_resolveVisible hsheet
  have hlast : d.lastId = _ := hs.lastId_ask hmem hvisible .subscription hd
  have hlater : d.lastId ≠ 0 → c.cursor < d.lastId := fun hsome => by
    rw [hlast] at hsome ⊢
    exact Book.lt_greatestId hsome
  have htold : c.cursor < e.id → e.id ≤ d.lastId := fun hlt => by
    rw [hlast, Feed.scope, Book.sheetUpdates_accepted]
    exact LogEntry.greatestId_le_iff.1 (Nat.le_refl _) e
      (List.mem_filter.2 ⟨he, decide_eq_true hlt⟩)
  split <;> omega

/-- **A copy tracks the log when it is told of the sheet.** -/
theorem receive (h : c.Tracks a s.book) (hs : s.Sound) (hplain : s.book.IsPlain)
    (hsheet : s.book.resolveVisible requester a = .ok sheet)
    (hd : (Call.exec (Service.subscriptionDelta requester a c.cursor) s).1 = .ok d) :
    (c.receive d).Tracks a s.book := by
  obtain ⟨w, n, -, hreceive, hget⟩ := h.exists_apply hs hplain hsheet hd
  have hle := le_cursor hs hsheet hd
  obtain ⟨hmem, rfl, hvisible⟩ := Book.mem_of_resolveVisible hsheet
  rw [hreceive]
  refine ⟨?_, fun sheet' hmem' haddress r term hlast => ?_⟩
  · show (if d.lastId = 0 then c.cursor else d.lastId) ≤ _
    split
    · exact h.cursor_le
    · rw [hs.lastId_ask hmem hvisible .subscription hd]
      exact hs.book.greatestId_le ..
  · obtain rfl := hs.book.registry.eq_of_address_eq hmem' hmem haddress
    rw [List.filter_eq_self.2 fun e he => decide_eq_true (hle e he)] at hlast
    rw [hget, Worksheet.get?_apply, Book.acceptedEdits, hlast]
    rfl

end Tracks

end Copy

/-! ### Polling a server -/

/-- What happens while a subscriber polls a server. -/
inductive Turn where
  /-- The server gets anything else. -/
  | other (e : Event)
  /-- The subscriber polls. -/
  | poll (now : Timestamp)

/-- A turn that publishes no carriage return. -/
def Turn.IsPlain : Turn → Prop
  | .other (.request _ q) => q.IsPlain
  | _ => True

/-- A server, and the copy of a subscriber who polls it. -/
structure Polled (σ : Type) where
  server : Server σ
  copy : Copy

namespace Polled

variable {σ : Type} {u : Subscription} {w : Polled σ}

/-- What the server gets: the subscriber asks since the number that it was told last. -/
def event (u : Subscription) (w : Polled σ) : Turn → Event
  | .other e => e
  | .poll now => .request now (.subscriptionDelta u.requester u.address w.copy.cursor)

/-- What a server gets in a turn publishes no carriage return if the turn does not. -/
theorem isPlain_of_event {turn : Turn} (hturn : turn.IsPlain) {now : Timestamp} {q : Request}
    (hq : w.event u turn = .request now q) : q.IsPlain := by
  cases turn with
  | other e =>
    obtain rfl : e = .request now q := hq
    exact hturn
  | poll now' =>
    obtain ⟨-, rfl⟩ := Event.request.inj hq
    simp [Request.IsPlain, Request.payload?]

variable [Medium σ]

/-- What a turn makes of a server and a copy, and what the server replies. -/
def step (u : Subscription) (w : Polled σ) (turn : Turn) : Polled σ × List Reply :=
  (⟨(w.server.step (w.event u turn)).1,
    match turn with
    | .other _ => w.copy
    | .poll _ => w.copy.hear (w.server.step (w.event u turn)).2⟩,
  (w.server.step (w.event u turn)).2)

/-- What turns make of a server and a copy, and all replies in order. -/
def run (u : Subscription) (w : Polled σ) : List Turn → Polled σ × List Reply
  | [] => (w, [])
  | turn :: turns =>
    (((w.step u turn).1.run u turns).1, (w.step u turn).2 ++ ((w.step u turn).1.run u turns).2)

/-- What the server gets in turns. -/
def events (u : Subscription) (w : Polled σ) : List Turn → List Event
  | [] => []
  | turn :: turns => w.event u turn :: (w.step u turn).1.events u turns

/-- What turns make of a server that nothing was put into, and of a subscriber's worksheet. -/
def history (σ : Type) [Medium σ] (extent : Extent) (keepsCheckpoint : Bool) (u : Subscription)
    (w : Worksheet) (turns : List Turn) : Polled σ × List Reply :=
  run u ⟨.start extent keepsCheckpoint, { worksheet := w }⟩ turns

theorem run_append (u : Subscription) (w : Polled σ) (earlier later : List Turn) :
    w.run u (earlier ++ later) = (((w.run u earlier).1.run u later).1,
      (w.run u earlier).2 ++ ((w.run u earlier).1.run u later).2) := by
  induction earlier generalizing w with
  | nil => rfl
  | cons turn turns ih => simp only [List.cons_append, run, ih, List.append_assoc]

/-- A server runs as it does anyway. -/
theorem run_server (u : Subscription) (w : Polled σ) (turns : List Turn) :
    w.server.run (w.events u turns) = ((w.run u turns).1.server, (w.run u turns).2) := by
  induction turns generalizing w with
  | nil => rfl
  | cons turn turns ih =>
    simp only [events, Server.run, run]
    rw [show (w.server.step (w.event u turn)).1 = (w.step u turn).1.server from rfl, ih]
    rfl

/-- The book of the server. -/
abbrev book (w : Polled σ) : Book := w.server.service.book

/-- A poll changes nothing in the book. It is refused and changes nothing in the copy, or the copy
is told of the sheet that has the address. -/
theorem step_poll (h : w.server.service.Sound) (now : Timestamp) :
    (w.step u (.poll now)).1.book = w.book ∧
      (told? (w.step u (.poll now)).2 = none ∧ (w.step u (.poll now)).1.copy = w.copy ∨
        ∃ d sheet, told? (w.step u (.poll now)).2 = some d ∧
          (w.step u (.poll now)).1.copy = w.copy.receive d ∧
          w.book.resolveVisible u.requester u.address = .ok sheet ∧
          (Call.exec (Service.subscriptionDelta u.requester u.address w.copy.cursor)
            w.server.service).1 = .ok d) := by
  by_cases hopen : w.server.isOpen = true
  · have hexec := Service.exec_subscriptionDelta h.mirrors_current u.requester u.address
      w.copy.cursor
    simp only [step, event, Server.step, hopen, if_true, Request.call, Call.exec_map, hexec,
      Copy.hear]
    cases w.book.resolveVisible u.requester u.address with
    | error e => exact ⟨rfl, .inl ⟨rfl, rfl⟩⟩
    | ok sheet => exact ⟨rfl, .inr ⟨_, sheet, rfl, rfl, rfl, rfl⟩⟩
  · simp only [step, event, Server.step, hopen, Copy.hear]
    exact ⟨rfl, .inl ⟨rfl, rfl⟩⟩

/-! ### What holds all the time -/

/-- What holds of a server and the copy of a subscriber at every moment. -/
structure Sound (u : Subscription) (w : Polled σ) : Prop where
  service : w.server.service.Sound
  plain : w.book.IsPlain
  tracks : w.copy.Tracks u.address w.book

theorem sound_start (u : Subscription) (extent : Extent) (keepsCheckpoint : Bool) (w : Worksheet) :
    Sound u (⟨.start extent keepsCheckpoint, { worksheet := w }⟩ : Polled σ) := by
  have hempty : (Server.start extent keepsCheckpoint : Server σ).service.book = {} :=
    Medium.book_fresh
  refine ⟨Server.sound_start extent keepsCheckpoint, ?_, ?_⟩
  · rw [book, hempty]
    exact fun e he => absurd he (List.not_mem_nil)
  · rw [book, hempty]
    exact .start w u.address

namespace Sound

theorem book_step (h : w.Sound u) (hfits : w.server.lastUpdateId < UInt64.size) (turn : Turn) :
    (w.step u turn).1.book = w.book ∨ ∃ now q, w.event u turn = .request now q ∧
      (w.step u turn).1.book = (w.book.respond w.server.service.extent now q).2 :=
  Server.book_step h.service hfits (w.event u turn)

/-- The book grows in every turn. -/
theorem grows_step (h : w.Sound u) (hfits : w.server.lastUpdateId < UInt64.size) (turn : Turn) :
    w.book.Grows (w.step u turn).1.book := by
  rcases h.book_step hfits turn with hbook | ⟨now, q, -, hbook⟩
  · exact hbook ▸ .refl w.book
  · exact hbook ▸ (Book.Grows.refl w.book).respond h.service.book h.service.book _ now q

/-- **Every turn keeps soundness.** -/
theorem step (h : w.Sound u) (hfits : w.server.lastUpdateId < UInt64.size) {turn : Turn}
    (hturn : turn.IsPlain) : (w.step u turn).1.Sound u := by
  refine ⟨(Server.sound_step h.service hfits (w.event u turn)).1, ?_, ?_⟩
  · rcases h.book_step hfits turn with hbook | ⟨now, q, hq, hbook⟩
    · exact hbook ▸ h.plain
    · exact hbook ▸ h.plain.respond (isPlain_of_event hturn hq) _ now
  · have hgrows := h.tracks.grows h.service.book (h.grows_step hfits turn)
    cases turn with
    | other e => exact hgrows
    | poll now =>
      obtain ⟨hbook, ⟨-, hcopy⟩ | ⟨d, sheet, -, hcopy, hsheet, hd⟩⟩ :=
        step_poll (u := u) h.service now
      · exact hcopy ▸ hgrows
      · rw [hcopy, hbook]
        exact h.tracks.receive h.service h.plain hsheet hd

theorem lastUpdateId_step (h : w.Sound u) (hfits : w.server.lastUpdateId < UInt64.size)
    (turn : Turn) : (w.step u turn).1.server.lastUpdateId =
      w.server.lastUpdateId + (issuedIds (w.step u turn).2).length :=
  (Server.sound_step h.service hfits (w.event u turn)).2.2.1

variable {turns : List Turn}

/-- **A copy tracks the log all the time.** -/
theorem run (h : w.Sound u) (hplain : ∀ turn ∈ turns, turn.IsPlain)
    (hfew : w.server.lastUpdateId + (issuedIds (w.run u turns).2).length < UInt64.size) :
    (w.run u turns).1.Sound u := by
  induction turns generalizing w with
  | nil => exact h
  | cons turn turns ih =>
    simp only [Polled.run, issuedIds_append, List.length_append] at hfew ⊢
    have hlast := h.lastUpdateId_step (by omega) turn
    obtain ⟨hturn, hturns⟩ := List.forall_mem_cons.1 hplain
    exact @ih (w.step u turn).1 (h.step (by omega) hturn) hturns (by omega)

/-- The book grows all the time. -/
theorem grows_run (h : w.Sound u)
    (hfew : w.server.lastUpdateId + (issuedIds (w.run u turns).2).length < UInt64.size) :
    w.book.Grows (w.run u turns).1.book := by
  have hgrows := @Server.grows_run σ _ w.server (w.events u turns) h.service
  rw [run_server] at hgrows
  exact hgrows hfew

theorem lastUpdateId_run (h : w.Sound u)
    (hfew : w.server.lastUpdateId + (issuedIds (w.run u turns).2).length < UInt64.size) :
    (w.run u turns).1.server.lastUpdateId =
      w.server.lastUpdateId + (issuedIds (w.run u turns).2).length := by
  have hrun := @Server.sound_run σ _ w.server (w.events u turns) h.service
  rw [run_server] at hrun
  exact (hrun hfew).2.2.1

/-- A poll leaves a cell of the copy as it is if the sheet that has the address does not name it. -/
theorem get?_step (h : w.Sound u) {sheet : Sheet} (hsheet : sheet ∈ w.book.registry.sheets)
    (haddress : sheet.address = u.address) {r : Reference} (hr : ¬ w.book.Names sheet.id r)
    (turn : Turn) : (w.step u turn).1.copy.worksheet.get? r = w.copy.worksheet.get? r := by
  cases turn with
  | other e => rfl
  | poll now =>
    obtain ⟨-, ⟨-, hcopy⟩ | ⟨d, sheet', -, hcopy, hsheet', hd⟩⟩ := step_poll (u := u) h.service now
    · rw [hcopy]
    · obtain ⟨hmem, haddress', -⟩ := Book.mem_of_resolveVisible hsheet'
      obtain rfl := h.service.book.registry.eq_of_address_eq hsheet hmem
        (haddress.trans haddress'.symm)
      rw [hcopy, h.tracks.get?_receive_of_not_names h.service h.plain hsheet' hd hr]

/-- **Cells that the sheet does not name stay as they are** for as long as it is there. -/
theorem get?_run (h : w.Sound u) (hplain : ∀ turn ∈ turns, turn.IsPlain)
    (hfew : w.server.lastUpdateId + (issuedIds (w.run u turns).2).length < UInt64.size)
    {sheet : Sheet} (hsheet : sheet ∈ w.book.registry.sheets)
    (haddress : sheet.address = u.address)
    (hsheet' : sheet ∈ (w.run u turns).1.book.registry.sheets) {r : Reference}
    (hr : ¬ (w.run u turns).1.book.Names sheet.id r) :
    (w.run u turns).1.copy.worksheet.get? r = w.copy.worksheet.get? r := by
  induction turns generalizing w with
  | nil => rfl
  | cons turn turns ih =>
    have hgrows := h.grows_run hfew
    simp only [Polled.run, issuedIds_append, List.length_append] at hfew hsheet' hr hgrows ⊢
    have hlast := h.lastUpdateId_step (by omega) turn
    obtain ⟨hturn, hturns⟩ := List.forall_mem_cons.1 hplain
    have hnext : (w.step u turn).1.Sound u := h.step (by omega) hturn
    have hlater : (w.step u turn).1.book.Grows ((w.step u turn).1.run u turns).1.book :=
      hnext.grows_run (by omega)
    -- The sheet is there at both ends, so it is there in between.
    have hmiddle : sheet ∈ (w.step u turn).1.book.registry.sheets :=
      hlater.sheets sheet hsheet' (Nat.le_trans (h.service.book.registry.id_le sheet hsheet)
        (h.grows_step (by omega) turn).lastSheetId)
    rw [@ih (w.step u turn).1 hnext hturns (by omega) hmiddle hsheet' hr]
    exact h.get?_step hsheet haddress
      (mt (hgrows.names (Registry.hasSheet_iff.2 ⟨sheet, hsheet', rfl⟩)) hr) turn

end Sound

variable {extent : Extent} {keepsCheckpoint : Bool} {held : Worksheet}

theorem sound_history {turns : List Turn} (hplain : ∀ turn ∈ turns, turn.IsPlain)
    (hfew : (issuedIds (history σ extent keepsCheckpoint u held turns).2).length < UInt64.size) :
    (history σ extent keepsCheckpoint u held turns).1.Sound u ∧
      (history σ extent keepsCheckpoint u held turns).1.server.lastUpdateId =
        (issuedIds (history σ extent keepsCheckpoint u held turns).2).length := by
  have hstart := sound_start (σ := σ) u extent keepsCheckpoint held
  have hzero := Server.lastUpdateId_start (σ := σ) extent keepsCheckpoint
  have hfew' := hfew
  rw [← Nat.zero_add (List.length _), ← hzero] at hfew'
  refine ⟨hstart.run hplain hfew', ?_⟩
  have hlast := hstart.lastUpdateId_run hfew'
  rw [hzero, Nat.zero_add] at hlast
  exact hlast

theorem get?_history {earlier later : List Turn}
    (hplain : ∀ turn ∈ earlier ++ later, turn.IsPlain)
    (hfew : (issuedIds (history σ extent keepsCheckpoint u held (earlier ++ later)).2).length <
      UInt64.size) {sheet : Sheet}
    (hthere : sheet ∈ (history σ extent keepsCheckpoint u held earlier).1.book.registry.sheets)
    (haddress : sheet.address = u.address)
    (hsheet : sheet ∈
      (history σ extent keepsCheckpoint u held (earlier ++ later)).1.book.registry.sheets)
    {r : Reference}
    (hr : ¬ (history σ extent keepsCheckpoint u held (earlier ++ later)).1.book.Names sheet.id r) :
    (history σ extent keepsCheckpoint u held (earlier ++ later)).1.copy.worksheet.get? r =
      (history σ extent keepsCheckpoint u held earlier).1.copy.worksheet.get? r := by
  have hwhole : history σ extent keepsCheckpoint u held (earlier ++ later) =
      (((history σ extent keepsCheckpoint u held earlier).1.run u later).1,
        (history σ extent keepsCheckpoint u held earlier).2 ++
          ((history σ extent keepsCheckpoint u held earlier).1.run u later).2) := run_append ..
  obtain ⟨hearlier, hlater⟩ := List.forall_mem_append.1 hplain
  rw [hwhole] at hfew hsheet hr ⊢
  rw [issuedIds_append, List.length_append] at hfew
  have hfirst : (issuedIds (history σ extent keepsCheckpoint u held earlier).2).length <
      UInt64.size := by omega
  obtain ⟨hsound, hlast⟩ := sound_history hearlier hfirst
  exact hsound.get?_run hlater (by omega) hthere haddress hsheet hr

/-- **After every poll that succeeds the copy shows the sheet that has the address now**, up to
cells that no accepted change of the sheet names. There the sheet has no terms, and the copy still
has what it had at any moment since the sheet was made. So it shows the sheet if and only if the
sheet has named, by now, all cells that had a term in the copy at that moment. -/
theorem polling_up_to_former_terms {turns : List Turn} {now : Timestamp} {d : Delta}
    {before after : Polled σ} (hplain : ∀ turn ∈ turns, turn.IsPlain)
    (hfew : (issuedIds (history σ extent keepsCheckpoint u held turns).2).length < UInt64.size)
    (hbefore : (history σ extent keepsCheckpoint u held turns).1 = before)
    (hafter : (before.step u (.poll now)).1 = after)
    (htold : told? (before.step u (.poll now)).2 = some d) :
    ∃ sheet shown n, after.book.resolveVisible u.requester u.address = .ok sheet ∧
      (Call.exec (Service.snapshot u.requester u.address) after.server.service).1 = .ok shown ∧
      before.copy.worksheet.applyPayload d.payload = .ok (after.copy.worksheet, n) ∧
      (∀ r, after.book.Names sheet.id r → after.copy.worksheet.get? r = shown.get? r) ∧
      ∀ earlier later, turns = earlier ++ later →
        sheet ∈ (history σ extent keepsCheckpoint u held earlier).1.book.registry.sheets →
        (∀ r, ¬ after.book.Names sheet.id r → shown.get? r = none ∧ after.copy.worksheet.get? r =
          (history σ extent keepsCheckpoint u held earlier).1.copy.worksheet.get? r) ∧
        ((∀ r, after.copy.worksheet.get? r = shown.get? r) ↔ ∀ r,
          (history σ extent keepsCheckpoint u held earlier).1.copy.worksheet.get? r ≠ none →
            after.book.Names sheet.id r) := by
  obtain ⟨hsound, hlast⟩ := sound_history hplain hfew
  rw [hbefore] at hsound hlast
  have hnext : after.Sound u := hafter ▸ hsound.step (by omega) trivial
  obtain ⟨hbook, ⟨hnone, -⟩ | ⟨d', sheet, hsome, hcopy, hsheet, hd⟩⟩ :=
    step_poll (u := u) hsound.service now
  · rw [htold] at hnone
    contradiction
  obtain rfl : d = d' := Option.some.inj (htold.symm.trans hsome)
  obtain ⟨hmem, haddress, -⟩ := Book.mem_of_resolveVisible hsheet
  obtain ⟨w, n, happly, hreceive, -⟩ :=
    hsound.tracks.exists_apply hsound.service hsound.plain hsheet hd
  rw [hafter] at hbook hcopy
  obtain rfl : w = after.copy.worksheet := by rw [hcopy, hreceive]
  have hshown : (Call.exec (Service.snapshot u.requester u.address) after.server.service).1 =
      .ok (before.book.sheetState after.server.service.extent sheet.id).worksheet := by
    have hservice : after.server.service.book = before.book := hbook
    rw [Service.exec_snapshot hnext.service.mirrors_current, hservice, hsheet]
    rfl
  have hnames : ∀ r, before.book.Names sheet.id r → after.copy.worksheet.get? r =
      (before.book.sheetState after.server.service.extent sheet.id).worksheet.get? r := by
    intro r hr
    rw [hcopy, hsound.tracks.get?_receive_of_names hsound.service hsound.plain hsheet hd _ hr]
  rw [hbook]
  refine ⟨sheet, _, n, hsheet, hshown, happly, hnames, ?_⟩
  rintro earlier later rfl hthere
  -- The cells that the sheet does not name are those of the earlier moment.
  have hrest : ∀ r, ¬ before.book.Names sheet.id r →
      (before.book.sheetState after.server.service.extent sheet.id).worksheet.get? r = none ∧
        after.copy.worksheet.get? r =
          (history σ extent keepsCheckpoint u held earlier).1.copy.worksheet.get? r := by
    intro r hr
    refine ⟨by rw [Book.get?_sheetState, Book.lastTerm?_of_not_names hr]; rfl, ?_⟩
    rw [hcopy, hsound.tracks.get?_receive_of_not_names hsound.service hsound.plain hsheet hd hr]
    subst hbefore
    exact get?_history hplain hfew hthere haddress hmem hr
  refine ⟨hrest, fun hsame r hterm => ?_, fun hformer r => ?_⟩
  · by_contra hr
    obtain ⟨hnone, hstays⟩ := hrest r hr
    exact hterm (hstays.symm.trans ((hsame r).trans hnone))
  · by_cases hr : before.book.Names sheet.id r
    · exact hnames r hr
    · obtain ⟨hnone, hstays⟩ := hrest r hr
      rw [hnone, hstays]
      by_contra hterm
      exact hr (hformer r hterm)

/-- Somebody who follows the first sheet of a publisher. -/
def follower : Subscription := ⟨"bob", planSheet.address⟩

/-- A run in which a subscriber polls, and the sheet is deleted and made again after that. -/
def recreating : List Turn :=
  [.other (.request .epoch (.register "ana")),
    .other (.request .epoch (.create "ana" planSheet.address)),
    .other (.request .epoch (.publish "ana" planSheet.address "$A1 1\n")),
    .poll .epoch,
    .other (.request .epoch (.delete "ana" planSheet.address)),
    .other (.request .epoch (.create "ana" planSheet.address)),
    .other (.request .epoch (.publish "ana" planSheet.address "$B1 2\n"))]

/-- The server and the copy after such a run. -/
def recreated : Polled Book :=
  (history Book ⟨10, 10⟩ false follower { extent := ⟨10, 10⟩ } recreating).1

theorem isPlain_recreating : ∀ turn ∈ recreating, turn.IsPlain := by
  simp [recreating, Turn.IsPlain, Request.IsPlain, Request.payload?]

theorem polling_recreated :
    told? (recreated.step follower (.poll .epoch)).2 = some ⟨"$B1 2\n", 2⟩ ∧
    ∃ sheet shown n,
      (Call.exec (Service.snapshot "bob" planSheet.address)
        (recreated.step follower (.poll .epoch)).1.server.service).1 = .ok shown ∧
      recreated.copy.worksheet.applyPayload "$B1 2\n" =
        .ok ((recreated.step follower (.poll .epoch)).1.copy.worksheet, n) ∧
      (∀ r, (recreated.step follower (.poll .epoch)).1.book.Names sheet r →
        (recreated.step follower (.poll .epoch)).1.copy.worksheet.get? r = shown.get? r) ∧
      ∀ r, ¬ (recreated.step follower (.poll .epoch)).1.book.Names sheet r →
        shown.get? r = none ∧ (recreated.step follower (.poll .epoch)).1.copy.worksheet.get? r =
          recreated.copy.worksheet.get? r := by
  have htold : told? (recreated.step follower (.poll .epoch)).2 = some ⟨"$B1 2\n", 2⟩ := by
    decide +kernel
  have hfew : (issuedIds (history Book ⟨10, 10⟩ false follower { extent := ⟨10, 10⟩ }
      recreating).2).length < UInt64.size := by decide +kernel
  have hrun : (history Book ⟨10, 10⟩ false follower { extent := ⟨10, 10⟩ } recreating).1 =
    recreated := rfl
  obtain ⟨sheet, shown, n, hsheet, hshown, happly, hnames, hrest⟩ :=
    polling_up_to_former_terms isPlain_recreating hfew hrun rfl htold
  have hfound : ((recreated.step follower (.poll .epoch)).1.book.resolveVisible follower.requester
      follower.address).toOption = some ⟨2, "plan", "ana", .everyone⟩ := by decide +kernel
  rw [hsheet] at hfound
  obtain rfl := Option.some.inj hfound
  have hthere : ⟨2, "plan", "ana", .everyone⟩ ∈ recreated.book.registry.sheets := by decide +kernel
  exact ⟨htold, 2, shown, n, hshown, happly, hnames,
    (hrest recreating [] (List.append_nil _).symm hthere).1⟩

/-- The copy does not always show the sheet: a cell of the former one can be left over. -/
theorem not_forall_polling_exact : ¬ ∀ (extent : Extent) (u : Subscription) (turns : List Turn)
    (now : Timestamp) (d : Delta) (before after : Polled Book), (∀ turn ∈ turns, turn.IsPlain) →
    (issuedIds (history Book extent false u { extent } turns).2).length < UInt64.size →
    (history Book extent false u { extent } turns).1 = before →
    (before.step u (.poll now)).1 = after →
    told? (before.step u (.poll now)).2 = some d →
    ∃ shown,
      (Call.exec (Service.snapshot u.requester u.address) after.server.service).1 = .ok shown ∧
      ∀ r, after.copy.worksheet.get? r = shown.get? r := by
  intro hexact
  obtain ⟨shown, hshown, hsame⟩ := hexact ⟨10, 10⟩ follower recreating .epoch ⟨"$B1 2\n", 2⟩
    recreated _ isPlain_recreating (by decide +kernel) rfl rfl (by decide +kernel)
  have hnone : (Call.exec (Service.snapshot follower.requester follower.address)
      (recreated.step follower (.poll .epoch)).1.server.service).1.toOption.bind (·.get? ⟨1, 1⟩) =
        none := by decide +kernel
  have hleft : (recreated.step follower (.poll .epoch)).1.copy.worksheet.get? ⟨1, 1⟩ =
      some "1" := by decide +kernel
  rw [hshown] at hnone
  have hgone : shown.get? ⟨1, 1⟩ = none := hnone
  rw [hsame, hgone] at hleft
  contradiction

end Polled

end SharedSheet
