import SharedSheet.Proofs.Cache.Delta
import SharedSheet.Proofs.Service.Polling
import SharedSheet.Proofs.Service.Secrecy

/-!
# Cursors

Whoever asks for changes is told a number, and gives that number back when asking again. The number
is to stand for everything that was told: nothing of it may be told again, and nothing that comes
after it may be left out. For the deltas that are read off the log this is a matter of filtering it,
and `Delta.Covers` says what such a delta holds of the entries that are left.

The first delta of a subscription is not read off the log but off the cells of the cache, and its
number is the greatest that is left in them. Cells are overwritten and cleared, and proposals leave
none. But the newest accepted entry is overwritten by nobody, and it changes some cell, so that its
number is always there.

Numbers of accepted entries are taken by whoever asks for all entries too. Proposals behind the last
accepted entry have not been told then, and are told with what came later: `Feed.leftOver`.

The other half is about what the log does in the meantime. `Book.Grows` says what a book becomes,
whatever is asked of it: new sheets and entries have new numbers, and a sheet that is not deleted
keeps its entries.

## Main definitions

* `LogEntry.greatestId` — the greatest number of entries
* `Delta.Covers` — what a delta of entries holds
* `Feed`, `Feed.leftOver` — the two ways of asking for changes, and what one leaves to the other
* `Book.Grows` — what a book becomes
* `Service.Later` — a service that another one becomes

## Main results

* `CachedSheet.lastId_delta_ofEntries` — the number told with the cells is that of the newest entry
* `Server.grows_run`, `Server.grows_history` — the book of a server grows
* `Service.cursors_lose_and_repeat_nothing` — what is told next are exactly the entries that came
  in between, behind the proposals that were left over
* `Service.not_forall_next_covers_new` — proposals can be left over
-/

namespace SharedSheet

/-! ### The greatest number -/

theorem getD_max?_le_iff {ns : List Nat} {n : Nat} : ns.max?.getD 0 ≤ n ↔ ∀ k ∈ ns, k ≤ n := by
  cases hmax : ns.max? with
  | none => simp [List.max?_eq_none_iff.1 hmax]
  | some k => exact List.max?_le_iff hmax

/-- The greatest number of entries, zero if there are none. -/
def LogEntry.greatestId (es : List LogEntry) : Nat := (es.map (·.id)).max?.getD 0

theorem LogEntry.greatestId_le_iff {es : List LogEntry} {n : Nat} :
    greatestId es ≤ n ↔ ∀ e ∈ es, e.id ≤ n := by
  rw [greatestId, getD_max?_le_iff, List.forall_mem_map]

/-! ### What a delta holds -/

/-- The payload of an entry as it stands among others: ended by a newline, which is added if there
is none. -/
def LogEntry.text (e : LogEntry) : List Char :=
  if e.payload.toList.getLast? = some '\n' then e.payload.toList else e.payload.toList ++ ['\n']

theorem LogEntry.toList_ended {e : LogEntry} (h : Payload.IsUpdate e.payload) :
    (Delta.ended e.payload).toList = e.text := by
  unfold Delta.ended LogEntry.text
  split
  · rename_i hnone
    have hempty : e.payload = "" := String.toList_inj.1 (List.getLast?_eq_none_iff.1 hnone)
    exact absurd (by rw [hempty]; rfl) h.2
  · rename_i hlast
    rw [if_pos hlast]
  · rename_i hne hlast
    rw [if_neg fun heq => hne (Option.some.inj (hlast.symm.trans heq)), String.toList_push]

/-- A delta covers entries. Its number is their greatest one, and it carries their payloads one
behind the other, so that their changes are read from it. -/
structure Delta.Covers (d : Delta) (es : List LogEntry) : Prop where
  lastId : d.lastId = LogEntry.greatestId es
  payload : d.payload.toList = es.flatMap LogEntry.text
  changes : Payload.parse d.payload = .ok (es.flatMap LogEntry.edits)

namespace Delta

theorem Covers.eq {d : Delta} {es : List LogEntry} (h : d.Covers es) :
    d = ⟨String.ofList (es.flatMap LogEntry.text), LogEntry.greatestId es⟩ := by
  obtain ⟨payload, lastId⟩ := d
  rw [← h.payload, ← h.lastId, String.ofList_toList]

theorem lastId_ofEntries (es : List LogEntry) :
    (ofEntries es).lastId = LogEntry.greatestId es := by
  rw [LogEntry.greatestId, ← foldl_max_eq]
  exact (List.foldl_hom lastId fun _ _ => rfl).symm

theorem covers_ofEntries {es : List LogEntry} (h : ∀ e ∈ es, Payload.IsUpdate e.payload) :
    (ofEntries es).Covers es where
  lastId := lastId_ofEntries es
  payload := by
    rw [Payload.toList_payload_ofEntries]
    exact List.flatMap_congr fun e he => LogEntry.toList_ended (h e he)
  changes := Payload.parse_ofEntries fun e he => (h e he).1

end Delta

namespace CachedSheet

theorem lastId_delta_le_iff {s : CachedSheet} {since n : Nat} : (s.delta since).lastId ≤ n ↔
    ∀ row ∈ s.cells.rows, since < row.2.updateId → row.2.updateId ≤ n := by
  rw [delta, foldl_max_eq, getD_max?_le_iff, List.forall_mem_map]
  simp only [writtenSince, List.mem_mergeSort, List.mem_filter, decide_eq_true_eq, and_imp]

/-- The number told with the cells is that of the newest entry. Every entry changes some cell, and
whatever overwrites it there is newer. -/
theorem lastId_delta_ofEntries (extent : Extent) {es : List LogEntry}
    (horder : es.Pairwise (·.id < ·.id)) (hpos : ∀ e ∈ es, 0 < e.id)
    (hupdate : ∀ e ∈ es, Payload.IsUpdate e.payload) :
    ((ofEntries extent es).delta 0).lastId = LogEntry.greatestId es := by
  refine Nat.le_antisymm (lastId_delta_le_iff.2 fun row hrow _ => ?_)
    (LogEntry.greatestId_le_iff.2 fun e he => ?_)
  · obtain ⟨e, he, hid, -⟩ := exists_entry_of_mem_rows extent horder hrow
    exact hid ▸ LogEntry.greatestId_le_iff.1 (Nat.le_refl _) e he
  · obtain ⟨edit, hedit⟩ := List.exists_mem_of_ne_nil _ (hupdate e he).2
    have htouch : ∃ edit' ∈ e.edits, edit'.reference = edit.reference := ⟨edit, hedit, rfl⟩
    obtain ⟨c, hc⟩ := Option.isSome_iff_exists.1 (CachedCell.last?_isSome.2 ⟨e, he, htouch⟩)
    obtain ⟨f, hf, hid, -, hmax⟩ := CachedCell.exists_of_last? horder hc
    have hrow : (edit.reference, c) ∈ (ofEntries extent es).cells.rows :=
      Table.mem_rows_iff.2 ((find?_ofEntries _).trans hc)
    refine Nat.le_trans (hmax e he htouch) (hid ▸ ?_)
    exact lastId_delta_le_iff.1 (Nat.le_refl _) _ hrow (hid ▸ hpos f hf)

end CachedSheet

/-! ### Books that grow -/

namespace Book

/-- What a book becomes, whatever is asked of it: new sheets and new entries have new numbers, and a
sheet that is still there has the entries that it had. -/
structure Grows (b b' : Book) : Prop where
  lastSheetId : b.registry.lastSheetId ≤ b'.registry.lastSheetId
  lastUpdateId : b.registry.lastUpdateId ≤ b'.registry.lastUpdateId
  sheets : ∀ s ∈ b'.registry.sheets, s.id ≤ b.registry.lastSheetId → s ∈ b.registry.sheets
  entries : ∀ id, b'.registry.hasSheet id = true → ∃ new,
    b'.entriesOf id = b.entriesOf id ++ new ∧ ∀ e ∈ new, b.registry.lastUpdateId < e.id

variable {b b' b'' : Book}

theorem Sound.entriesOf_eq_nil (h : b.Sound) {id : Nat} (hid : b.registry.hasSheet id = false) :
    b.entriesOf id = [] :=
  List.filter_eq_nil_iff.2 fun e he hsheet => by
    have hhomed := h.homed e he
    rw [beq_iff_eq.1 hsheet, hid] at hhomed
    simp at hhomed

namespace Grows

theorem refl (b : Book) : b.Grows b where
  lastSheetId := Nat.le_refl _
  lastUpdateId := Nat.le_refl _
  sheets _ hs _ := hs
  entries _ _ := ⟨[], (List.append_nil _).symm, by simp⟩

/-- Sheets that were there twice were there all the time. -/
theorem hasSheet (h : b.Grows b') {id : Nat} (hold : id ≤ b.registry.lastSheetId)
    (hid : b'.registry.hasSheet id = true) : b.registry.hasSheet id = true := by
  obtain ⟨s, hs, rfl⟩ := Registry.hasSheet_iff.1 hid
  exact Registry.hasSheet_iff.2 ⟨s, h.sheets s hs hold, rfl⟩

theorem trans (h : b.Grows b') (h' : b'.Grows b'') (hb : b.Sound) (hb' : b'.Sound) :
    b.Grows b'' where
  lastSheetId := Nat.le_trans h.lastSheetId h'.lastSheetId
  lastUpdateId := Nat.le_trans h.lastUpdateId h'.lastUpdateId
  sheets s hs hold := h.sheets s (h'.sheets s hs (Nat.le_trans hold h.lastSheetId)) hold
  entries id hid := by
    obtain ⟨new', hnew', hlater'⟩ := h'.entries id hid
    have hlatest : ∀ e ∈ new', b.registry.lastUpdateId < e.id := fun e he =>
      Nat.lt_of_le_of_lt h.lastUpdateId (hlater' e he)
    cases hmiddle : b'.registry.hasSheet id with
    | true =>
      obtain ⟨new, hnew, hlater⟩ := h.entries id hmiddle
      exact ⟨new ++ new', by rw [hnew', hnew, List.append_assoc],
        List.forall_mem_append.2 ⟨hlater, hlatest⟩⟩
    | false =>
      -- The sheet was made after the middle, so that neither book before has entries of it.
      have hfirst : b.registry.hasSheet id = false := Bool.eq_false_iff.2 fun hfirst => by
        have hold := Nat.le_trans (hb.registry.le_of_hasSheet hfirst) h.lastSheetId
        simp [h'.hasSheet hold hid] at hmiddle
      refine ⟨new', ?_, hlatest⟩
      rw [hnew', hb'.entriesOf_eq_nil hmiddle, hb.entriesOf_eq_nil hfirst]

theorem act (b : Book) (action : Action) : b.Grows (b.act action).2 := by
  cases action with
  | tell answer => exact refl b
  | list publisher =>
    refine ⟨?_, ?_, fun s hs _ => ?_, fun id _ => ⟨[], ?_, by simp⟩⟩
    · simp only [Book.act, registerPublisher]
      split <;> exact Nat.le_refl _
    · simp only [Book.act, registerPublisher]
      split <;> exact Nat.le_refl _
    · rwa [Book.act, sheets_registerPublisher] at hs
    · rw [Book.act, entriesOf_registerPublisher, List.append_nil]
  | make a v =>
    refine ⟨Nat.le_succ _, Nat.le_refl _, fun s hs hold => ?_,
      fun id _ => ⟨[], (List.append_nil _).symm, by simp⟩⟩
    refine (List.mem_append.1 hs).resolve_right fun hnew => ?_
    rw [List.mem_singleton.1 hnew] at hold
    exact Nat.not_succ_le_self _ hold
  | drop sheet =>
    refine ⟨Nat.le_refl _, Nat.le_refl _, fun s hs _ => (List.mem_filter.1 hs).1,
      fun id hid => ⟨[], ?_, by simp⟩⟩
    have hkept : (b.registry.removeSheet sheet).hasSheet id = true := hid
    rw [Registry.hasSheet_removeSheet, Bool.and_eq_true, bne_iff_ne] at hkept
    rw [Book.act, entriesOf_deleteSheet, if_neg hkept.2, List.append_nil]
  | enter d =>
    refine ⟨Nat.le_refl _, Nat.le_max_left _ _, fun s hs _ => hs,
      fun id _ => ⟨_, entriesOf_append d id, fun e he => ?_⟩⟩
    split at he
    · rw [List.mem_singleton.1 he]
      exact Nat.lt_succ_self _
    · simp at he

/-- Every answer leaves a book that grew. -/
theorem respond (h : b.Grows b') (hb : b.Sound) (hb' : b'.Sound) (extent : Extent)
    (now : Timestamp) (q : Request) : b.Grows (b'.respond extent now q).2 := by
  unfold Book.respond
  cases hplan : b'.plan extent now q with
  | error e => exact h
  | ok action => exact h.trans (act b' action) hb hb'

end Grows

/-! ### What is told next -/

theorem mem_sheetUpdates {b : Book} {id since : Nat} {scope : Scope} {e : LogEntry} :
    e ∈ b.sheetUpdates id scope since ↔
      e ∈ b.entriesOf id ∧ since < e.id ∧ scope.admits e = true := by
  rw [sheetUpdates_eq, List.mem_filter, Bool.and_eq_true, decide_eq_true_eq]

/-- What is told of a book that grew is what was told before, and the new entries. -/
theorem Grows.sheetUpdates {b b' : Book} (h : b.Grows b') {id : Nat}
    (hid : b'.registry.hasSheet id = true) : ∃ new, b'.entriesOf id = b.entriesOf id ++ new ∧
      ∀ scope since, since ≤ b.registry.lastUpdateId → b'.sheetUpdates id scope since =
        b.sheetUpdates id scope since ++ new.filter scope.admits := by
  obtain ⟨new, hnew, hlater⟩ := h.entries id hid
  refine ⟨new, hnew, fun scope since hsince => ?_⟩
  rw [sheetUpdates_eq, sheetUpdates_eq, hnew, List.filter_append]
  refine congrArg _ (List.filter_congr fun e he => ?_)
  rw [decide_eq_true (Nat.lt_of_le_of_lt hsince (hlater e he)), Bool.true_and]

/-- What is told of entries of a sheet. -/
theorem Sound.covers_ofEntries (h : b.Sound) {id : Nat} {es : List LogEntry}
    (hes : es ⊆ b.entriesOf id) : (Delta.ofEntries es).Covers es :=
  Delta.covers_ofEntries fun e he => h.readable e (List.mem_filter.1 (hes he)).1

theorem Sound.greatestId_le (h : b.Sound) (id : Nat) (scope : Scope) (since : Nat) :
    LogEntry.greatestId (b.sheetUpdates id scope since) ≤ b.registry.lastUpdateId :=
  LogEntry.greatestId_le_iff.2 fun e he => h.id_le e (List.mem_filter.1 he).1

/-- All accepted entries are told since zero. -/
theorem Sound.sheetUpdates_accepted_zero (h : b.Sound) (id : Nat) :
    b.sheetUpdates id .accepted 0 = b.acceptedOf id := by
  rw [sheetUpdates_accepted, List.filter_eq_self]
  exact fun e he => decide_eq_true (h.id_pos e (mem_acceptedOf.1 he).1)

/-- If anything is told, the number told is later than the one that was given. -/
theorem lt_greatestId {b : Book} {id since : Nat} {scope : Scope}
    (hsome : LogEntry.greatestId (b.sheetUpdates id scope since) ≠ 0) :
    since < LogEntry.greatestId (b.sheetUpdates id scope since) := by
  refine Nat.lt_of_not_le fun hle => hsome (Nat.le_zero.1 (LogEntry.greatestId_le_iff.2 ?_))
  intro e he
  have := LogEntry.greatestId_le_iff.1 hle e he
  have := (mem_sheetUpdates.1 he).2.1
  omega

/-- Nothing that was told is told again, if no more is asked for. -/
theorem sheetUpdates_eq_nil {b : Book} {id since n : Nat} {scope scope' : Scope}
    (hn : n = LogEntry.greatestId (b.sheetUpdates id scope since)) (hsome : n ≠ 0)
    (hscope : ∀ e, scope'.admits e = true → scope.admits e = true) :
    b.sheetUpdates id scope' n = [] := by
  subst hn
  refine List.eq_nil_iff_forall_not_mem.2 fun e he => ?_
  obtain ⟨hmem, hlt, hadmits⟩ := mem_sheetUpdates.1 he
  have htold := mem_sheetUpdates.2 ⟨hmem, Nat.lt_trans (lt_greatestId hsome) hlt, hscope e hadmits⟩
  exact absurd (LogEntry.greatestId_le_iff.1 (Nat.le_refl _) e htold) (Nat.not_le_of_lt hlt)

end Book

/-! ### Services later on -/

/-- **The book of a server grows.** -/
theorem Server.grows_run {σ : Type} [Medium σ] {v : Server σ} {es : List Event}
    (h : v.service.Sound)
    (hfew : v.lastUpdateId + (issuedIds (v.run es).2).length < UInt64.size) :
    v.service.book.Grows (v.run es).1.service.book :=
  book_run (fun _ extent now q hb' hgrows => hgrows.respond h.book hb' extent now q) h
    (.refl v.service.book) hfew

/-- The book of a server that starts on an empty store grows from any point on. -/
theorem Server.grows_history {σ : Type} [Medium σ] {extent : Extent} {keepsCheckpoint : Bool}
    {es fs : List Event}
    (hfew : (issuedIds (history σ extent keepsCheckpoint (es ++ fs)).2).length < UInt64.size) :
    (history σ extent keepsCheckpoint es).1.service.book.Grows
      (history σ extent keepsCheckpoint (es ++ fs)).1.service.book := by
  obtain ⟨hfirst, hlater⟩ := few_of_history_append hfew
  rw [history_append]
  exact grows_run (sound_history hfirst).1 hlater

namespace Service

variable {σ : Type} [Medium σ] {s s' : Service σ}

/-- What a service becomes, whatever events there are, with fewer than 2^64 updates. -/
def Later (s s' : Service σ) : Prop :=
  ∃ es : List Event,
    s.book.registry.lastUpdateId + (issuedIds (Server.run ⟨s, true⟩ es).2).length < UInt64.size ∧
      (Server.run ⟨s, true⟩ es).1 = ⟨s', true⟩

theorem Later.sound (h : s.Later s') (hs : s.Sound) : s'.Sound := by
  obtain ⟨es, hfew, hrun⟩ := h
  have hsound := (Server.sound_run (v := ⟨s, true⟩) hs hfew).1
  rwa [hrun] at hsound

theorem Later.grows (h : s.Later s') (hs : s.Sound) : s.book.Grows s'.book := by
  obtain ⟨es, hfew, hrun⟩ := h
  have hgrows := Server.grows_run (v := ⟨s, true⟩) hs hfew
  rwa [hrun] at hgrows

theorem later_of_isOpen {extent : Extent} {keepsCheckpoint : Bool} (es fs : List Event)
    (hfew : (issuedIds (Server.history σ extent keepsCheckpoint (es ++ fs)).2).length < UInt64.size)
    (hopen : (Server.history σ extent keepsCheckpoint es).1.isOpen = true)
    (hopen' : (Server.history σ extent keepsCheckpoint (es ++ fs)).1.isOpen = true) :
    (Server.history σ extent keepsCheckpoint es).1.service.Later
      (Server.history σ extent keepsCheckpoint (es ++ fs)).1.service := by
  have hrun : (Server.history σ extent keepsCheckpoint es).1 =
      ⟨(Server.history σ extent keepsCheckpoint es).1.service, true⟩ := by rw [← hopen]
  have hlater := (Server.few_of_history_append hfew).2
  rw [Server.history_append] at hopen' ⊢
  refine ⟨fs, ?_, ?_⟩
  · rwa [← hrun]
  · rw [← hrun, ← hopen']

end Service

/-! ### Asking -/

/-- The two ways of asking for changes. -/
inductive Feed where
  /-- For those that were accepted. -/
  | subscription
  /-- For all, proposals among them. -/
  | published
  deriving DecidableEq

namespace Feed

/-- Which entries are told. -/
def tells : Feed → LogEntry → Bool
  | subscription, e => e.accepted
  | published, _ => true

/-- How the store is asked for them. -/
def scope : Feed → Scope
  | subscription => .accepted
  | published => .any

theorem admits_scope (feed : Feed) : feed.scope.admits = feed.tells := by
  cases feed <;> rfl

/-- Entries that were there already when a number was told, and that are told next to whoever asks
with that number: the proposals behind the last accepted entry, if first accepted entries were asked
for and then all. -/
def leftOver (feed feed' : Feed) (n : Nat) (es : List LogEntry) : List LogEntry :=
  match feed, feed' with
  | subscription, published => es.filter fun e => n < e.id && !e.accepted
  | _, _ => []

theorem leftOver_subset {feed feed' : Feed} {n : Nat} {es : List LogEntry} :
    feed.leftOver feed' n es ⊆ es := by
  cases feed <;> cases feed' <;> simp [leftOver]

/-- Asks for the changes of a sheet after an update. -/
def ask {σ : Type} [Store σ] (feed : Feed) (requester : String) (a : SheetAddress) (since : Nat) :
    Call σ Delta :=
  match feed with
  | subscription => Service.subscriptionDelta requester a since
  | published => Service.publishedDelta requester a since

end Feed

namespace Service

variable {σ : Type} [Medium σ] {s s' : Service σ} {sheet : Sheet} {requester : String}

/-- What is told of a sheet that the asker sees. -/
theorem Sound.exec_ask (h : s.Sound) (hsheet : sheet ∈ s.book.registry.sheets)
    (hvisible : sheet.isVisibleTo requester = true) (feed : Feed) (since : Nat) :
    (Call.exec (feed.ask requester sheet.address since) s).1 =
      .ok (if feed = .subscription ∧ since = 0 then (s.book.sheetState s.extent sheet.id).delta 0
        else .ofEntries (s.book.sheetUpdates sheet.id feed.scope since)) := by
  cases feed with
  | subscription =>
    rw [Feed.ask, h.exec_subscriptionDelta hsheet hvisible]
    simp [Feed.scope]
  | published =>
    simp only [Feed.ask, publishedDelta, Call.exec_bind, exec_resolveVisible,
      h.book.resolveVisible hsheet hvisible]
    rfl

/-- The number that is told is the greatest one of the entries, also when their cells are told
instead. -/
theorem Sound.lastId_ask (h : s.Sound) (hsheet : sheet ∈ s.book.registry.sheets)
    (hvisible : sheet.isVisibleTo requester = true) (feed : Feed) {since : Nat} {d : Delta}
    (hd : (Call.exec (feed.ask requester sheet.address since) s).1 = .ok d) :
    d.lastId = LogEntry.greatestId (s.book.sheetUpdates sheet.id feed.scope since) := by
  rw [h.exec_ask hsheet hvisible] at hd
  obtain rfl := Except.ok.inj hd
  split
  · rename_i hcells
    obtain ⟨rfl, rfl⟩ := hcells
    rw [Feed.scope, h.book.sheetUpdates_accepted_zero]
    exact CachedSheet.lastId_delta_ofEntries _ (h.book.ascending_acceptedOf _)
      (fun e he => h.book.id_pos e (Book.mem_acceptedOf.1 he).1)
      fun e he => h.book.readable e (Book.mem_acceptedOf.1 he).1
  · exact Delta.lastId_ofEntries _

/-- What is told next after a number was told: of the entries that the asker could have heard of
before, none, and all those that came in between. -/
theorem Sound.ask_later (h : s.Sound) (hlater : s.Later s')
    (hsheet : sheet ∈ s.book.registry.sheets) (hsheet' : sheet ∈ s'.book.registry.sheets)
    (hvisible : sheet.isVisibleTo requester = true) :
    ∃ new, s'.book.entriesOf sheet.id = s.book.entriesOf sheet.id ++ new ∧
      ∀ (feed : Feed) since d,
        (Call.exec (feed.ask requester sheet.address since) s).1 = .ok d → d.lastId ≠ 0 →
        ∀ feed' : Feed, (Call.exec (feed'.ask requester sheet.address d.lastId) s').1 =
          .ok (.ofEntries (s.book.sheetUpdates sheet.id feed'.scope d.lastId ++
            new.filter feed'.scope.admits)) := by
  obtain ⟨new, hnew, htold⟩ := (hlater.grows h).sheetUpdates
    (Registry.hasSheet_iff.2 ⟨sheet, hsheet', rfl⟩)
  refine ⟨new, hnew, fun feed since d hd hsome feed' => ?_⟩
  have hle : d.lastId ≤ s.book.registry.lastUpdateId := by
    rw [h.lastId_ask hsheet hvisible feed hd]
    exact h.book.greatestId_le ..
  rw [(hlater.sound h).exec_ask hsheet' hvisible, if_neg fun hzero => hsome hzero.2,
    htold feed'.scope d.lastId hle]

/-- What a service has in its log behind a number that it told is left over. -/
theorem Sound.sheetUpdates_lastId (h : s.Sound) (hsheet : sheet ∈ s.book.registry.sheets)
    (hvisible : sheet.isVisibleTo requester = true) {feed : Feed} {since : Nat} {d : Delta}
    (hd : (Call.exec (feed.ask requester sheet.address since) s).1 = .ok d) (hsome : d.lastId ≠ 0)
    (feed' : Feed) : s.book.sheetUpdates sheet.id feed'.scope d.lastId =
      feed.leftOver feed' d.lastId (s.book.entriesOf sheet.id) := by
  have hlast := h.lastId_ask hsheet hvisible feed hd
  match feed, feed' with
  | .subscription, .subscription => exact Book.sheetUpdates_eq_nil hlast hsome fun _ => id
  | .published, _ => exact Book.sheetUpdates_eq_nil hlast hsome fun _ _ => rfl
  | .subscription, .published =>
    rw [Book.sheetUpdates_eq]
    refine List.filter_congr fun e he => ?_
    by_cases hlt : d.lastId < e.id
    · -- An accepted entry behind the last one would have been told.
      have hnone : s.book.sheetUpdates sheet.id .accepted d.lastId = [] :=
        Book.sheetUpdates_eq_nil hlast hsome fun _ => id
      have hproposal : e.accepted = false := Bool.eq_false_iff.2 fun haccepted =>
        List.eq_nil_iff_forall_not_mem.1 hnone e (Book.mem_sheetUpdates.2 ⟨he, hlt, haccepted⟩)
      simp [hlt, hproposal, Feed.scope, Scope.admits]
    · simp [hlt]

/-- **Cursors lose and repeat nothing.** The number told is the greatest of the sheet's accepted
entries when it is computed from the cells, and else the greatest of the entries told. Whenever the
service is asked with that number later on, while the sheet is still there, it tells exactly the
entries that were put into the log in between, in their order. Only whoever asked for accepted
entries and then asks for all is told the proposals too that were left over, before the others. -/
theorem cursors_lose_and_repeat_nothing (h : s.Reachable)
    (hsheet : sheet ∈ s.book.registry.sheets) (hvisible : sheet.isVisibleTo requester = true) :
    (∃ d, (Call.exec (subscriptionDelta requester sheet.address 0) s).1 = .ok d ∧
      d.lastId = LogEntry.greatestId (s.book.acceptedOf sheet.id)) ∧
    (∀ (feed : Feed) since, feed = .published ∨ since ≠ 0 →
      ∃ d, (Call.exec (feed.ask requester sheet.address since) s).1 = .ok d ∧
        d.Covers ((s.book.entriesOf sheet.id).filter fun e => since < e.id && feed.tells e)) ∧
    ∀ s', s.Later s' → sheet ∈ s'.book.registry.sheets →
      ∃ new, s'.book.entriesOf sheet.id = s.book.entriesOf sheet.id ++ new ∧
        new.Pairwise (·.id < ·.id) ∧
        ∀ (feed : Feed) since d,
          (Call.exec (feed.ask requester sheet.address since) s).1 = .ok d → d.lastId ≠ 0 →
          ∀ feed' : Feed, ∃ d',
            (Call.exec (feed'.ask requester sheet.address d.lastId) s').1 = .ok d' ∧
            d'.Covers (feed.leftOver feed' d.lastId (s.book.entriesOf sheet.id) ++
              new.filter feed'.tells) := by
  have hsound := h.sound
  refine ⟨?_, fun feed since hlog => ?_, fun s' hlater hsheet' => ?_⟩
  · have hask := hsound.exec_ask hsheet hvisible .subscription 0
    have hlast := hsound.lastId_ask hsheet hvisible .subscription hask
    rw [Feed.scope, hsound.book.sheetUpdates_accepted_zero] at hlast
    exact ⟨_, hask, hlast⟩
  · have hask := hsound.exec_ask hsheet hvisible feed since
    rw [if_neg fun hcells => by rcases hlog with hfeed | hsince <;> simp_all,
      Book.sheetUpdates_eq, feed.admits_scope] at hask
    exact ⟨_, hask, hsound.book.covers_ofEntries (List.filter_subset_self _)⟩
  · obtain ⟨new, hnew, hnext⟩ := hsound.ask_later hlater hsheet hsheet' hvisible
    have hsound' := (hlater.sound hsound).book
    refine ⟨new, hnew, ?_, fun feed since d hd hsome feed' =>
      ⟨_, hnext feed since d hd hsome feed', ?_⟩⟩
    · have horder : (s'.book.entriesOf sheet.id).Pairwise (·.id < ·.id) :=
        hsound'.ascending.filter _
      rw [hnew] at horder
      exact (List.pairwise_append.1 horder).2.1
    · rw [hsound.sheetUpdates_lastId hsheet hvisible hd hsome, feed'.admits_scope]
      have hsubset : feed.leftOver feed' d.lastId (s.book.entriesOf sheet.id) ++
          new.filter feed'.tells ⊆ s'.book.entriesOf sheet.id := by
        rw [hnew]
        exact List.append_subset.2
          ⟨fun e he => List.mem_append_left _ (Feed.leftOver_subset he),
            fun e he => List.mem_append_right _ (List.mem_filter.1 he).1⟩
      exact hsound'.covers_ofEntries hsubset

/-- A change, and a proposal behind it. -/
def proposalRun : List Event :=
  publishing ["$A1 1\n$B2 x"] ++ [.request .epoch (.propose "bob" planSheet.address "$B1 2")]

/-- One more change. -/
def nextPublish : Event := .request .epoch (.publish "ana" planSheet.address "$A1")

/-- The service after a change and a proposal. -/
def afterProposal : Service Book := (Server.history Book ⟨10, 10⟩ false proposalRun).1.service

/-- The same service after one more change. -/
def afterNextPublish : Service Book :=
  (Server.history Book ⟨10, 10⟩ false (proposalRun ++ [nextPublish])).1.service

theorem reachable_afterProposal : afterProposal.Reachable :=
  reachable_of_isOpen (by decide +kernel) (by decide +kernel)

theorem later_afterNextPublish : afterProposal.Later afterNextPublish :=
  later_of_isOpen proposalRun [nextPublish] (by decide +kernel) (by decide +kernel)
    (by decide +kernel)

theorem entriesOf_afterProposal : afterProposal.book.entriesOf planSheet.id =
    [⟨⟨1, "ana", "$A1 1\n$B2 x", true, .epoch⟩, 1⟩, ⟨⟨1, "bob", "$B1 2", false, .epoch⟩, 2⟩] := by
  decide +kernel

theorem entriesOf_afterNextPublish : afterNextPublish.book.entriesOf planSheet.id =
    afterProposal.book.entriesOf planSheet.id ++ [⟨⟨1, "ana", "$A1", true, .epoch⟩, 3⟩] := by
  decide +kernel

theorem cursors_past_proposal : afterProposal.Reachable ∧ afterProposal.Later afterNextPublish ∧
    (∃ d, (Call.exec (subscriptionDelta "bob" planSheet.address 0) afterProposal).1 = .ok d ∧
      d.lastId = 1) ∧
    (Call.exec (publishedDelta "bob" planSheet.address 0) afterProposal).1 =
      .ok ⟨"$A1 1\n$B2 x\n$B1 2\n", 2⟩ ∧
    (Call.exec (subscriptionDelta "bob" planSheet.address 1) afterNextPublish).1 =
      .ok ⟨"$A1\n", 3⟩ ∧
    (Call.exec (publishedDelta "bob" planSheet.address 1) afterNextPublish).1 =
      .ok ⟨"$B1 2\n$A1\n", 3⟩ ∧
    (Call.exec (publishedDelta "bob" planSheet.address 2) afterNextPublish).1 =
      .ok ⟨"$A1\n", 3⟩ := by
  have hsheet : planSheet ∈ afterProposal.book.registry.sheets := by decide +kernel
  have hsheet' : planSheet ∈ afterNextPublish.book.registry.sheets := by decide +kernel
  have hvisible : planSheet.isVisibleTo "bob" = true := by decide
  obtain ⟨⟨d, hd, hlast⟩, hlog, hnext⟩ :=
    cursors_lose_and_repeat_nothing reachable_afterProposal hsheet hvisible
  have hone : d.lastId = 1 := hlast.trans (by decide +kernel)
  obtain ⟨all, hall, hcovers⟩ := hlog .published 0 (.inl rfl)
  rw [entriesOf_afterProposal] at hcovers
  obtain rfl : all = ⟨"$A1 1\n$B2 x\n$B1 2\n", 2⟩ := hcovers.eq.trans (by decide +kernel)
  obtain ⟨new, hnew, -, htold⟩ := hnext afterNextPublish later_afterNextPublish hsheet'
  obtain rfl := List.append_cancel_left (entriesOf_afterNextPublish.symm.trans hnew)
  have hfirst := htold .subscription 0 d hd (by omega)
  rw [hone, entriesOf_afterProposal] at hfirst
  obtain ⟨d₁, hd₁, hcovers₁⟩ := hfirst .subscription
  obtain ⟨d₂, hd₂, hcovers₂⟩ := hfirst .published
  obtain ⟨d₃, hd₃, hcovers₃⟩ := htold .published 0 _ hall (by decide) .published
  rw [hcovers₁.eq] at hd₁
  rw [hcovers₂.eq] at hd₂
  rw [hcovers₃.eq] at hd₃
  exact ⟨reachable_afterProposal, later_afterNextPublish, ⟨d, hd, hone⟩, hall,
    hd₁.trans (by decide +kernel), hd₂.trans (by decide +kernel), hd₃.trans (by decide +kernel)⟩

/-- A number that was told with accepted entries does not stand for the proposals behind them. -/
theorem not_forall_next_covers_new : ¬ ∀ (s s' : Service Book) (sheet : Sheet) (requester : String)
    (new : List LogEntry), s.Reachable → s.Later s' → sheet ∈ s.book.registry.sheets →
    sheet ∈ s'.book.registry.sheets → sheet.isVisibleTo requester = true →
    s'.book.entriesOf sheet.id = s.book.entriesOf sheet.id ++ new →
    ∀ (feed feed' : Feed) since d,
      (Call.exec (feed.ask requester sheet.address since) s).1 = .ok d → d.lastId ≠ 0 →
      ∃ d', (Call.exec (feed'.ask requester sheet.address d.lastId) s').1 = .ok d' ∧
        d'.Covers (new.filter feed'.tells) := by
  intro hexact
  have hsheet : planSheet ∈ afterProposal.book.registry.sheets := by decide +kernel
  have hvisible : planSheet.isVisibleTo "bob" = true := by decide
  have hd := reachable_afterProposal.sound.exec_ask hsheet hvisible .subscription 0
  have hone := reachable_afterProposal.sound.lastId_ask hsheet hvisible .subscription hd
  rw [show LogEntry.greatestId _ = 1 by decide +kernel] at hone
  obtain ⟨d', hd', hcovers⟩ := hexact afterProposal afterNextPublish planSheet "bob" _
    reachable_afterProposal later_afterNextPublish hsheet (by decide +kernel) hvisible
    entriesOf_afterNextPublish .subscription .published 0 _ hd (by omega)
  have hpayload : (Call.exec (Feed.published.ask "bob" planSheet.address 1)
      afterNextPublish).1.toOption.map (·.payload) = some "$B1 2\n$A1\n" := by decide +kernel
  rw [hone] at hd'
  rw [hd', hcovers.eq] at hpayload
  exact absurd hpayload (by decide +kernel)

end Service

end SharedSheet
