import SharedSheet.Proofs.Service.CachedLog

/-!
# Checkpoints over the life of a store

A checkpoint is to save time and nothing else: the cache should be the one that is built from the
log. A store lives longer than a server, though, and longer than a configuration. A checkpoint may
have been written by a server that was configured with another extent for new sheets, and it may be
older than the last one. `Server.Lives` is everything that can happen to a store in its life.

Building the cache settles which sheets there are and takes in the entries that are missing, so
that sheets and cells are those of the log. The extents are not settled. They are the ones that the
checkpoint had, and so is the extent of every sheet that is made afterwards: a service that restores
its cache does not look at the extent in its configuration at all. That is also what the proof rests
on. Such a service is the same as one that is configured with the extent of its checkpoint, and of
that one everything is known.

## Main definitions

* `Service.under`, `Call.IgnoresExtent` — another extent, and calls that do not look at it
* `Server.Lives` — the life of a store
* `Cache.Agrees` — caches that are the same for all that comes

## Main results

* `Request.ignoresExtent_call`, `Server.step_under` — the extent is not looked at
* `Service.SoundFor.step` — caches stay right, for whichever extent
* `Server.Lives.checkpoint_shows_in_extents` — what a checkpoint changes, and when it changes
  nothing
-/

namespace SharedSheet

/-! ### Services that do not look at their extent -/

namespace Service

variable {σ : Type} {s : Service σ}

/-- The service with another extent in its configuration. -/
def under (s : Service σ) (extent : Extent) : Service σ := { s with extent }

/-- Whether a service keeps its cache in a checkpoint, and there is one. -/
def Restores (s : Service σ) : Prop := s.keepsCheckpoint = true ∧ ∃ c, s.checkpoint = .image c

theorem Restores.under (h : s.Restores) (extent : Extent) : (s.under extent).Restores := h

namespace Restores

variable [Store σ]

theorem builtCache_under (h : s.Restores) (extent : Extent) :
    (s.under extent).builtCache = s.builtCache := by
  obtain ⟨hkeeps, c, himage⟩ := h
  simp [builtCache, Service.under, hkeeps, himage, Checkpoint.load?, book]

theorem current_under (h : s.Restores) (extent : Extent) :
    (s.under extent).current = s.current := by
  rw [current, h.builtCache_under]
  rfl

theorem warmed_under (h : s.Restores) (extent : Extent) :
    (s.under extent).warmed = s.warmed.under extent := by
  rw [warmed, h.builtCache_under]
  rfl

end Restores

end Service

/-- A call that does not look at the extent of a service that restores its cache. -/
def Call.IgnoresExtent {σ α : Type} (c : Call σ α) : Prop :=
  ∀ (s : Service σ) (extent : Extent), s.Restores →
    Call.exec c (s.under extent) = ((Call.exec c s).1, (Call.exec c s).2.under extent) ∧
      (Call.exec c s).2.Restores

namespace Call.IgnoresExtent

open Service

section

variable {σ α β : Type} {c c' : Call σ α}

theorem pure (a : α) : IgnoresExtent (pure a : Call σ α) := fun _ _ h => ⟨rfl, h⟩

theorem throw (e : Refusal) : IgnoresExtent (throw e : Call σ α) := fun _ _ h => ⟨rfl, h⟩

theorem bind {k : α → Call σ β} (hc : IgnoresExtent c) (hk : ∀ a, IgnoresExtent (k a)) :
    IgnoresExtent (c >>= k) := by
  intro s extent h
  obtain ⟨hrun, hafter⟩ := hc s extent h
  rw [Call.exec_bind, Call.exec_bind, hrun]
  generalize Call.exec c s = done at hafter
  obtain ⟨e | a, s'⟩ := done
  · exact ⟨rfl, hafter⟩
  · exact hk a s' extent hafter

theorem throw_bind (e : Refusal) (k : α → Call σ β) :
    IgnoresExtent (MonadExcept.throw e >>= k) := fun _ _ h => ⟨rfl, h⟩

theorem map (hc : IgnoresExtent c) (f : α → β) : IgnoresExtent (f <$> c) := by
  rw [map_eq_pure_bind]
  exact hc.bind fun a => .pure (f a)

theorem ite {p : Prop} [Decidable p] (hc : IgnoresExtent c) (hc' : IgnoresExtent c') :
    IgnoresExtent (if p then c else c') := by
  split <;> assumption

theorem onStore (op : Operation σ StoreError α) : IgnoresExtent (onStore op) := fun s extent h => by
  rw [exec_onStore, exec_onStore]
  exact ⟨rfl, h⟩

theorem orRefuse {ε : Type} (why : ε → Refusal) (answer : Except ε α) :
    IgnoresExtent (σ := σ) (orRefuse why answer) := fun s extent h => by
  rw [exec_orRefuse, exec_orRefuse]
  exact ⟨rfl, h⟩

theorem validate (payload : String) : IgnoresExtent (σ := σ) (validate payload) :=
  fun s extent h => by
    rw [exec_validate, exec_validate]
    exact ⟨rfl, h⟩

theorem setCache (c : Cache) : IgnoresExtent (σ := σ) (setCache c) := fun _ _ h => ⟨rfl, h⟩

end

variable {σ α : Type} [Store σ]

theorem ask (question : Book → α) : IgnoresExtent (σ := σ) (ask question) := fun _ _ h => ⟨rfl, h⟩

theorem requirePublisher (publisher : String) :
    IgnoresExtent (σ := σ) (requirePublisher publisher) := fun s extent h => by
  rw [exec_requirePublisher, exec_requirePublisher]
  exact ⟨rfl, h⟩

theorem resolve (a : SheetAddress) : IgnoresExtent (σ := σ) (resolve a) := fun s extent h => by
  rw [exec_resolve, exec_resolve]
  exact ⟨rfl, h⟩

theorem resolveVisible (caller : String) (a : SheetAddress) :
    IgnoresExtent (σ := σ) (resolveVisible caller a) := fun s extent h => by
  rw [exec_resolveVisible, exec_resolveVisible]
  exact ⟨rfl, h⟩

theorem warmCache : IgnoresExtent (σ := σ) warmCache := fun s extent h => by
  rw [exec_warmCache_eq, exec_warmCache_eq, h.current_under, h.warmed_under]
  exact ⟨rfl, h⟩

theorem saveCheckpoint : IgnoresExtent (σ := σ) saveCheckpoint := fun s extent h => by
  have hsaved : ∀ t : Service σ, t.Restores → Call.exec Service.saveCheckpoint t =
      (.ok true, { t.warmed with checkpoint := .image t.current }) := fun t ht => by
    obtain ⟨hkeeps, c, himage⟩ := ht
    unfold Service.saveCheckpoint
    simp [Call.exec_bind, exec_warmCache_eq, hkeeps, warmed, himage, Checkpoint.save?]
    rfl
  rw [hsaved s h, hsaved _ (h.under extent), h.current_under, h.warmed_under]
  exact ⟨rfl, h.1, _, rfl⟩

/-! #### Requests -/

theorem publish (now : Timestamp) (caller : String) (a : SheetAddress) (payload : String) :
    IgnoresExtent (σ := σ) (publish now caller a payload) := by
  unfold Service.publish
  refine (validate payload).bind fun es => warmCache.bind fun c => (resolve a).bind fun sheet => ?_
  split
  · exact (onStore _).bind fun e => (orRefuse _ _).bind fun c => (setCache c).bind fun _ => .pure e
  · exact throw_bind _ _

theorem propose (now : Timestamp) (caller : String) (a : SheetAddress) (payload : String) :
    IgnoresExtent (σ := σ) (propose now caller a payload) :=
  (validate payload).bind fun _ => warmCache.bind fun _ => (resolveVisible caller a).bind fun _ =>
    onStore _

theorem snapshot (caller : String) (a : SheetAddress) :
    IgnoresExtent (σ := σ) (snapshot caller a) :=
  warmCache.bind fun _ => (resolveVisible caller a).bind fun _ => (orRefuse _ _).bind fun _ =>
    .pure _

end Call.IgnoresExtent

namespace Request

open Call

/-- No request looks at the extent of a service that restores its cache. -/
theorem ignoresExtent_call {σ : Type} [Store σ] (now : Timestamp) (q : Request) :
    Call.IgnoresExtent (σ := σ) (q.call now) := by
  cases q with
  | register publisher => exact (IgnoresExtent.ite (.throw _) (.onStore _)).map _
  | publishers => exact (IgnoresExtent.ask _).map _
  | sheets publisher caller =>
    exact ((IgnoresExtent.requirePublisher _).bind fun _ => .ask _).map _
  | create caller a =>
    refine IgnoresExtent.map ?_ _
    unfold Service.create
    split
    · exact .throw_bind _ _
    · dsimp only
      split
      · exact .throw_bind _ _
      · refine (IgnoresExtent.requirePublisher _).bind fun _ => IgnoresExtent.warmCache.bind fun c =>
          (IgnoresExtent.ask _).bind fun taken => ?_
        split
        · exact .throw_bind _ _
        · exact (IgnoresExtent.onStore _).bind fun sheet =>
            (IgnoresExtent.setCache _).bind fun _ => .pure sheet
  | delete caller a =>
    refine IgnoresExtent.map ?_ _
    unfold Service.delete
    refine IgnoresExtent.warmCache.bind fun c => (IgnoresExtent.resolve a).bind fun sheet => ?_
    split
    · exact (IgnoresExtent.onStore _).bind fun _ => .setCache _
    · exact .throw_bind _ _
  | resolve a => exact (IgnoresExtent.resolve a).map _
  | publish caller a payload => exact (IgnoresExtent.publish now caller a payload).map _
  | propose caller a payload => exact (IgnoresExtent.propose now caller a payload).map _
  | submit caller a payload =>
    exact (IgnoresExtent.ite (.publish now caller a payload) (.propose now caller a payload)).map _
  | publishedDelta caller a since =>
    exact ((IgnoresExtent.resolveVisible caller a).bind fun _ => .bind (.ask _) fun _ =>
      .pure _).map _
  | subscriptionDelta caller a since =>
    refine IgnoresExtent.map (IgnoresExtent.warmCache.bind fun c =>
      (IgnoresExtent.resolveVisible caller a).bind fun sheet => ?_) _
    split
    · exact (IgnoresExtent.orRefuse _ _).bind fun _ => .pure _
    · exact (IgnoresExtent.ask _).bind fun _ => .pure _
  | snapshot caller a => exact (IgnoresExtent.snapshot caller a).map _
  | evaluate caller a term =>
    exact ((IgnoresExtent.snapshot caller a).bind fun _ => .orRefuse _ _).map _

end Request

/-! ### Servers -/

namespace Server

variable {σ : Type} [Medium σ] {v : Server σ}

/-- The server with another extent in its configuration. -/
def under (v : Server σ) (extent : Extent) : Server σ := ⟨v.service.under extent, v.isOpen⟩

/-- **No event looks at the extent** of a server that restores its cache. -/
theorem step_under (h : v.service.Restores) (extent : Extent) (e : Event) :
    (v.under extent).step e = ((v.step e).1.under extent, (v.step e).2) ∧
      (v.step e).1.service.Restores := by
  obtain ⟨s, isOpen⟩ := v
  cases e with
  | request now q =>
    obtain ⟨hrun, hafter⟩ := q.ignoresExtent_call now s extent h
    cases isOpen with
    | false => exact ⟨rfl, h⟩
    | true =>
      simp only [step, under, if_true, hrun]
      exact ⟨trivial, hafter⟩
  | checkpoint =>
    obtain ⟨hrun, hafter⟩ := Call.IgnoresExtent.saveCheckpoint s extent h
    cases isOpen with
    | false => exact ⟨rfl, h⟩
    | true =>
      simp only [step, under, if_true, hrun]
      exact ⟨trivial, hafter⟩
  | restart | refuse => exact ⟨rfl, h⟩

end Server

/-- A service whose caches are right for sheets of an extent. It is the one that the service is
configured with, unless the service restores its cache. -/
structure Service.SoundFor {σ : Type} [Medium σ] (s : Service σ) (extent : Extent) : Prop where
  sound : (s.under extent).Sound
  extent : s.extent = extent ∨ s.Restores

namespace Service.SoundFor

variable {σ : Type} [Medium σ] {extent : Extent}

/-- **Events keep caches right**, whatever the extent in the configuration. -/
theorem step {v : Server σ} (h : v.service.SoundFor extent) (hfits : v.lastUpdateId < UInt64.size)
    (e : Event) : (v.step e).1.service.SoundFor extent ∧
      ((v.step e).1.service.book = v.service.book ∨ ∃ now q, e = .request now q ∧
        (v.step e).1.service.book = (v.service.book.respond extent now q).2) := by
  rcases h.extent with rfl | hrestores
  · obtain ⟨hsound, hextent, -⟩ := Server.sound_step h.sound hfits e
    refine ⟨⟨?_, .inl hextent⟩, Server.book_step h.sound hfits e⟩
    rwa [← hextent]
  · obtain ⟨hrun, hafter⟩ := Server.step_under hrestores extent e
    have hsound := (Server.sound_step (v := v.under extent) h.sound hfits e).1
    have hbook := Server.book_step (v := v.under extent) h.sound hfits e
    rw [hrun] at hsound hbook
    exact ⟨⟨hsound, .inr hafter⟩, hbook⟩

end Service.SoundFor

/-! ### The life of a store -/

theorem Checkpoint.load?_eq_some_iff {p : Checkpoint} {c : Cache} :
    p.load? = some c ↔ p = .image c := by
  cases p <;> simp [load?]

/-- What a book makes of a request is recalled as well. -/
theorem Cache.Recalls.respond {c : Cache} {extent : Extent} {b : Book} (h : c.Recalls extent b)
    (hb : b.Sound) (extent' : Extent) (now : Timestamp) (q : Request) :
    c.Recalls extent (b.respond extent' now q).2 := by
  unfold Book.respond
  cases b.plan extent' now q with
  | error e => exact h
  | ok action =>
    cases action with
    | tell answer => exact h
    | list publisher => exact h.registerPublisher publisher
    | make a v => exact h.insertSheet hb a v
    | drop sheet => exact h.deleteSheet sheet
    | enter d => exact h.append d

namespace Server

variable {σ : Type} [Medium σ] {v : Server σ} {configured : List Extent} {written : List Cache}

/-- The server that is started on a store with an extent, and with a file in the place of a
checkpoint if it is to keep one. -/
def setUp (v : Server σ) (extent : Extent) (place : Option Checkpoint) : Server σ :=
  ⟨{ store := (Medium.reopen v.service.store).2, extent, keepsCheckpoint := place.isSome,
     checkpoint := place.getD .absent },
    match (Medium.reopen v.service.store).1 with
    | .ok () => true
    | .error _ => false⟩

/-- The life of a store. Servers with different configurations run on it one after another, and any
of the checkpoints that were written before may be put in place for the next one. The lists are the
extents in the configurations and the caches in the checkpoints. -/
inductive Lives : Server σ → List Extent → List Cache → Prop
  | start (extent : Extent) (keepsCheckpoint : Bool) :
    Lives (start extent keepsCheckpoint) [extent] []
  | event {v : Server σ} {configured : List Extent} {written : List Cache} (e : Event) :
    Lives v configured written → v.lastUpdateId < UInt64.size →
    Lives (v.step e).1 configured ((v.step e).1.service.checkpoint.load?.toList ++ written)
  | setUp {v : Server σ} {configured : List Extent} {written : List Cache} (extent : Extent)
    (place : Option Checkpoint) :
    Lives v configured written → v.lastUpdateId < UInt64.size →
    (∀ c, place = some (.image c) → c ∈ written) →
    Lives (v.setUp extent place) (extent :: configured) written

/-- A run is a part of the life of its store. -/
theorem Lives.run (h : v.Lives configured written) (hsound : v.service.Sound) {es : List Event}
    (hfew : v.lastUpdateId + (issuedIds (v.run es).2).length < UInt64.size) :
    ∃ more, (v.run es).1.Lives configured (more ++ written) := by
  induction es generalizing v written with
  | nil => exact ⟨[], h⟩
  | cons e es ih =>
    simp only [Server.run, issuedIds_append, List.length_append] at hfew ⊢
    obtain ⟨hafter, -, hlast, -⟩ := sound_step hsound (by omega) e
    obtain ⟨more, hlives⟩ := ih (h.event e (by omega)) hafter (by omega)
    exact ⟨more ++ (v.step e).1.service.checkpoint.load?.toList, by rwa [List.append_assoc]⟩

/-- What is known of a store during its life: the caches in use are right for one of the extents,
and every checkpoint is one that the store's book can be recalled from. -/
structure Keeps (v : Server σ) (configured : List Extent) (written : List Cache) : Prop where
  service : ∃ extent ∈ configured, v.service.SoundFor extent
  written : ∀ c ∈ written,
    c.Recalls c.defaultExtent v.service.book ∧ c.defaultExtent ∈ configured

namespace Keeps

theorem start (extent : Extent) (keepsCheckpoint : Bool) :
    (Server.start extent keepsCheckpoint : Server σ).Keeps [extent] [] where
  service := ⟨extent, List.mem_singleton_self _, sound_start extent keepsCheckpoint, .inl rfl⟩
  written := by simp

theorem event (h : v.Keeps configured written) (hfits : v.lastUpdateId < UInt64.size) (e : Event) :
    (v.step e).1.Keeps configured ((v.step e).1.service.checkpoint.load?.toList ++ written) := by
  obtain ⟨extent, hextent, hservice⟩ := h.service
  obtain ⟨hafter, hbook⟩ := hservice.step hfits e
  refine ⟨⟨extent, hextent, hafter⟩, fun c hc => ?_⟩
  rcases List.mem_append.1 hc with hc | hc
  · have himage := Checkpoint.load?_eq_some_iff.1 (Option.mem_toList.1 hc)
    have hrecalls : c.Recalls extent _ := hafter.sound.checkpoint c himage
    obtain rfl := hrecalls.defaultExtent
    exact ⟨hrecalls, hextent⟩
  · obtain ⟨hrecalls, hmem⟩ := h.written c hc
    refine ⟨?_, hmem⟩
    rcases hbook with hbook | ⟨now, q, -, hbook⟩
    · rwa [hbook]
    · rw [hbook]
      exact hrecalls.respond hservice.sound.book extent now q

theorem setUp (h : v.Keeps configured written) (hfits : v.lastUpdateId < UInt64.size)
    (extent : Extent) {place : Option Checkpoint}
    (hplace : ∀ c, place = some (.image c) → c ∈ written) :
    (v.setUp extent place).Keeps (extent :: configured) written := by
  obtain ⟨before, -, hservice⟩ := h.service
  have hbook : (v.setUp extent place).service.book = v.service.book :=
    Medium.book_reopen hservice.sound.intact hfits
  have hintact := Medium.intact_reopen hservice.sound.intact hfits
  have hsound := hservice.sound.book
  refine ⟨?_, fun c hc => ?_⟩
  · by_cases himage : ∃ c, place = some (.image c)
    · obtain ⟨c, rfl⟩ := himage
      obtain ⟨hrecalls, hmem⟩ := h.written c (hplace c rfl)
      refine ⟨c.defaultExtent, List.mem_cons_of_mem _ hmem, ?_, .inr ⟨rfl, c, rfl⟩⟩
      refine .of_book hbook hintact hsound (by simp [Server.setUp, Service.under]) fun c' hc' => ?_
      obtain rfl := Checkpoint.image.inj hc'
      exact hrecalls
    · refine ⟨extent, List.mem_cons_self, ?_, .inl rfl⟩
      refine .of_book hbook hintact hsound (by simp [Server.setUp, Service.under]) fun c hc => ?_
      cases place with
      | none => exact absurd hc (by simp [Server.setUp, Service.under])
      | some p => exact absurd ⟨c, congrArg some hc⟩ himage
  · obtain ⟨hrecalls, hmem⟩ := h.written c hc
    exact ⟨hbook ▸ hrecalls, List.mem_cons_of_mem _ hmem⟩

end Keeps

theorem Lives.keeps (h : v.Lives configured written) : v.Keeps configured written := by
  induction h with
  | start extent keepsCheckpoint => exact .start extent keepsCheckpoint
  | event e _ hfits ih => exact ih.event hfits e
  | setUp extent place _ hfits hplace ih => exact ih.setUp hfits extent hplace

end Server

/-! ### With and without a checkpoint -/

/-- Caches that agree: in the sheets, in their cells and extents, and in the extent of a sheet that
is made later. -/
structure Cache.Agrees (c c' : Cache) : Prop where
  sheetIds : c.sheetIds = c'.sheetIds
  sheet : ∀ id ∈ c.sheetIds, c.sheet id = c'.sheet id
  created : ∀ id, id ∉ c.sheetIds → (c.register id).sheet id = (c'.register id).sheet id

namespace Service

variable {σ : Type}

/-- The service when it is configured with an extent and finds a cache in its checkpoint. -/
def restoring (s : Service σ) (extent : Extent) (c : Cache) : Service σ :=
  { s with extent, keepsCheckpoint := true, checkpoint := .image c, cache := none }

/-- The service when it is configured with an extent and has no checkpoint. -/
def rebuilding (s : Service σ) (extent : Extent) : Service σ :=
  { s with extent, keepsCheckpoint := false, checkpoint := .absent, cache := none }

end Service

namespace Cache.Mirrors

variable {c c' : Cache} {extent extent' : Extent} {b : Book}

/-- Caches that are right for one book have the same cells, whatever their extents. -/
theorem cell?_congr (h : c.Mirrors extent b) (h' : c'.Mirrors extent' b) (id : Nat)
    (r : Reference) : c.cell? id r = c'.cell? id r := by
  rw [Cache.cell?, Cache.cell?, h.find?, h'.find?]
  split
  · exact (CachedSheet.find?_ofEntries r).trans (CachedSheet.find?_ofEntries r).symm
  · rfl

/-- A sheet that is made later has the extent of the cache. -/
theorem sheet_register (h : c.Mirrors extent b) {id : Nat} (hid : id ∉ c.sheetIds) :
    (c.register id).sheet id = .ok { extent } := by
  have hunknown : c.sheets.find? id = none := by
    rwa [← Option.not_isSome_iff_eq_none, ← Table.mem_keys_iff]
  simp [Cache.sheet, find?_register, hunknown, h.defaultExtent]

theorem agrees_iff (h : c.Mirrors extent b) (h' : c'.Mirrors extent' b) (hb : b.Sound) :
    c.Agrees c' ↔ extent = extent' := by
  have hids : c.sheetIds = c'.sheetIds := (h.sheetIds hb).trans (h'.sheetIds hb).symm
  constructor
  · intro hagrees
    have hnew : b.registry.lastSheetId + 1 ∉ c.sheetIds := by
      rw [h.sheetIds hb, List.mem_map]
      rintro ⟨s, hs, hid⟩
      have := hb.registry.id_le s hs
      omega
    have hsame := hagrees.created _ hnew
    rw [h.sheet_register hnew, h'.sheet_register (hids ▸ hnew)] at hsame
    exact congrArg CachedSheet.extent (Except.ok.inj hsame)
  · rintro rfl
    have hsheets : c.sheets = c'.sheets := Table.ext fun id => (h.find? id).trans (h'.find? id).symm
    refine ⟨hids, fun id _ => by rw [Cache.sheet, hsheets, Cache.sheet], fun id hid => ?_⟩
    rw [h.sheet_register hid, h'.sheet_register (hids ▸ hid)]

end Cache.Mirrors

namespace Server

variable {σ : Type} [Medium σ] {v : Server σ} {configured : List Extent} {written : List Cache}

/-- **A checkpoint shows in extents and in nothing else.** Whichever of the checkpoints that were
written in the life of a store is put in place, and whatever extent is configured now, the cache has
the sheets and cells that it has without a checkpoint. Its sheets have grown from the extent that
was configured when the checkpoint was begun, and so will those that are made later. So the caches
agree in everything if and only if that is the extent that is configured now. -/
theorem Lives.checkpoint_shows_in_extents (h : v.Lives configured written) {c : Cache}
    (hc : c ∈ written) (extent : Extent) :
    (v.service.restoring extent c).builtCache.sheetIds =
        (v.service.rebuilding extent).builtCache.sheetIds ∧
      (∀ id r, (v.service.restoring extent c).builtCache.cell? id r =
        (v.service.rebuilding extent).builtCache.cell? id r) ∧
      (∀ id s, (v.service.restoring extent c).builtCache.sheet id = .ok s →
        s.extent = c.defaultExtent.growAll s.cells.keys) ∧
      (∀ id s, (v.service.rebuilding extent).builtCache.sheet id = .ok s →
        s.extent = extent.growAll s.cells.keys) ∧
      c.defaultExtent ∈ configured ∧
      ((v.service.restoring extent c).builtCache.Agrees (v.service.rebuilding extent).builtCache ↔
        c.defaultExtent = extent) := by
  obtain ⟨_, -, hservice⟩ := h.keeps.service
  obtain ⟨hrecalls, hmem⟩ := h.keeps.written c hc
  have hsound : v.service.book.Sound := hservice.sound.book
  have hrestored : (v.service.restoring extent c).builtCache.Mirrors c.defaultExtent
      v.service.book := hrecalls.broughtUpTo hsound
  have hrebuilt : (v.service.rebuilding extent).builtCache.Mirrors extent v.service.book :=
    (Cache.recalls_empty hsound).broughtUpTo hsound
  exact ⟨(hrestored.sheetIds hsound).trans (hrebuilt.sheetIds hsound).symm,
    hrestored.cell?_congr hrebuilt, fun _ _ => hrestored.extent_eq, fun _ _ => hrebuilt.extent_eq,
    hmem, hrestored.agrees_iff hrebuilt hsound⟩

/-- A server that was configured for small sheets and saved its cache. -/
def savedSmall : Server FileStore :=
  ((history FileStore ⟨5, 5⟩ true (publishing ["$A1 1"])).1.step .checkpoint).1

/-- The cache that it saved. -/
def smallCache : Cache := savedSmall.service.checkpoint.load?.getD { defaultExtent := ⟨0, 0⟩ }

theorem lives_savedSmall : ∃ written, savedSmall.Lives [⟨5, 5⟩] written ∧ smallCache ∈ written := by
  have hfew : (start ⟨5, 5⟩ true : Server FileStore).lastUpdateId + (issuedIds
      ((start ⟨5, 5⟩ true : Server FileStore).run (publishing ["$A1 1"])).2).length <
        UInt64.size := by decide +kernel
  obtain ⟨written, hlives⟩ := (Lives.start ⟨5, 5⟩ true).run (sound_start ⟨5, 5⟩ true) hfew
  refine ⟨_, hlives.event .checkpoint (by decide +kernel), List.mem_append_left _ ?_⟩
  have hsaved : savedSmall.service.checkpoint.load?.isSome = true := by decide +kernel
  obtain ⟨c, hc⟩ := Option.isSome_iff_exists.1 hsaved
  exact Option.mem_toList.2 (by rw [smallCache, hc]; exact hc)

theorem checkpoint_shows_in_extents_savedSmall : ∃ written,
    savedSmall.Lives [⟨5, 5⟩] written ∧ smallCache ∈ written ∧
      (savedSmall.service.restoring ⟨10, 10⟩ smallCache).builtCache.sheetIds =
        (savedSmall.service.rebuilding ⟨10, 10⟩).builtCache.sheetIds ∧
      ((savedSmall.service.restoring ⟨10, 10⟩ smallCache).builtCache.Agrees
          (savedSmall.service.rebuilding ⟨10, 10⟩).builtCache ↔
        smallCache.defaultExtent = ⟨10, 10⟩) := by
  obtain ⟨written, hlives, hmem⟩ := lives_savedSmall
  obtain ⟨hids, -, -, -, -, hagrees⟩ := hlives.checkpoint_shows_in_extents hmem ⟨10, 10⟩
  exact ⟨written, hlives, hmem, hids, hagrees⟩

/-- A checkpoint does not always leave the cache as it is without one. -/
theorem not_forall_checkpoint_invisible : ¬ ∀ (v : Server FileStore) (configured : List Extent)
    (written : List Cache), v.Lives configured written → ∀ c ∈ written, ∀ extent,
      (v.service.restoring extent c).builtCache.Agrees
        (v.service.rebuilding extent).builtCache := by
  intro hinvisible
  obtain ⟨written, hlives, hmem⟩ := lives_savedSmall
  have hsame := (hinvisible _ _ _ hlives _ hmem ⟨10, 10⟩).sheet 1 (by decide +kernel)
  have hrestored : ((savedSmall.service.restoring ⟨10, 10⟩ smallCache).builtCache.sheet
      1).toOption.map (·.extent) = some ⟨5, 5⟩ := by decide +kernel
  have hrebuilt : ((savedSmall.service.rebuilding ⟨10, 10⟩).builtCache.sheet
      1).toOption.map (·.extent) = some ⟨10, 10⟩ := by decide +kernel
  rw [hsame, hrebuilt] at hrestored
  exact absurd hrestored (by decide)

end Server

end SharedSheet
