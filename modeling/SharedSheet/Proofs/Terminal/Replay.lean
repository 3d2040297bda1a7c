import SharedSheet.Proofs.Terminal.Session

/-!
# Payloads as input

The text of a payload and the input of a session look alike, a cell, a blank and a term to a line,
but they are read by different rules. A payload keeps the blanks of a term and gives up a carriage
return at its end; a session trims terms, and takes lines with certain words for commands. On the
payload of a session the two readers agree, because of where its terms come from. They were typed
in, so they are trimmed and stand on one line, and each line of the payload starts with the dollar
sign of its cell, as no other command does.

## Main definitions

* `Edit.IsTyped` — a change that a session can be told
* `Worksheet.edits` — the changes of the payload of a worksheet

## Main results

* `Edit.ofLine?_render` — the line of such a change tells it to a session
* `Session.isTyped_of_turn` — sessions store what they were told
* `Session.payload_replays` — the payload of a session as input, and as a payload
-/

namespace SharedSheet

open Terminal

/-! ### Changes that can be typed in -/

namespace Edit

/-- A change that a line of a session makes, and that leaves the cell a term. -/
structure IsTyped (e : Edit) : Prop extends e.IsSound where
  ne_empty : e.term ≠ ""
  trimmed : Text.trim e.term.toList = e.term.toList

variable {e : Edit}

/-- No term that was typed in ends in a carriage return. -/
theorem IsTyped.received_eq_self (h : e.IsTyped) : e.received = e :=
  received_eq_self_iff.2 fun hlast =>
    absurd ((Text.trim_eq_self_iff.1 h.trimmed).2 '\r' hlast) (by decide)

/-- Neither end of the line is blank. -/
theorem IsTyped.trim_render (h : e.IsTyped) : Text.trim e.render.toList = e.line := by
  have hne : e.term.toList ≠ [] := mt String.toList_eq_nil_iff.1 h.ne_empty
  rw [toList_render, Text.trim_append_blanks e.line (List.forall_mem_singleton.2 rfl),
    Text.trim_eq_self_iff, line]
  refine ⟨fun c hc => ?_, fun c hc => (Text.trim_eq_self_iff.1 h.trimmed).2 c ?_⟩
  · obtain rfl := Option.some.inj hc
    decide
  · obtain ⟨first, rest, hterm⟩ := List.exists_cons_of_ne_nil hne
    rw [hterm] at hc ⊢
    simpa [List.getLast?_append] using hc

/-- The first word of the line is the cell, and the term is what stands behind it. -/
theorem IsTyped.word_argument_render (h : e.IsTyped) :
    Command.word e.render = e.reference.toChars ∧ Command.argument e.render = e.term.toList := by
  have hcell : ∀ c ∈ e.reference.toChars, decide (c ≠ ' ') = true := fun c hc =>
    decide_eq_true fun hblank => absurd (isNameChar_of_mem_toChars hc) (hblank ▸ by decide)
  have hword : Command.word e.render = e.reference.toChars := by
    rw [Command.word, h.trim_render, line, List.takeWhile_append_of_pos hcell]
    simp
  have hblank : ∀ c ∈ [' '], Text.isBlank c = true := List.forall_mem_singleton.2 rfl
  refine ⟨hword, ?_⟩
  rw [Command.argument, hword, h.trim_render, line, List.drop_left]
  exact (Text.trim_blanks_append hblank _).trans h.trimmed

/-- **The line of a change tells it to a session.** -/
theorem IsTyped.ofLine?_render (h : e.IsTyped) :
    Command.ofLine? e.render = some (.set e.reference e.term) := by
  obtain ⟨hword, hargument⟩ := h.word_argument_render
  rw [Command.ofLine?_of_dollar (hword ▸ rfl), hword, hargument,
    Reference.ofChars?_toChars h.isCell, String.ofList_toList]
  rfl

end Edit

/-! ### The payload of a worksheet -/

namespace Worksheet

variable {w : Worksheet}

/-- The changes that build the terms up from nothing. -/
def edits (w : Worksheet) : List Edit := Edit.ofTable id w.terms

theorem mem_edits_iff {e : Edit} : e ∈ w.edits ↔ w.get? e.reference = some e.term := by
  rw [edits, Edit.mem_ofTable_iff, get?]
  constructor
  · rintro ⟨_, hfind, rfl⟩
    exact hfind
  · exact fun h => ⟨_, h, rfl⟩

theorem payload_eq_render (w : Worksheet) : w.payload = Payload.render w.edits := by
  rw [payload, payloadOf, Payload.ofTerms, edits, Edit.ofTable, Table.keys, List.map_map]
  refine congrArg _ (List.map_congr_left fun row hrow => ?_)
  simp [Table.mem_rows_iff.1 hrow]

/-- They do so on a worksheet without cells, whatever its extent. -/
theorem terms_apply_edits (h : ∀ e ∈ w.edits, e.term ≠ "") {v : Worksheet} (hv : v.terms = ∅) :
    (v.apply w.edits).terms = w.terms := by
  have hget : ∀ r, v.get? r = none := fun r => by rw [get?, hv]; rfl
  refine Table.ext fun r => ?_
  show (v.apply w.edits).get? r = w.get? r
  rw [get?_apply, edits, Edit.lastTerm?_ofTable, hget, Option.map_id]
  cases hterm : w.terms.find? r with
  | none => exact hterm.symm
  | some term =>
    have hne : term ≠ "" := h ⟨r, term⟩ (mem_edits_iff.2 hterm)
    rw [show w.get? r = some term from hterm]
    exact kept_eq_some_iff.2 ⟨rfl, hne⟩

end Worksheet

namespace Terminal

/-- The lines of the payload of changes are the lines of the changes. -/
theorem inputLines_render {es : List Edit} (h : ∀ e ∈ es, e.IsTyped) :
    inputLines (Payload.render es) = es.map Edit.render := by
  have hline : ∀ l ∈ es.map Edit.line, '\n' ∉ l := by
    rintro _ hl
    obtain ⟨e, he, rfl⟩ := List.mem_map.1 hl
    exact Edit.newline_not_mem_line (h e he).toIsSound
  rw [inputLines_eq_of_ended hline, List.map_map]
  · refine List.map_congr_left fun e _ => ?_
    rw [Function.comp_apply, ← Edit.toList_render, String.ofList_toList]
  · rw [Payload.render, String.toList_join, List.flatMap_map, List.flatMap_map]
    exact congrArg (es.flatMap ·) (funext Edit.toList_render)

namespace Session

variable {s : Session} {line : String}

/-- **Sessions store what they were told.** -/
theorem isTyped_of_turn {w : Worksheet} {r : Reference} (h : s.Turn line w r)
    (hline : '\n' ∉ Text.trim line.toList) (hs : ∀ e ∈ s.sheet.edits, e.IsTyped) :
    ∀ e ∈ w.edits, e.IsTyped := by
  cases h with
  | stay | scroll | jump => exact hs
  | clear chosen =>
    exact fun e he => hs e (Worksheet.mem_edits_iff.2
      (Worksheet.get?_clear_eq_some (Worksheet.mem_edits_iff.1 he)))
  | @set r term isCell trimmed onLine =>
    intro e he
    rcases Worksheet.get?_set_eq_some (Worksheet.mem_edits_iff.1 he) with ⟨hr, hterm, hne⟩ | hget
    · exact ⟨⟨hr ▸ isCell, fun hn => hline (onLine _ (hterm ▸ hn))⟩, hne, hterm ▸ trimmed⟩
    · exact hs e (Worksheet.mem_edits_iff.2 hget)

/-- The lines of changes make the changes. -/
theorem exists_after?_render {es : List Edit} (h : ∀ e ∈ es, e.IsTyped) (s : Session) :
    ∃ t, s.after? (es.map Edit.render) = some t ∧ t.sheet = s.sheet.apply es := by
  induction es generalizing s with
  | nil => exact ⟨s, rfl, rfl⟩
  | cons e es ih =>
    obtain ⟨he, hes⟩ := List.forall_mem_cons.1 h
    obtain ⟨s', hs', hsheet, -⟩ := s.run_set e.reference e.term
    obtain ⟨t, ht, hmade⟩ := ih hes s'
    have hstep : (s.step e.render).1 = some s' := by
      rw [step, he.ofLine?_render]
      exact hs'
    refine ⟨t, ?_, ?_⟩
    · rw [List.map_cons, after?, hstep]
      exact ht
    · rw [hmade, hsheet]
      rfl

/-- The command prints the payload of the worksheet. -/
theorem step_payload (s : Session) : (s.step "payload\n").2 = s.sheet.payload := by
  have hcommand : Command.ofLine? "payload\n" = some .payload := by decide +kernel
  rw [step, hcommand]
  rfl

/-- **The payload of a session replays.** Its lines, put into a new session of any size, leave that
session with the same terms, so that the same payload is printed again. As a payload it is accepted
by an empty worksheet of any extent, and gives it the same terms. -/
theorem payload_replays (args : List String) (input : String) {s : Session}
    (h : (ofArguments args).after? (inputLines input) = some s) :
    (∀ args' : List String, ∃ t,
      (ofArguments args').after? (inputLines (s.step "payload\n").2) = some t ∧
        t.sheet.terms = s.sheet.terms ∧ (t.step "payload\n").2 = (s.step "payload\n").2) ∧
    ∀ e : Extent, ∃ made count,
      ({ extent := e } : Worksheet).applyPayload (s.step "payload\n").2 = .ok (made, count) ∧
        made.terms = s.sheet.terms := by
  have htyped : ∀ e ∈ s.sheet.edits, e.IsTyped :=
    after?_induction (motive := fun s => ∀ e ∈ s.sheet.edits, e.IsTyped) h (fun _ h => nomatch h)
      fun _ hline _ _ hs hstep => isTyped_of_turn (turn_of_step hstep)
        (newline_not_mem_trim_of_mem_inputLines hline) hs
  have hne : ∀ e ∈ s.sheet.edits, e.term ≠ "" := fun e he => (htyped e he).ne_empty
  rw [step_payload, Worksheet.payload_eq_render]
  refine ⟨fun args' => ?_, fun e => ?_⟩
  · obtain ⟨t, ht, hmade⟩ := exists_after?_render htyped (ofArguments args')
    have hterms : t.sheet.terms = s.sheet.terms := by
      rw [hmade]
      exact Worksheet.terms_apply_edits hne rfl
    refine ⟨t, inputLines_render htyped ▸ ht, hterms, ?_⟩
    rw [step_payload, Worksheet.payload_eq_render, Worksheet.edits, hterms]
    rfl
  · have hparse : Payload.parse (Payload.render s.sheet.edits) = .ok s.sheet.edits :=
      Payload.parse_render_eq_self_iff.2 fun e he =>
        ⟨(htyped e he).toIsSound, (htyped e he).received_eq_self⟩
    have hterms := Worksheet.terms_apply_edits (v := { extent := e }) hne rfl
    refine ⟨_, s.sheet.edits.length, ?_, hterms⟩
    rw [Worksheet.applyPayload, hparse]

/-- Lines of a session with blanks of several kinds, a term with a carriage return in it, terms that
look like commands, a cell that is set twice and one that is cleared. -/
def typing : String :=
  "\u3000$B2 \t one\rtwo \r\n$A010 q\n\n$C1 payload\nshow\n" ++
    "$A10 $A1 =SUM(\n$C1\u2003x\n$C1  \n$D4  d"

theorem payload_replays_typing : ∃ s,
    (ofArguments ["3", "3"]).after? (inputLines typing) = some s ∧
      s.sheet.terms.rows = [(⟨1, 10⟩, "$A1 =SUM("), (⟨2, 2⟩, "one\rtwo"), (⟨4, 4⟩, "d")] ∧
      (∃ t, (ofArguments []).after? (inputLines (s.step "payload\n").2) = some t ∧
        t.sheet.terms = s.sheet.terms ∧ (t.step "payload\n").2 = (s.step "payload\n").2) ∧
      ∃ made count, ({ extent := ⟨1, 1⟩ } : Worksheet).applyPayload (s.step "payload\n").2 =
          .ok (made, count) ∧ made.terms = s.sheet.terms := by
  have hrows : ((ofArguments ["3", "3"]).after? (inputLines typing)).map (·.sheet.terms.rows) =
      some [(⟨1, 10⟩, "$A1 =SUM("), (⟨2, 2⟩, "one\rtwo"), (⟨4, 4⟩, "d")] := by
    decide +kernel
  obtain ⟨s, hs, hrows⟩ := Option.map_eq_some_iff.1 hrows
  obtain ⟨hinput, hpayload⟩ := payload_replays ["3", "3"] typing hs
  exact ⟨s, hs, hrows, hinput [], hpayload ⟨1, 1⟩⟩

end Session

end Terminal

end SharedSheet
