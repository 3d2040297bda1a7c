import SharedSheet.Proofs.Store.Book
import SharedSheet.Proofs.Worksheet

/-!
# Payloads one after another

The entries that a caller is told of come as one text, the payloads put behind each other. The log
keeps payloads as they were sent, so the text has blank lines and carriage returns wherever they
were sent, and only a last line without its newline is ended. Whoever makes the changes of that text
at once is to get the worksheet of whoever makes those of each payload in turn.

That is so because the text carries the changes of the payloads, none more and none less, in their
order. A worksheet after changes depends on the last terms alone, so it does no harm if the text is
received twice.

## Main definitions

* `Worksheet.applyPayloads` — a worksheet after payloads, one after another

## Main results

* `Worksheet.applyPayloads_of_parse` — the payloads of entries make the changes that they carry
* `Delta.concatenation_loses_nothing` — and so does the text of all of them
-/

namespace SharedSheet

namespace Worksheet

/-- A worksheet after payloads, one after another. -/
def applyPayloads (w : Worksheet) : List String → Except Payload.Invalid Worksheet
  | [] => .ok w
  | payload :: payloads =>
    match w.applyPayload payload with
    | .ok (w, _) => w.applyPayloads payloads
    | .error e => .error e

variable {w : Worksheet}

theorem applyPayload_of_parse {payload : String} {es : List Edit}
    (h : Payload.parse payload = .ok es) :
    w.applyPayload payload = .ok (w.apply es, es.length) := by
  rw [applyPayload, h]

/-- The payloads of entries make the changes that they carry. -/
theorem applyPayloads_of_parse {es : List LogEntry} {changes : LogEntry → List Edit}
    (h : ∀ e ∈ es, Payload.parse e.payload = .ok (changes e)) :
    w.applyPayloads (es.map (·.payload)) = .ok (w.apply (es.flatMap changes)) := by
  induction es generalizing w with
  | nil => rfl
  | cons e es ih =>
    rw [List.map_cons, applyPayloads, applyPayload_of_parse (h e (by simp)), List.flatMap_cons,
      apply_append]
    exact ih fun e' he' => h e' (List.mem_cons_of_mem _ he')

/-- The payloads of entries make the changes of the entries. -/
theorem applyPayloads_of_isUpdate {es : List LogEntry}
    (h : ∀ e ∈ es, Payload.IsUpdate e.payload) :
    w.applyPayloads (es.map (·.payload)) = .ok (w.apply (es.flatMap LogEntry.edits)) :=
  applyPayloads_of_parse fun e he => (h e he).1

end Worksheet

namespace Delta

/-- **Putting payloads behind each other loses nothing.** If the payload of each entry can be read,
then the text of all of them can, and carries the changes of the payloads in their order. In any
worksheet it makes what the payloads make one after another, and made once more it changes
nothing. -/
theorem concatenation_loses_nothing {es : List LogEntry} {changes : LogEntry → List Edit}
    (h : ∀ e ∈ es, Payload.parse e.payload = .ok (changes e)) :
    Payload.parse (ofEntries es).payload = .ok (es.flatMap changes) ∧
    ∀ w : Worksheet, ∃ made,
      w.applyPayload (ofEntries es).payload = .ok (made, (es.flatMap changes).length) ∧
      w.applyPayloads (es.map (·.payload)) = .ok made ∧
      made.applyPayload (ofEntries es).payload = .ok (made, (es.flatMap changes).length) := by
  have hparse := Payload.parse_ofEntries h
  refine ⟨hparse, fun w => ⟨w.apply (es.flatMap changes), Worksheet.applyPayload_of_parse hparse,
    Worksheet.applyPayloads_of_parse h, ?_⟩⟩
  rw [Worksheet.applyPayload_of_parse hparse, Worksheet.apply_apply]

/-- Entries whose payloads end and separate their lines in different ways, one of them empty. -/
def unevenEntries : List LogEntry :=
  ["$A1 1\r\n\r\n$B2 x", "", "\n \t\n$A1 2\r", "$B2\n"].map fun payload =>
    ⟨⟨1, "ana", payload, true, .epoch⟩, 1⟩

theorem concatenation_loses_nothing_unevenEntries :
    (∀ e ∈ unevenEntries, Payload.parse e.payload = .ok e.edits) ∧
      (ofEntries unevenEntries).payload = "$A1 1\r\n\r\n$B2 x\n\n \t\n$A1 2\r\n$B2\n" ∧
      Payload.parse (ofEntries unevenEntries).payload =
        .ok [⟨⟨1, 1⟩, "1"⟩, ⟨⟨2, 2⟩, "x"⟩, ⟨⟨1, 1⟩, "2"⟩, ⟨⟨2, 2⟩, ""⟩] ∧
      ∃ made, ({ extent := ⟨10, 10⟩ } : Worksheet).applyPayload (ofEntries unevenEntries).payload =
          .ok (made, 4) ∧
        made.applyPayload (ofEntries unevenEntries).payload = .ok (made, 4) := by
  have hread : ∀ e ∈ unevenEntries, Payload.parse e.payload = .ok e.edits := by decide +kernel
  obtain ⟨hparse, happly⟩ := concatenation_loses_nothing hread
  have hedits : unevenEntries.flatMap LogEntry.edits =
      [⟨⟨1, 1⟩, "1"⟩, ⟨⟨2, 2⟩, "x"⟩, ⟨⟨1, 1⟩, "2"⟩, ⟨⟨2, 2⟩, ""⟩] := by decide +kernel
  rw [hedits] at hparse happly
  obtain ⟨made, honce, -, hagain⟩ := happly { extent := ⟨10, 10⟩ }
  exact ⟨hread, by decide +kernel, hparse, made, honce, hagain⟩

end Delta

end SharedSheet
