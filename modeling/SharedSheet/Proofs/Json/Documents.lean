import SharedSheet.Json.Decoder
import SharedSheet.Proofs.Json.Lexemes

/-!
# The document of a written value

A written value is read back as the document with the same shape, and nothing of it is left over.
The reading is a machine with a stack, so the law is stated with whatever is on the stack: the
lexemes of a value take the machine from "a value has to come" to where it is after that value. The
two companions do the same for what follows the first item of a list and the first member of a
record.

## Main definitions

* `Json.document` — the document of a value
* `Progress.goOn` — what the further lexemes make of a progress

## Main results

* `Reading.run_lexemes` — the lexemes of a value are read as its document
* `Decoder.decode_write` — decoding a written value is decoding its document
-/

namespace SharedSheet.Json

/-! ### Documents of values -/

mutual

/-- The document of a value. -/
def document : Json → Document
  | truth b => .truth b
  | natural n => .number (.ofNat n)
  | text s => .text (some s)
  | list items => .list (documents items) true
  | record members => .record (memberDocuments members) true

/-- The documents of items. -/
def documents : List Json → List Document
  | [] => []
  | item :: items => document item :: documents items

/-- The documents of members. -/
def memberDocuments : List (String × Json) → List (Option String × Document)
  | [] => []
  | (name, value) :: members => (some name, document value) :: memberDocuments members

end

theorem documents_map {α : Type} (f : α → Json) (xs : List α) :
    documents (xs.map f) = xs.map fun x => document (f x) := by
  induction xs with
  | nil => rfl
  | cons x xs ih => simp [documents, ih]

/-! ### The machine on written lexemes -/

/-- What the further lexemes make of a progress. -/
def Progress.goOn : Progress → List Lexeme → Document × List Lexeme
  | .more r, ls => r.run ls
  | .complete d, ls => (d, ls)
  | .broken d, _ => (d, [])

namespace Reading

theorem run_cons (r : Reading) (l : Lexeme) (ls : List Lexeme) :
    r.run (l :: ls) = (r.next l).goOn ls := by
  rw [run]
  cases r.next l <;> rfl

/-- Where the first item of a list may come, a value is read as where it has to come. -/
theorem run_firstItem (frames : List Frame) (j : Json) (ls : List Lexeme) :
    run ⟨frames, .firstItem⟩ (lexemes j ++ ls) = run ⟨frames, .value⟩ (lexemes j ++ ls) := by
  have hfirst : ∃ l rest, lexemes j = l :: rest ∧ l ≠ .closeList := by
    unfold lexemes
    split <;> simp
  obtain ⟨l, rest, hl, hne⟩ := hfirst
  rw [hl, List.cons_append, run_cons, run_cons]
  simp [next, hne]

mutual

/-- **The lexemes of a value are read as its document**, whatever lists and records are open. -/
theorem run_lexemes (frames : List Frame) (ls : List Lexeme) : ∀ j : Json,
    run ⟨frames, .value⟩ (lexemes j ++ ls) = (complete (document j) frames).goOn ls
  | .truth b => by
    rw [lexemes, document, List.singleton_append, run_cons]
    rfl
  | .natural n => by
    rw [lexemes, document, List.singleton_append, run_cons]
    rfl
  | .text s => by
    rw [lexemes, document, List.singleton_append, run_cons]
    rfl
  | .list [] => by
    rw [lexemes, document, documents, List.cons_append, run_cons]
    show run ⟨.list [] :: frames, .firstItem⟩ (.closeList :: ls) = _
    rw [run_cons]
    rfl
  | .list (item :: items) => by
    rw [lexemes, document, documents, List.cons_append, run_cons]
    show run ⟨.list [] :: frames, .firstItem⟩ _ = _
    rw [List.append_assoc, run_firstItem, run_lexemes]
    show run ⟨.list [document item] :: frames, .separator⟩ _ = _
    rw [List.append_assoc, List.singleton_append, run_itemLexemes]
    simp
  | .record [] => by
    rw [lexemes, document, memberDocuments, List.cons_append, run_cons]
    show run ⟨.record [] :: frames, .firstName⟩ (.closeRecord :: ls) = _
    rw [run_cons]
    rfl
  | .record ((name, value) :: members) => by
    rw [lexemes, document, memberDocuments, List.cons_append, List.cons_append, List.cons_append,
      run_cons]
    show run ⟨.member [] (some name) :: frames, .value⟩ _ = _
    rw [List.append_assoc, run_lexemes]
    show run ⟨.record [(some name, document value)] :: frames, .separator⟩ _ = _
    rw [List.append_assoc, List.singleton_append, run_memberLexemes]
    simp

theorem run_itemLexemes (frames : List Frame) (ls : List Lexeme) (ds : List Document) :
    ∀ items : List Json,
      run ⟨.list ds :: frames, .separator⟩ (itemLexemes items ++ .closeList :: ls) =
        (complete (.list (ds.reverse ++ documents items) true) frames).goOn ls
  | [] => by
    rw [itemLexemes, documents, List.nil_append, run_cons, List.append_nil]
    rfl
  | item :: items => by
    rw [itemLexemes, documents, List.cons_append, run_cons]
    show run ⟨.list ds :: frames, .value⟩ _ = _
    rw [List.append_assoc, run_lexemes]
    show run ⟨.list (document item :: ds) :: frames, .separator⟩ _ = _
    rw [run_itemLexemes]
    simp

theorem run_memberLexemes (frames : List Frame) (ls : List Lexeme)
    (ds : List (Option String × Document)) : ∀ members : List (String × Json),
      run ⟨.record ds :: frames, .separator⟩ (memberLexemes members ++ .closeRecord :: ls) =
        (complete (.record (ds.reverse ++ memberDocuments members) true) frames).goOn ls
  | [] => by
    rw [memberLexemes, memberDocuments, List.nil_append, run_cons, List.append_nil]
    rfl
  | (name, value) :: members => by
    rw [memberLexemes, memberDocuments, List.cons_append, List.cons_append, List.cons_append,
      run_cons]
    show run ⟨.member ds (some name) :: frames, .value⟩ _ = _
    rw [List.append_assoc, run_lexemes]
    show run ⟨.record ((some name, document value) :: ds) :: frames, .separator⟩ _ = _
    rw [run_memberLexemes]
    simp

end

end Reading

/-! ### Decoding -/

theorem Document.ofString_write (l : Layout) (j : Json) :
    Document.ofString (String.ofList (write l j)) = (document j, []) := by
  have hlexemes := Lexeme.ofChars_write l endsNumeral_nil j
  have hrun := Reading.run_lexemes [] [] j
  rw [List.append_nil] at hlexemes
  rw [Document.ofString, String.toList_ofList, hlexemes, Lexeme.ofChars_nil]
  exact hrun

namespace Decoder

variable {α : Type}

/-- **Decoding a written value is decoding its document.** -/
theorem decode_write (decoder : Decoder α) (l : Layout) (j : Json) :
    decoder.decode (String.ofList (write l j)) = decoder (document j) := by
  simp only [decode, Document.ofString_write]
  cases decoder (document j) <;> rfl

/-- A written number reads back if it fits. -/
theorem word64_of_lt {n : Nat} (h : n < UInt64.size) : word64 (.number (.ofNat n)) = .ok n := by
  simp only [word64, natural, Numeral.natural?_ofNat, if_pos h]

/-- A written number that does not fit is refused. -/
theorem word64_of_not_lt {n : Nat} (h : ¬ n < UInt64.size) :
    word64 (.number (.ofNat n)) = .error (Document.number (.ofNat n)).mismatch := by
  simp only [word64, natural, Numeral.natural?_ofNat, if_neg h]

/-- Written items read back just when each of them does. -/
theorem items_eq_ok_iff {item : Decoder α} {document : α → Document} {Fits : α → Prop}
    (h : ∀ x y, item (document x) = .ok y ↔ Fits x ∧ y = x) {xs ys : List α} :
    items item (xs.map document) = .ok ys ↔ (∀ x ∈ xs, Fits x) ∧ ys = xs := by
  induction xs generalizing ys with
  | nil => simp [items, eq_comm]
  | cons x xs ih =>
    rw [List.map_cons, items]
    cases hx : item (document x) with
    | error e =>
      have : ¬ Fits x := fun hfits => by simp [(h x x).2 ⟨hfits, rfl⟩] at hx
      simp [this]
    | ok y =>
      obtain ⟨hfits, rfl⟩ := (h x y).1 hx
      cases hxs : items item (xs.map document) with
      | error e =>
        have : ¬ ∀ x ∈ xs, Fits x := fun hall => by simp [ih.2 ⟨hall, rfl⟩] at hxs
        simp [this]
      | ok zs =>
        obtain ⟨hall, rfl⟩ := ih.1 hxs
        simp only [List.mem_cons, forall_eq_or_imp, hfits, true_and, Except.ok.injEq]
        exact ⟨fun heq => ⟨hall, heq.symm⟩, fun heq => heq.2.symm⟩

end Decoder

end SharedSheet.Json
