import SharedSheet.Json.Document

/-!
# Decoding documents

A decoder turns a document into a value of some type, or says which of two faults it met first: the
text is no JSON, or it is JSON of the wrong shape.

A record has fields in a fixed order. It may be written as a list of their values in that order, or
with names in any order. Names that are no fields are skipped as long as their values are JSON; no
field may come twice. Either all fields have to be there, or all may be left out.

## Main definitions

* `Fault` — the two faults
* `Decoder`, `Decoder.text`, `Decoder.natural`, `Decoder.truth`, `Decoder.list` — plain values
* `RecordForm`, `Decoder.record` — records
* `Decoder.decode`, `Decoder.decodeStart` — from a text: all of it, or its start
-/

namespace SharedSheet.Json

/-- Why a text is refused. -/
inductive Fault where
  /-- It is no JSON. -/
  | syntaxError
  /-- It is JSON of the wrong shape. -/
  | wrongShape
  deriving DecidableEq

/-- A way to read values of a type from documents. -/
abbrev Decoder (α : Type) := Document → Except Fault α

/-- The fault of a document that has a value of another kind. Lists and records are refused without
a look at what is in them. -/
def Document.mismatch : Document → Fault
  | .number n => if n.toFloat?.isSome then .wrongShape else .syntaxError
  | .text none | .broken => .syntaxError
  | _ => .wrongShape

namespace Decoder

variable {α β : Type}

/-! ### Plain values -/

/-- A string. -/
def text : Decoder String
  | .text (some s) => .ok s
  | d => .error d.mismatch

/-- A truth value. -/
def truth : Decoder Bool
  | .truth b => .ok b
  | d => .error d.mismatch

/-- A natural number below a bound, written without fraction and exponent. -/
def natural (bound : Nat) : Decoder Nat
  | .number n =>
    match n.natural? with
    | some value => if value < bound then .ok value else .error .wrongShape
    | none => .error (Document.number n).mismatch
  | d => .error d.mismatch

/-- A number of 64 bits. -/
def word64 : Decoder Nat := natural UInt64.size

/-- A number of 32 bits. -/
def word32 : Decoder UInt32 := fun d =>
  match natural UInt32.size d with
  | .ok n => .ok (UInt32.ofNat n)
  | .error e => .error e

/-- Values that a text may write in a form of its own. -/
def textual (ofText? : String → Option α) : Decoder α := fun d =>
  match text d with
  | .ok s =>
    match ofText? s with
    | some value => .ok value
    | none => .error .wrongShape
  | .error e => .error e

/-- The values of items. -/
def items (item : Decoder α) : List Document → Except Fault (List α)
  | [] => .ok []
  | d :: ds =>
    match item d with
    | .error e => .error e
    | .ok value =>
      match items item ds with
      | .error e => .error e
      | .ok values => .ok (value :: values)

/-- A list. -/
def list (item : Decoder α) : Decoder (List α)
  | .list ds closed =>
    match items item ds with
    | .error e => .error e
    | .ok values => if closed then .ok values else .error .syntaxError
  | d => .error d.mismatch

end Decoder

/-! ### Records -/

/-- A field of a record: what its value changes in the record. -/
structure RecordField (ρ : Type) where
  name : String
  read : Decoder (ρ → ρ)

/-- A field whose value a decoder reads. -/
def RecordField.of {ρ α : Type} (name : String) (value : Decoder α) (set : ρ → α → ρ) :
    RecordField ρ where
  name := name
  read d :=
    match value d with
    | .ok value => .ok fun r => set r value
    | .error e => .error e

/-- How records of a type are written. -/
structure RecordForm (ρ : Type) where
  /-- The record before any field is read. -/
  blank : ρ
  /-- The fields. -/
  fields : List (RecordField ρ)
  /-- Whether fields may be left out. -/
  optional : Bool := false

namespace RecordForm

variable {ρ : Type}

/-- Reads fields from values in their order. -/
def positional (f : RecordForm ρ) (closed : Bool) (r : ρ) :
    List (RecordField ρ) → List Document → Except Fault ρ
  | field :: fields, d :: ds =>
    match field.read d with
    | .ok change => positional f closed (change r) fields ds
    | .error e => .error e
  | _ :: _, [] =>
    if !closed then .error .syntaxError else if f.optional then .ok r else .error .wrongShape
  | [], [] => if closed then .ok r else .error .syntaxError
  | [], _ :: _ => .error .syntaxError

/-- Reads fields from members. `seen` are the names of the fields that came before. -/
def named (f : RecordForm ρ) (closed : Bool) (r : ρ) (seen : List String) :
    List (Option String × Document) → Except Fault ρ
  | [] =>
    if !closed then .error .syntaxError
    else if f.optional || f.fields.all fun field => seen.contains field.name then .ok r
    else .error .wrongShape
  | (none, _) :: _ => .error .syntaxError
  | (some name, d) :: members =>
    match f.fields.find? (·.name == name) with
    | none => if d.isIntact then named f closed r seen members else .error .syntaxError
    | some field =>
      if seen.contains name then .error .wrongShape
      else
        match field.read d with
        | .ok change => named f closed (change r) (name :: seen) members
        | .error e => .error e

end RecordForm

/-- A record. -/
def Decoder.record {ρ : Type} (f : RecordForm ρ) : Decoder ρ
  | .list ds closed => f.positional closed f.blank f.fields ds
  | .record members closed => f.named closed f.blank [] members
  | d => .error d.mismatch

/-! ### From texts -/

namespace Decoder

variable {α : Type}

/-- The value at the start of a text, whatever follows it. -/
def decodeStart (decoder : Decoder α) (s : String) : Except Fault α :=
  decoder (Document.ofString s).1

/-- The value of a text. -/
def decode (decoder : Decoder α) (s : String) : Except Fault α :=
  let (d, rest) := Document.ofString s
  match decoder d with
  | .ok value => if rest.isEmpty then .ok value else .error .syntaxError
  | .error e => .error e

end Decoder

end SharedSheet.Json
