import SharedSheet.Json.Lexeme

/-!
# Documents

A document is a value read from a text, as far as the text can be read. Where it stops being JSON
the document has a broken part, and the lists and records around it are not closed. So whoever looks
through a document from left to right meets its parts in the order of the text: a reason to refuse
the value that stands before the broken part is found before it.

The reading goes through the lexemes once. What has been read so far is a stack of open lists and
records, innermost first, and what may come next.

## Main definitions

* `Document`, `Document.isIntact` — a value, and whether all of it could be read
* `Reading.next` — the reading after one more lexeme
* `Document.ofLexemes` — the document at the start of a text, and what follows it
-/

namespace SharedSheet.Json

/-- A value, as far as it could be read. -/
inductive Document where
  | null
  | truth (b : Bool)
  | number (n : Numeral)
  | text (s : Option String)
  | list (items : List Document) (closed : Bool)
  | record (members : List (Option String × Document)) (closed : Bool)
  | broken

namespace Document

mutual

/-- Whether all of a value could be read. -/
def isIntact : Document → Bool
  | null | truth _ | number _ | text _ => true
  | list items closed => areIntact items && closed
  | record members closed => areIntactMembers members && closed
  | broken => false

/-- Whether all items could be read. -/
def areIntact : List Document → Bool
  | [] => true
  | d :: ds => isIntact d && areIntact ds

/-- Whether the values of all members could be read. -/
def areIntactMembers : List (Option String × Document) → Bool
  | [] => true
  | (_, d) :: ds => isIntact d && areIntactMembers ds

end

end Document

/-! ### Readings -/

/-- A list or record that has not been closed. What has been read of it stands last first. -/
inductive Frame where
  | list (items : List Document)
  | record (members : List (Option String × Document))
  /-- A record after the name of a member. -/
  | member (members : List (Option String × Document)) (name : Option String)

/-- What comes next. -/
inductive Place where
  /-- A value. -/
  | value
  /-- The first item of a list, or its end. -/
  | firstItem
  /-- The name of a member. -/
  | name
  /-- The name of the first member of a record, or its end. -/
  | firstName
  /-- A colon. -/
  | colon
  /-- A comma, or the end of a list or record. -/
  | separator

/-- What has been read of a document. -/
structure Reading where
  frames : List Frame
  place : Place

/-- What a lexeme makes of a reading. -/
inductive Progress where
  /-- The document goes on. -/
  | more (r : Reading)
  /-- The document is complete. -/
  | complete (d : Document)
  /-- The document is broken. -/
  | broken (d : Document)

namespace Reading

/-- The reading before the first lexeme. -/
def start : Reading := ⟨[], .value⟩

/-- The document when nothing of what follows a broken part can be read. -/
def abandon (d : Document) : List Frame → Document
  | [] => d
  | .list items :: frames => abandon (.list (d :: items).reverse false) frames
  | .record members :: frames => abandon (.record members.reverse false) frames
  | .member members name :: frames => abandon (.record ((name, d) :: members).reverse false) frames

/-- The document when a value or a name does not come where it has to. -/
def breakOff : List Frame → Document
  | .record members :: frames => abandon (.record members.reverse false) frames
  | frames => abandon .broken frames

/-- The document when a comma or a closing bracket does not come where it has to. -/
def breakUnclosed : List Frame → Document
  | .list items :: frames => abandon (.list items.reverse false) frames
  | frames => breakOff frames

/-- The document when the text ends. -/
def stop (r : Reading) : Document :=
  match r.place with
  | .separator => breakUnclosed r.frames
  | _ => breakOff r.frames

/-- The reading after a complete value. -/
def complete (d : Document) : List Frame → Progress
  | [] => .complete d
  | .list items :: frames => .more ⟨.list (d :: items) :: frames, .separator⟩
  | .member members name :: frames =>
    .more ⟨.record ((name, d) :: members) :: frames, .separator⟩
  | .record members :: frames => .broken (breakOff (.record members :: frames))

/-- Reads a lexeme where a value has to come. -/
def value (frames : List Frame) : Lexeme → Progress
  | .null => complete .null frames
  | .truth b => complete (.truth b) frames
  | .number n => complete (.number n) frames
  | .text s => complete (.text s) frames
  | .openList => .more ⟨.list [] :: frames, .firstItem⟩
  | .openRecord => .more ⟨.record [] :: frames, .firstName⟩
  | _ => .broken (breakOff frames)

/-- Reads a lexeme where the name of a member has to come. -/
def name (frames : List Frame) : Lexeme → Progress
  | .text s =>
    match frames with
    | .record members :: frames => .more ⟨.member members s :: frames, .colon⟩
    | frames => .broken (breakOff frames)
  | _ => .broken (breakOff frames)

/-- Reads a lexeme after an item or a member. -/
def separator (frames : List Frame) (l : Lexeme) : Progress :=
  match frames, l with
  | .list items :: frames, .comma => .more ⟨.list items :: frames, .value⟩
  | .list items :: frames, .closeList => complete (.list items.reverse true) frames
  | .record members :: frames, .comma => .more ⟨.record members :: frames, .name⟩
  | .record members :: frames, .closeRecord => complete (.record members.reverse true) frames
  | frames, _ => .broken (breakUnclosed frames)

/-- The reading after one more lexeme. -/
def next (r : Reading) (l : Lexeme) : Progress :=
  match r.place with
  | .value => value r.frames l
  | .firstItem => if l = .closeList then separator r.frames l else value r.frames l
  | .name => name r.frames l
  | .firstName => if l = .closeRecord then separator r.frames l else name r.frames l
  | .colon => if l = .colon then .more ⟨r.frames, .value⟩ else .broken (breakOff r.frames)
  | .separator => separator r.frames l

/-- The document that lexemes complete, and those that follow it. -/
def run (r : Reading) : List Lexeme → Document × List Lexeme
  | [] => (r.stop, [])
  | l :: ls =>
    match r.next l with
    | .more r => run r ls
    | .complete d => (d, ls)
    | .broken d => (d, [])

end Reading

/-- The document at the start of a text, and the lexemes that follow it. -/
def Document.ofString (s : String) : Document × List Lexeme :=
  Reading.start.run (Lexeme.ofChars s.toList)

end SharedSheet.Json
