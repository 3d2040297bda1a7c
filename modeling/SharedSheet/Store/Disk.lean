/-!
# The disk of a store

A store that outlives the program keeps four files: the log, the registry, and for each of them a
temporary file in which a new version is made before it takes the old one's place. In the place of a
file there may also be a directory, which is then in the way.

An operation on files is a list of effects that are made in order. The first one that fails ends the
operation; those before it stay made.

## Main definitions

* `Slot` — what is in the place of a file
* `Disk` — the four places, and the accesses that are refused
* `Disk.perform`, `Disk.performAll` — making effects
* `Disk.readText?` — the text of a file
-/

namespace SharedSheet

/-! ### Places -/

/-- What is in the place of a file. -/
inductive Slot where
  | absent
  | directory
  | file (content : ByteArray)

namespace Slot

/-- Makes a file with a content, in place of one that is there. -/
def write? (content : ByteArray) : Slot → Option Slot
  | directory => none
  | _ => some (file content)

/-- Appends to a file, which is made if there is none. -/
def append? (content : ByteArray) : Slot → Option Slot
  | directory => none
  | absent => some (file content)
  | file old => some (file (old ++ content))

/-- Appends to a file that is there. -/
def extend? (content : ByteArray) : Slot → Option Slot
  | file old => some (file (old ++ content))
  | _ => none

/-- Takes a file away. -/
def removeFile? : Slot → Option Slot
  | file _ => some absent
  | _ => none

/-- Makes a directory, unless there is one. -/
def makeDirectory? : Slot → Option Slot
  | file _ => none
  | _ => some directory

/-- Takes a directory away. -/
def removeDirectory? : Slot → Option Slot
  | directory => some absent
  | _ => none

/-- Whether there is anything. -/
def isPresent : Slot → Bool
  | absent => false
  | _ => true

/-- The text of a file. -/
def text? : Slot → Option String
  | file content => String.fromUTF8? content
  | _ => none

end Slot

/-! ### Disks -/

/-- The files of a store. -/
inductive FileName where
  | log
  | logTemp
  | registry
  | registryTemp
  deriving DecidableEq

/-- What can be refused. -/
inductive Access where
  | read (f : FileName)
  | write (f : FileName)
  | append (f : FileName)
  | rename (source target : FileName)
  deriving DecidableEq

/-- The files of a store, and the accesses to them that are refused whatever is there. -/
structure Disk where
  log : Slot := .absent
  logTemp : Slot := .absent
  registry : Slot := .absent
  registryTemp : Slot := .absent
  refuses : Access → Bool := fun _ => false

/-- A change of the files. -/
inductive Effect where
  /-- Makes a file with a content. -/
  | write (f : FileName) (content : ByteArray)
  /-- Appends to a file. -/
  | append (f : FileName) (content : ByteArray)
  /-- Puts a file in the place of another. -/
  | rename (source target : FileName)

/-- The access that an effect needs. -/
def Effect.access : Effect → Access
  | .write f _ => .write f
  | .append f _ => .append f
  | .rename source target => .rename source target

namespace Disk

/-- What is in the place of a file. -/
def slot (d : Disk) : FileName → Slot
  | .log => d.log
  | .logTemp => d.logTemp
  | .registry => d.registry
  | .registryTemp => d.registryTemp

/-- The disk with something else in the place of a file. -/
def setSlot (d : Disk) (f : FileName) (s : Slot) : Disk :=
  match f with
  | .log => { d with log := s }
  | .logTemp => { d with logTemp := s }
  | .registry => { d with registry := s }
  | .registryTemp => { d with registryTemp := s }

theorem slot_setSlot (d : Disk) (f f' : FileName) (s : Slot) :
    (d.setSlot f s).slot f' = if f' = f then s else d.slot f' := by
  cases f <;> cases f' <;> rfl

theorem refuses_setSlot (d : Disk) (f : FileName) (s : Slot) :
    (d.setSlot f s).refuses = d.refuses := by
  cases f <;> rfl

/-- The disk after an effect, unless it fails. -/
def perform? (d : Disk) (e : Effect) : Option Disk :=
  if d.refuses e.access then none
  else
    match e with
    | .write f content => ((d.slot f).write? content).map (d.setSlot f)
    | .append f content => ((d.slot f).append? content).map (d.setSlot f)
    | .rename source target =>
      match d.slot source, d.slot target with
      | .file _, .directory => none
      | .file content, _ => some ((d.setSlot source .absent).setSlot target (.file content))
      | _, _ => none

/-- The disk after effects up to the first one that fails, and whether none did. -/
def performAll (d : Disk) : List Effect → Bool × Disk
  | [] => (true, d)
  | e :: es =>
    match d.perform? e with
    | some d => performAll d es
    | none => (false, d)

/-- The text of a file; no text if there is no file. Fails if the file cannot be read or is not
encoded as UTF-8. -/
def readText? (d : Disk) (f : FileName) : Option (Option String) :=
  if d.refuses (.read f) then none
  else
    match d.slot f with
    | .absent => some none
    | slot => slot.text?.map some

end Disk

/-- The effects that give a file a new content by way of its temporary file. -/
def Effect.replace (temp target : FileName) (content : String) : List Effect :=
  [.write temp content.toUTF8, .rename temp target]

end SharedSheet
