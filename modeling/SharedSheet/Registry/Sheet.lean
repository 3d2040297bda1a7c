/-!
# Sheets and their names

A sheet belongs to the publisher who made it, and callers name it by the publisher and its own name.
Names that end in `-private` make sheets that only their owner sees. When a name is taken the sheet
gets the first free one of `name (1)`, `name (2)`, and so on; who sees it still depends on the name
asked for.

## Main definitions

* `Visibility`, `Visibility.ofName`
* `Sheet`, `Sheet.isOwnedBy`, `Sheet.isVisibleTo`
* `SheetAddress` — what callers name a sheet by
* `firstFree?`, `freeNumber?` — the search for a numbered name, with a counter of 32 bits
* `NumbersRunOut` — the counter overflows before a free name is found
* `uniqueName` — a name that is free
-/

namespace SharedSheet

/-- Who sees a sheet. -/
inductive Visibility where
  /-- Everybody. -/
  | everyone
  /-- Its owner alone. -/
  | ownerOnly
  deriving DecidableEq

/-- The end of the names of sheets that only their owner sees. -/
def privateEnding : String := "-private"

/-- Who sees a sheet that was asked for by a name. -/
def Visibility.ofName (name : String) : Visibility :=
  if privateEnding.toList.isSuffixOf name.toList then .ownerOnly else .everyone

/-- What callers name a sheet by. -/
structure SheetAddress where
  /-- The owner. -/
  publisher : String
  /-- The name among the owner's sheets. -/
  sheet : String
  deriving DecidableEq

/-- A sheet. -/
structure Sheet where
  /-- Its number, which is never given to another sheet. -/
  id : Nat
  /-- Its name. -/
  name : String
  /-- The publisher it belongs to. -/
  owner : String
  /-- Who sees it. -/
  visibility : Visibility
  deriving DecidableEq

namespace Sheet

/-- Whether a caller owns a sheet. -/
def isOwnedBy (s : Sheet) (caller : String) : Bool := s.owner == caller

/-- Whether a caller sees a sheet. -/
def isVisibleTo (s : Sheet) (caller : String) : Bool :=
  s.visibility == .everyone || s.isOwnedBy caller

/-- What callers name the sheet by. -/
def address (s : Sheet) : SheetAddress := ⟨s.owner, s.name⟩

/-- Whether callers name the sheet so. -/
def isAt (s : Sheet) (a : SheetAddress) : Bool := s.owner == a.publisher && s.name == a.sheet

end Sheet

/-! ### Free names -/

/-- A name with a number. -/
def numberedName (name : String) (n : Int) : String := name ++ " (" ++ toString n ++ ")"

theorem toInt_succ {n : Int32} (h : n ≠ Int32.maxValue) : (n + 1).toInt = n.toInt + 1 := by
  have hle := n.le_toInt
  have hlt : n.toInt < 2147483647 :=
    Int.lt_iff_le_and_ne.2 ⟨n.toInt_le, fun heq => h (Int32.toInt_inj.1 heq)⟩
  rw [Int32.toInt_add, Int32.toInt_one, Int.bmod_eq_of_le (by omega) (by omega)]

/-- The first number from `n` on whose numbered name is free. The counter has 32 bits and is moved
on before a number is tried. So its greatest number is not tried: the counter overflows, and there
is no result. -/
def firstFree? (existing : List String) (requested : String) (n : Int32) : Option Int32 :=
  if n = Int32.maxValue then none
  else if numberedName requested n.toInt ∈ existing then firstFree? existing requested (n + 1)
  else some n
termination_by (Int32.maxValue.toInt - n.toInt).toNat
decreasing_by
  rename_i hlast _
  have hsucc := toInt_succ hlast
  have hle := (n + 1).toInt_le
  omega

/-- The number of the first free numbered name, unless the counter overflows. -/
def freeNumber? (existing : List String) (requested : String) : Option Int32 :=
  firstFree? existing requested 1

/-- The name asked for is taken, and so are so many of its numbered names that the counter
overflows. -/
def NumbersRunOut (existing : List String) (requested : String) : Prop :=
  requested ∈ existing ∧ freeNumber? existing requested = none

instance (existing : List String) (requested : String) :
    Decidable (NumbersRunOut existing requested) :=
  inferInstanceAs (Decidable (_ ∧ _))

/-- The name asked for if it is free, and else the first free one of its numbered names. When the
numbers run out none is found, and the name asked for is given back. -/
def uniqueName (existing : List String) (requested : String) : String :=
  if requested ∈ existing then
    ((freeNumber? existing requested).map fun n => numberedName requested n.toInt).getD requested
  else requested

end SharedSheet
