import SharedSheet.Decimal.Digits
import SharedSheet.Extent
import SharedSheet.Text.Blank

/-!
# Settings

Settings come from the environment, and the size of new sheets also from the command line. A number
that cannot be read leaves the setting as it was. On the command line zero counts as unreadable; in
the environment it does not.

## Main definitions

* `Settings` — the settings and their defaults
* `Settings.ofEnvironment`, `Settings.withArguments`
-/

namespace SharedSheet

/-- What can be set. -/
structure Settings where
  /-- Where the store keeps its files. -/
  databaseDir : String := "database"
  /-- The address on which requests are taken. -/
  bindAddress : String := "127.0.0.1:3000"
  /-- The rows and columns of a new sheet. -/
  extent : Extent := ⟨100, 26⟩
  /-- Where the cache is kept, if anywhere. -/
  checkpoint : Option String := none
  deriving DecidableEq

namespace Settings

/-- The variables of the environment. -/
inductive Variable where
  | databaseDir
  | bindAddress
  | rows
  | cols
  | checkpoint
  deriving DecidableEq

/-- A number of rows or columns with white space around it. -/
def dimension? (s : String) : Option UInt32 := Decimal.signedWord? (Text.trim s.toList)

/-- The settings of an environment. The empty checkpoint is none. -/
def ofEnvironment (lookup? : Variable → Option String) : Settings :=
  let base : Settings := {}
  { databaseDir := (lookup? .databaseDir).getD base.databaseDir
    bindAddress := (lookup? .bindAddress).getD base.bindAddress
    extent :=
      { rows := ((lookup? .rows).bind dimension?).getD base.extent.rows
        cols := ((lookup? .cols).bind dimension?).getD base.extent.cols }
    checkpoint := (lookup? .checkpoint).filter (· ≠ "") }

/-- The settings with the size given by the first two arguments of a command. -/
def withArguments (s : Settings) (args : List String) : Settings :=
  let dimension (i : Nat) (default : UInt32) : UInt32 :=
    ((args[i]?.bind dimension?).filter (0 < ·)).getD default
  { s with extent := { rows := dimension 0 s.extent.rows, cols := dimension 1 s.extent.cols } }

end Settings

end SharedSheet
