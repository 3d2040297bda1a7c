import SharedSheet.Cache

/-!
# Checkpoints

A checkpoint is a file that holds a cache, so that a service need not build it from the whole log.
Its content is no text. A file that holds anything else, or a directory in its place, is no
checkpoint: the cache is then built from the log. Whatever is appended to a checkpoint is not looked
at.

## Main definitions

* `Checkpoint` — what is in the place of the file
* `Checkpoint.load?`, `Checkpoint.save?`
-/

namespace SharedSheet

/-- What is in the place of a checkpoint's file. -/
inductive Checkpoint where
  | absent
  | directory
  /-- A file with a text in it. -/
  | foreign (text : String)
  /-- A file with a cache in it. -/
  | image (c : Cache)

namespace Checkpoint

/-- The cache that is there. -/
def load? : Checkpoint → Option Cache
  | image c => some c
  | _ => none

/-- Puts a cache there. -/
def save? (c : Cache) : Checkpoint → Option Checkpoint
  | directory => none
  | _ => some (image c)

/-- Makes a file with a text, in place of one that is there. -/
def write? (text : String) : Checkpoint → Option Checkpoint
  | directory => none
  | _ => some (foreign text)

/-- Appends a text to a file that is there. -/
def extend? (text : String) : Checkpoint → Option Checkpoint
  | foreign old => some (foreign (old ++ text))
  | image c => some (image c)
  | _ => none

/-- Takes a file away. -/
def removeFile? : Checkpoint → Option Checkpoint
  | foreign _ | image _ => some absent
  | _ => none

/-- Makes a directory, unless there is one. -/
def makeDirectory? : Checkpoint → Option Checkpoint
  | foreign _ | image _ => none
  | _ => some directory

/-- Takes a directory away. -/
def removeDirectory? : Checkpoint → Option Checkpoint
  | directory => some absent
  | _ => none

/-- Whether there is anything. -/
def isPresent : Checkpoint → Bool
  | absent => false
  | _ => true

/-- The text of a file. -/
def text? : Checkpoint → Option String
  | foreign text => some text
  | _ => none

end Checkpoint

end SharedSheet
