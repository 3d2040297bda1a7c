import SharedSheet.Proofs.Text.Blank
import SharedSheet.Proofs.Text.Pieces
import SharedSheet.Proofs.Worksheet.Clearing
import SharedSheet.Terminal.Session

/-!
# What a line does to a session

A line is turned into a command and the command into a session. Most of what comes of it does not
matter to the worksheet: a help text, a status, a window that is printed. `Session.Turn` says all
that a line can do to the worksheet and to the window, together with what is known of the parts of
the line that got into them. Whatever all lines preserve is read off from it, and holds of every
session by induction over the lines.

A session is followed by the lines alone. What is printed meanwhile comes out of the same steps
(`transcript_append`): the session after some lines is the one that prompts for the next line.

## Main definitions

* `Session.after?` — the session after lines
* `Session.Turn` — what a line can do to the worksheet and the window
* `inputLines` — the lines of an input

## Main results

* `Command.isSound_of_ofLine?` — what is known of the command of a line
* `Session.turn_of_step`, `Session.after?_induction` — what a line and what lines do
* `Session.transcript_append` — who prompts next
* `newline_not_mem_trim_of_mem_inputLines` — newlines stand at the ends of lines only
-/

namespace SharedSheet.Terminal

/-! ### Commands -/

namespace Command

/-- The first word of a line. -/
def word (line : String) : List Char := (Text.trim line.toList).takeWhile (· ≠ ' ')

/-- What a line has behind its first word. -/
def argument (line : String) : List Char :=
  Text.trim ((Text.trim line.toList).drop (word line).length)

theorem mem_of_mem_argument {line : String} {c : Char} (h : c ∈ argument line) :
    c ∈ Text.trim line.toList :=
  List.mem_of_mem_drop (Text.mem_of_mem_trim h)

/-- What is known of the command of a line: the cells that it names, and the term that it sets. -/
def IsSound (line : String) : Command → Prop
  | .scrollTo r => r.IsCell
  | .set r term =>
    r.IsCell ∧ Text.trim term.toList = term.toList ∧ ∀ c ∈ term.toList, c ∈ Text.trim line.toList
  | _ => True

theorem isSound_of_ofLine? {line : String} {c : Command} (h : ofLine? line = some c) :
    c.IsSound line := by
  unfold ofLine? at h
  dsimp only at h
  generalize String.ofList (List.takeWhile _ _) = w at h
  generalize hterm : String.ofList (Text.trim (List.drop _ _)) = term at h
  split at h
  -- Ten words stand by themselves and name nothing.
  iterate 10
    next =>
      obtain rfl := Option.some.inj h
      trivial
  next =>
    obtain ⟨r, hr, rfl⟩ := Option.map_eq_some_iff.1 h
    exact Reference.isCell_of_ofChars? hr
  next =>
    obtain ⟨row, -, rfl⟩ := Option.map_eq_some_iff.1 h
    trivial
  next =>
    obtain ⟨column, -, rfl⟩ := Option.map_eq_some_iff.1 h
    trivial
  next =>
    obtain ⟨r, hr, rfl⟩ := Option.map_eq_some_iff.1 (Option.ite_none_right_eq_some.1 h).2
    have hchars : term.toList = argument line := by rw [← hterm, String.toList_ofList]; rfl
    refine ⟨Reference.isCell_of_ofChars? hr, ?_, fun c hc => mem_of_mem_argument (hchars ▸ hc)⟩
    rw [hchars, argument, Text.trim_trim]

/-- A line that starts with a dollar sign sets a cell, or is no command. -/
theorem ofLine?_of_dollar {line : String} (h : (word line).head? = some '$') :
    ofLine? line =
      (Reference.ofChars? (word line)).map (.set · (String.ofList (argument line))) := by
  have hne : ∀ s : String, s.toList.head? ≠ some '$' → String.ofList (word line) ≠ s := by
    rintro _ hs rfl
    exact hs (by rwa [String.toList_ofList])
  unfold ofLine? argument word
  dsimp only
  generalize hw : String.ofList (List.takeWhile _ _) = w
  generalize String.ofList (Text.trim (List.drop _ _)) = term
  split
  iterate 13
    next => exact absurd hw (hne _ (by decide +kernel))
  next => exact if_pos h

end Command

/-! ### Steps -/

namespace Session

variable {s t : Session} {line : String} {lines : List String}

/-- What a line can do to the worksheet of a session and to the first cell of its window. -/
inductive Turn (s : Session) (line : String) : Worksheet → Reference → Prop
  | stay : Turn s line s.sheet s.origin
  | scroll (d : Direction) : Turn s line s.sheet (scrolled s.origin d s.sheet.extent)
  | jump {r : Reference} (isCell : r.IsCell) (inside : s.sheet.extent.contains r = true) :
    Turn s line s.sheet r
  | clear (chosen : Reference → Bool) : Turn s line (s.sheet.clear chosen).1 s.origin
  | set {r : Reference} {term : String} (isCell : r.IsCell)
    (trimmed : Text.trim term.toList = term.toList)
    (onLine : ∀ c ∈ term.toList, c ∈ Text.trim line.toList) :
    Turn s line (s.sheet.set r term) s.origin

/-- A command to set a cell sets it, whether the cell gets a value or not. -/
theorem run_set (s : Session) (r : Reference) (term : String) :
    ∃ t, (s.run (.set r term)).1 = some t ∧ t.sheet = s.sheet.set r term ∧ t.origin = s.origin := by
  rw [run]
  dsimp only
  split <;> exact ⟨_, rfl, rfl, rfl⟩

/-- **What a line does.** -/
theorem turn_of_step (h : (s.step line).1 = some t) : s.Turn line t.sheet t.origin := by
  rw [step] at h
  cases hc : Command.ofLine? line with
  | none =>
    rw [hc] at h
    obtain rfl := Option.some.inj h
    exact .stay
  | some c =>
    rw [hc] at h
    dsimp only at h
    have hsound := Command.isSound_of_ofLine? hc
    cases c with
    | quit => simp [run] at h
    | help | view | payload | printing =>
      obtain rfl := Option.some.inj h
      exact .stay
    | scroll d =>
      obtain rfl := Option.some.inj h
      exact .scroll d
    | scrollTo r =>
      simp only [run] at h
      split at h
      next hinside =>
        obtain rfl := Option.some.inj h
        exact .jump hsound hinside
      next =>
        obtain rfl := Option.some.inj h
        exact .stay
    | clearRow row =>
      obtain rfl := Option.some.inj h
      exact .clear _
    | clearColumn column =>
      obtain rfl := Option.some.inj h
      exact .clear _
    | set r term =>
      obtain ⟨t', ht', hsheet, horigin⟩ := s.run_set r term
      obtain rfl := Option.some.inj (ht'.symm.trans h)
      rw [hsheet, horigin]
      exact .set hsound.1 hsound.2.1 hsound.2.2

/-! ### Lines -/

/-- The session after lines, if it was not told to quit. -/
def after? (s : Session) : List String → Option Session
  | [] => some s
  | line :: lines => (s.step line).1.bind (after? · lines)

/-- **What holds of a session and is kept by each line holds after the lines.** -/
theorem after?_induction {motive : Session → Prop} (h : s.after? lines = some t) (hs : motive s)
    (hstep : ∀ line ∈ lines, ∀ s t : Session, motive s → (s.step line).1 = some t → motive t) :
    motive t := by
  induction lines generalizing s with
  | nil => exact Option.some.inj h ▸ hs
  | cons line lines ih =>
    obtain ⟨s', hs', h⟩ := Option.bind_eq_some_iff.1 h
    obtain ⟨hline, hlines⟩ := List.forall_mem_cons.1 hstep
    exact ih h (hline s s' hs hs') hlines

/-- A session prompts first of all. -/
theorem exists_transcript_eq (s : Session) (tenths : Nat) (lines : List (String × Nat)) :
    ∃ rest, s.transcript tenths lines = s.prompt tenths ++ rest := by
  cases lines with
  | nil => exact ⟨"", by simp [transcript]⟩
  | cons first lines =>
    obtain ⟨line, next⟩ := first
    rw [transcript]
    split
    · exact ⟨_, String.append_assoc ..⟩
    · exact ⟨_, rfl⟩

/-- **The session after lines prompts next**, whatever lines may follow. -/
theorem transcript_append {lines : List (String × Nat)} (h : s.after? (lines.map (·.1)) = some t)
    (tenths : Nat) : ∃ printed tenths', ∀ more, ∃ rest,
      s.transcript tenths (lines ++ more) = printed ++ (t.prompt tenths' ++ rest) := by
  induction lines generalizing s tenths with
  | nil =>
    obtain rfl := Option.some.inj h
    refine ⟨"", tenths, fun more => ?_⟩
    obtain ⟨rest, hrest⟩ := s.exists_transcript_eq tenths more
    exact ⟨rest, by simp [hrest]⟩
  | cons first lines ih =>
    obtain ⟨line, next⟩ := first
    obtain ⟨s', hs', h⟩ := Option.bind_eq_some_iff.1 h
    obtain ⟨printed, tenths', hlines⟩ := ih h next
    refine ⟨s.prompt tenths ++ (s.step line).2 ++ printed, tenths', fun more => ?_⟩
    obtain ⟨rest, hrest⟩ := hlines more
    refine ⟨rest, ?_⟩
    have hstep : s.step line = (some s', (s.step line).2) := Prod.ext hs' rfl
    rw [List.cons_append, transcript, hstep]
    simp only [hrest, String.append_assoc]

end Session

/-! ### Inputs -/

/-- The lines of an input, each with its newline. Without one the last line is a line if it is not
empty. -/
def inputLines (input : String) : List String :=
  let pieces := Text.splitAtNewlines input.toList
  (pieces.dropLast.map (· ++ ['\n']) ++ pieces.getLast?.toList.filter (· ≠ [])).map String.ofList

/-- Newlines stand at the ends of lines, where they are not looked at. -/
theorem newline_not_mem_trim_of_mem_inputLines {input line : String} (h : line ∈ inputLines input) :
    '\n' ∉ Text.trim line.toList := by
  obtain ⟨cs, hcs, rfl⟩ := List.mem_map.1 h
  rw [String.toList_ofList]
  rcases List.mem_append.1 hcs with hcs | hcs
  · obtain ⟨piece, hpiece, rfl⟩ := List.mem_map.1 hcs
    rw [Text.trim_append_blanks piece (List.forall_mem_singleton.2 rfl)]
    exact fun hn => Text.newline_not_mem_piece ((List.dropLast_sublist _).mem hpiece)
      (Text.mem_of_mem_trim hn)
  · have hpiece := List.mem_of_getLast? (Option.mem_toList.1 (List.mem_filter.1 hcs).1)
    exact fun hn => Text.newline_not_mem_piece hpiece (Text.mem_of_mem_trim hn)

/-- Ended lines are the lines of their text. -/
theorem inputLines_eq_of_ended {input : String} {ls : List (List Char)} (hn : ∀ l ∈ ls, '\n' ∉ l)
    (h : input.toList = ls.flatMap (· ++ ['\n'])) :
    inputLines input = ls.map fun l => String.ofList (l ++ ['\n']) := by
  simp [inputLines, h, Text.splitAtNewlines_flatMap_ended hn]

end SharedSheet.Terminal
