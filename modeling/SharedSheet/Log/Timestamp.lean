import SharedSheet.Text.Blank

/-!
# Times of log entries

A time is a date, a time of day and an offset from universal time, as in
`2024-02-29T12:30:00.25+02:00`. Nothing is computed with times, so a time is kept as the text that
was written, with a proof that it can be read.

Reading is lenient about layout and strict about the calendar. White space may stand before every
number, separator and offset; the month, the day and the parts of the time of day have one or two
digits; a year with a sign may have any number of digits. The date has to exist, and an offset is
less than a day.

## Main definitions

* `Timestamp` — the text of a time
* `Timestamp.isValid` — whether a text is one
-/

namespace SharedSheet

namespace Timestamp

/-! ### The calendar -/

/-- Whether a year has a leap day. -/
def isLeap (year : Int) : Bool := year % 4 == 0 && (year % 100 != 0 || year % 400 == 0)

/-- The number of days of a month. -/
def daysIn (year : Int) (month : Nat) : Nat :=
  if month = 2 then (if isLeap year then 29 else 28)
  else if month = 4 ∨ month = 6 ∨ month = 9 ∨ month = 11 then 30
  else 31

/-- Whether a date exists. Years reach from -262143 to 262142. -/
def isDate (year : Int) (month day : Nat) : Bool :=
  decide (-262143 ≤ year ∧ year ≤ 262142 ∧ 1 ≤ month ∧ month ≤ 12 ∧ 1 ≤ day ∧
    day ≤ daysIn year month)

/-! ### Parts of a time -/

/-- A number of at most `width` digits, and what follows it. -/
def number? (width : Nat) (cs : List Char) : Option (Nat × List Char) :=
  match (cs.takeWhile Char.isDigit).take width with
  | [] => none
  | digits => some (Nat.ofDigitChars 10 digits 0, cs.drop digits.length)

/-- A number of one or two digits after white space. -/
def twoDigits? (cs : List Char) : Option (Nat × List Char) := number? 2 (Text.trimStart cs)

/-- A year after white space: four digits at most, or a sign and any number of digits. -/
def year? (cs : List Char) : Option (Int × List Char) :=
  match Text.trimStart cs with
  | '-' :: cs => (number? cs.length cs).map fun (n, rest) => (-(n : Int), rest)
  | '+' :: cs => (number? cs.length cs).map fun (n, rest) => ((n : Int), rest)
  | cs => (number? 4 cs).map fun (n, rest) => ((n : Int), rest)

/-- What follows a separator, which may have white space before it. -/
def after? (separator : Char) (cs : List Char) : Option (List Char) :=
  match Text.trimStart cs with
  | c :: rest => if c = separator then some rest else none
  | [] => none

/-- What follows the date: a letter `T` or one blank starts the time of day. -/
def afterDate? : List Char → Option (List Char)
  | 'T' :: rest => some rest
  | 't' :: rest => some rest
  | ' ' :: rest => some rest
  | _ => none

/-- What follows a fraction of a second, if there is one. -/
def afterFraction? : List Char → Option (List Char)
  | '.' :: rest => (number? rest.length rest).map (·.2)
  | cs => some cs

/-- What follows an offset in hours and minutes. The minutes have two digits. -/
def afterHours? : List Char → Option (List Char)
  | h :: h' :: rest =>
    if h.isDigit && h'.isDigit && Nat.ofDigitChars 10 [h, h'] 0 < 24 then
      match rest.dropWhile fun c => c == ':' || Text.isBlank c with
      | m :: m' :: rest => if '0' ≤ m && m ≤ '5' && m'.isDigit then some rest else none
      | _ => none
    else none
  | _ => none

/-- What follows the offset from universal time. -/
def afterOffset? (cs : List Char) : Option (List Char) :=
  match Text.trimStart cs with
  | 'Z' :: rest => some rest
  | 'z' :: rest => some rest
  | '+' :: rest => afterHours? rest
  | '-' :: rest => afterHours? rest
  | '−' :: rest => afterHours? rest
  | u :: t :: c :: rest =>
    if (String.ofList [u, t, c]).toUpper = "UTC" then some rest else none
  | _ => none

/-- What follows a date that exists. -/
def dateRest? (cs : List Char) : Option (List Char) := do
  let (year, cs) ← year? cs
  let (month, cs) ← twoDigits? (← after? '-' cs)
  let (day, cs) ← twoDigits? (← after? '-' cs)
  if isDate year month day then some cs else none

/-- What follows a time of day. A second may be a leap second. -/
def clockRest? (cs : List Char) : Option (List Char) := do
  let (hour, cs) ← twoDigits? cs
  let (minute, cs) ← twoDigits? (← after? ':' cs)
  let (second, cs) ← twoDigits? (← after? ':' cs)
  if hour < 24 ∧ minute < 60 ∧ second ≤ 60 then afterFraction? cs else none

/-- What follows a time. -/
def rest? (cs : List Char) : Option (List Char) := do
  let cs ← dateRest? cs
  let cs ← clockRest? (← afterDate? cs)
  afterOffset? cs

/-- Whether a text is a time, with nothing but white space after it. -/
def isValid (cs : List Char) : Bool := (rest? cs).any Text.isAllBlank

end Timestamp

/-- The time at which a log entry was made. -/
structure Timestamp where
  /-- The text. -/
  text : String
  /-- It can be read. -/
  valid : Timestamp.isValid text.toList = true
  deriving DecidableEq

/-- The first instant of 1970 in universal time. -/
def Timestamp.epoch : Timestamp := ⟨"1970-01-01T00:00:00Z", by decide +kernel⟩

/-- The time that a text writes. -/
def Timestamp.ofString? (s : String) : Option Timestamp :=
  if h : Timestamp.isValid s.toList = true then some ⟨s, h⟩ else none

end SharedSheet
