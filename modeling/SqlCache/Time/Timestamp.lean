import SqlCache.Time.Instant
import SqlCache.Text.Blank

/-!
Timestamps as text: a date, a time of day to the nanosecond and an offset from UTC, read in the
usual forms and always written in UTC with `Z` and no more fractional digits than needed, in groups
of three. A leap second is a second 59 with more than a thousand million nanoseconds.
-/

set_option autoImplicit false

namespace SqlCache

/-- Days of the proleptic Gregorian calendar, counted from the first of January 1970. -/
structure Day where
  number : Int
  deriving DecidableEq, Repr

namespace Day

/-- Has the year a 29th of February? -/
def isLeapYear (year : Int) : Bool :=
  year % 4 == 0 && (year % 100 != 0 || year % 400 == 0)

/-- How many days a month has. -/
def monthLength (year : Int) (month : Nat) : Nat :=
  if month == 2 then (if isLeapYear year then 29 else 28)
  else if month == 4 || month == 6 || month == 9 || month == 11 then 30
  else 31

/-- Years are counted from March here, so that a leap day ends its year; a period of 400 years has
146097 days. -/
def ofDate (year : Int) (month day : Nat) : Day :=
  let y := if month ≤ 2 then year - 1 else year
  let period := y / 400
  let yearOfPeriod := y % 400
  let monthFromMarch : Int := (month + 9) % 12
  let dayOfYear := (153 * monthFromMarch + 2) / 5 + day - 1
  let dayOfPeriod := yearOfPeriod * 365 + yearOfPeriod / 4 - yearOfPeriod / 100 + dayOfYear
  ⟨period * 146097 + dayOfPeriod - 719468⟩

/-- The day of a date, if the calendar has it. -/
def ofDate? (year : Int) (month day : Nat) : Option Day :=
  if 1 ≤ month && month ≤ 12 && 1 ≤ day && day ≤ monthLength year month then
    some (ofDate year month day)
  else none

/-- Year, month and day of a day. -/
def date (d : Day) : Int × Nat × Nat :=
  let z := d.number + 719468
  let period := z / 146097
  let dayOfPeriod := z % 146097
  let yearOfPeriod :=
    (dayOfPeriod - dayOfPeriod / 1460 + dayOfPeriod / 36524 - dayOfPeriod / 146096) / 365
  let dayOfYear := dayOfPeriod - (365 * yearOfPeriod + yearOfPeriod / 4 - yearOfPeriod / 100)
  let monthFromMarch := (5 * dayOfYear + 2) / 153
  let day := dayOfYear - (153 * monthFromMarch + 2) / 5 + 1
  let month := if monthFromMarch < 10 then monthFromMarch + 3 else monthFromMarch - 9
  let year := yearOfPeriod + period * 400
  (if month ≤ 2 then year + 1 else year, month.toNat, day.toNat)

end Day

/-- A second in UTC and the nanoseconds in it, which in a leap second go on past a thousand
million. -/
structure Timestamp where
  second : Int
  nanos : Nat
  deriving DecidableEq, Repr

namespace Timestamp

/-- Take between `least` and `most` ASCII digits as a number. -/
def digits? (least most : Nat) (cs : List Char) : Option (Nat × List Char) :=
  let ds := (cs.take most).takeWhile Char.isDigit
  if ds.length < least then none
  else some (ds.foldl (fun n c => n * 10 + (c.toNat - 48)) 0, cs.drop ds.length)

/-- Drop blanks in front. -/
def skipBlanks (cs : List Char) : List Char := cs.dropWhile Text.isBlank

/-- Take one given character. -/
def literal? (c : Char) : List Char → Option (List Char)
  | d :: rest => if c = d then some rest else none
  | [] => none

/-- A year: four digits at most, or a sign and any number of them. -/
def year? (cs : List Char) : Option (Int × List Char) :=
  match skipBlanks cs with
  | '-' :: rest => (digits? 1 rest.length rest).map fun (n, rest) => (-(n : Int), rest)
  | '+' :: rest => (digits? 1 rest.length rest).map fun (n, rest) => ((n : Int), rest)
  | rest => (digits? 1 4 rest).map fun (n, rest) => ((n : Int), rest)

/-- A number of one or two digits, with blanks in front of it. -/
def pair? (cs : List Char) : Option (Nat × List Char) := digits? 1 2 (skipBlanks cs)

/-- The fraction of a second, if a point follows, in nanoseconds; digits past the ninth count for
nothing. -/
def fraction? : List Char → Option (Nat × List Char)
  | '.' :: rest =>
    match digits? 1 9 rest with
    | none => none
    | some (n, after) =>
      some (n * Nat.pow 10 (9 - (rest.length - after.length)), after.dropWhile Char.isDigit)
  | rest => some (0, rest)

/-- Does the text start with the letters `UTC`, in either case? -/
def startsWithUtc : List Char → Bool
  | u :: t :: c :: _ => u.toUpper == 'U' && t.toUpper == 'T' && c.toUpper == 'C'
  | _ => false

/-- Hours and minutes of an offset, in seconds. -/
def offsetSeconds? (cs : List Char) : Option (Nat × List Char) := do
  let (hours, rest) ← digits? 2 2 cs
  let rest := rest.dropWhile fun c => c == ':' || Text.isBlank c
  let (minutes, rest) ← digits? 2 2 rest
  if minutes < 60 then some (hours * 3600 + minutes * 60, rest) else none

/-- An offset from UTC in seconds, east positive: `UTC`, `Z`, or a sign with hours and minutes. -/
def offset? (cs : List Char) : Option (Int × List Char) :=
  if startsWithUtc cs then some (0, cs.drop 3)
  else match cs with
    | 'Z' :: rest => some (0, rest)
    | 'z' :: rest => some (0, rest)
    | '+' :: rest => (offsetSeconds? rest).map fun (n, rest) => ((n : Int), rest)
    | '-' :: rest => (offsetSeconds? rest).map fun (n, rest) => (-(n : Int), rest)
    | '\u2212' :: rest => (offsetSeconds? rest).map fun (n, rest) => (-(n : Int), rest)
    | _ => none

/-- The separator between date and time. -/
def separator? : List Char → Option (List Char)
  | 'T' :: rest => some rest
  | 't' :: rest => some rest
  | ' ' :: rest => some rest
  | _ => none

/-- Is the second one that instants have? -/
def isRepresentable (second : Int) : Bool :=
  Instant.isRepresentable ⟨second * 1000000000⟩

/-- The timestamp of a date, a time of day and an offset, if calendar and clock have them. -/
def assemble? (year : Int) (month day hour minute second nanos : Nat) (offset : Int) :
    Option Timestamp := do
  let date ← Day.ofDate? year month day
  if hour < 24 && minute < 60 && second ≤ 60 && decide (-86400 < offset) &&
      decide (offset < 86400) then
    let leap := second == 60
    let second := if leap then 59 else second
    let here := date.number * 86400 + (hour * 3600 + minute * 60 + second : Nat)
    if isRepresentable here && isRepresentable (here - offset) then
      some ⟨here - offset, if leap then 1000000000 + nanos else nanos⟩
    else none
  else none

/-- Read a timestamp; the whole text has to be one, blanks at the end aside. -/
def parse? (text : String) : Option Timestamp := do
  let (year, cs) ← year? text.toList
  let cs ← literal? '-' (skipBlanks cs)
  let (month, cs) ← pair? cs
  let cs ← literal? '-' (skipBlanks cs)
  let (day, cs) ← pair? cs
  let cs ← separator? cs
  let (hour, cs) ← pair? cs
  let cs ← literal? ':' (skipBlanks cs)
  let (minute, cs) ← pair? cs
  let cs ← literal? ':' (skipBlanks cs)
  let (second, cs) ← pair? cs
  let (nanos, cs) ← fraction? cs
  let (offset, cs) ← offset? (skipBlanks cs)
  if skipBlanks cs = [] then assemble? year month day hour minute second nanos offset
  else none

/-- A number with at least `width` digits. -/
def padded (width n : Nat) : String :=
  let digits := String.ofList (Nat.toDigits 10 n)
  String.ofList (List.replicate (width - digits.length) '0') ++ digits

/-- A year is four digits; one that needs a sign or more digits has a sign. -/
def yearText (year : Int) : String :=
  if 0 ≤ year ∧ year ≤ 9999 then padded 4 year.toNat
  else if year < 0 then "-" ++ padded 4 year.natAbs
  else "+" ++ padded 4 year.toNat

/-- The fraction of a second in as few groups of three digits as it needs. -/
def fractionText (nanos : Nat) : String :=
  if nanos = 0 then ""
  else if nanos % 1000000 = 0 then "." ++ padded 3 (nanos / 1000000)
  else if nanos % 1000 = 0 then "." ++ padded 6 (nanos / 1000)
  else "." ++ padded 9 nanos

/-- The text of a timestamp in UTC. -/
def text (t : Timestamp) : String :=
  let (year, month, day) := Day.date ⟨t.second / 86400⟩
  let clock := (t.second % 86400).toNat
  let leap := t.nanos / 1000000000
  yearText year ++ "-" ++ padded 2 month ++ "-" ++ padded 2 day ++ "T" ++
    padded 2 (clock / 3600) ++ ":" ++ padded 2 (clock / 60 % 60) ++ ":" ++
    padded 2 (clock % 60 + leap) ++ fractionText (t.nanos % 1000000000) ++ "Z"

end Timestamp

end SqlCache
