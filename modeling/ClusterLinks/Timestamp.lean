import ClusterLinks.Text.Blank
import ClusterLinks.Text.Decimal

/-!
# Points in time

A date, a time of day and an offset from UTC in the order of RFC 3339, read generously: numbers
may be shorter than usual, blanks may stand in front of every number and around the marks
between them, and a year may have a sign and any number of digits. The date and the time are
separated by one `T` or blank. A leap second is the sixtieth of its minute, and digits behind the
ninth of a fraction are ignored. Times are written in UTC to the second.
-/

namespace ClusterLinks

structure Timestamp where
  /-- Seconds since the start of 1970 in UTC. -/
  seconds : Int
  /-- Nanoseconds within the second; a leap second has a whole second more. -/
  nanoseconds : Nat
  deriving DecidableEq

namespace Timestamp

def isLeapYear (year : Int) : Bool :=
  year % 4 = 0 && (year % 100 ≠ 0 || year % 400 = 0)

def daysInMonth (year : Int) (month : Nat) : Nat :=
  if month = 2 then (if isLeapYear year then 29 else 28)
  else if month = 4 ∨ month = 6 ∨ month = 9 ∨ month = 11 then 30
  else 31

/-- Days from the start of 1970 to a date; years are counted from March on. -/
def daysFromDate (year : Int) (month day : Nat) : Int :=
  let year := if month ≤ 2 then year - 1 else year
  let month := (month + 9) % 12
  let ofYear := year * 365 + Int.fdiv year 4 - Int.fdiv year 100 + Int.fdiv year 400
  ofYear + ((153 * month + 2) / 5 : Nat) + day - 1 - 719468

/-- The date of a day, as year, month and day of the month. -/
def dateOfDays (days : Int) : Int × Nat × Nat :=
  let shifted := days + 719468
  let era := Int.fdiv shifted 146097
  let dayOfEra := (shifted - era * 146097).toNat
  let yearOfEra :=
    (dayOfEra - dayOfEra / 1460 + dayOfEra / 36524 - dayOfEra / 146096) / 365
  let dayOfYear := dayOfEra - (365 * yearOfEra + yearOfEra / 4 - yearOfEra / 100)
  let monthFromMarch := (5 * dayOfYear + 2) / 153
  let day := dayOfYear - (153 * monthFromMarch + 2) / 5 + 1
  let month := if monthFromMarch < 10 then monthFromMarch + 3 else monthFromMarch - 9
  let year := (yearOfEra : Int) + era * 400
  (if month ≤ 2 then year + 1 else year, month, day)

def skipBlanks (text : List Char) : List Char :=
  text.dropWhile Text.isBlank

/-- A number with at most `width` digits behind any blanks. -/
def readNumber? (width : Nat) (text : List Char) : Option (Nat × List Char) :=
  let text := skipBlanks text
  match (text.take width).takeWhile Char.isDigit with
  | [] => none
  | digits => some (Decimal.numberOf digits, text.drop digits.length)

/-- A year: four digits at most, or a sign and any number of digits. -/
def readYear? (text : List Char) : Option (Int × List Char) :=
  match skipBlanks text with
  | '-' :: rest =>
      (Decimal.readDigits? rest).map fun (digits, rest) => (-(Decimal.numberOf digits : Int), rest)
  | '+' :: rest =>
      (Decimal.readDigits? rest).map fun (digits, rest) => ((Decimal.numberOf digits : Int), rest)
  | text => (readNumber? 4 text).map fun (year, rest) => ((year : Int), rest)

/-- One character of a list. -/
def expect? (allowed : List Char) : List Char → Option (List Char)
  | c :: rest => if allowed.contains c then some rest else none
  | [] => none

/-- A mark between two numbers, with any blanks in front of it. -/
def expectMark? (mark : Char) (text : List Char) : Option (List Char) :=
  expect? [mark] (skipBlanks text)

/-- The nanoseconds of a fraction behind its point. -/
def readFraction? : List Char → Option (Nat × List Char)
  | '.' :: text =>
      (Decimal.readDigits? text).map fun (digits, rest) =>
        (Decimal.numberOf ((digits ++ List.replicate 9 '0').take 9), rest)
  | text => some (0, text)

/-- Exactly two digits. -/
def readPair? : List Char → Option (Nat × List Char)
  | a :: b :: rest => if a.isDigit && b.isDigit then some (Decimal.numberOf [a, b], rest) else none
  | _ => none

/-- The distance from UTC behind its sign; colons and blanks may separate hours and minutes. -/
def readDistance? (text : List Char) : Option (Nat × List Char) := do
  let (hours, rest) ← readPair? text
  let (minutes, rest) ← readPair? (rest.dropWhile fun c => c == ':' || Text.isBlank c)
  let seconds := hours * 3600 + minutes * 60
  if minutes < 60 ∧ seconds < 86400 then some (seconds, rest) else none

/-- The seconds by which a zone is ahead of UTC. UTC itself is named in full or by `Z`. -/
def readOffset? : List Char → Option (Int × List Char)
  | '+' :: text => (readDistance? text).map fun (seconds, rest) => ((seconds : Int), rest)
  | '-' :: text => (readDistance? text).map fun (seconds, rest) => (-(seconds : Int), rest)
  | '\u2212' :: text => (readDistance? text).map fun (seconds, rest) => (-(seconds : Int), rest)
  | text =>
      if (text.take 3).map Char.toLower = ['u', 't', 'c'] then some (0, text.drop 3)
      else
        match text with
        | 'Z' :: rest => some (0, rest)
        | 'z' :: rest => some (0, rest)
        | _ => none

/-- The first and the last day that a date can name. -/
def firstDay : Int := daysFromDate (-262143) 1 1
def lastDay : Int := daysFromDate 262142 12 31

/-- Whether a count of seconds lies in the days that a date can name. -/
def isInRange (seconds : Int) : Bool :=
  firstDay * 86400 ≤ seconds && seconds < (lastDay + 1) * 86400

/-- The point in time that a text denotes. -/
def ofText? (text : String) : Option Timestamp := do
  let (year, rest) ← readYear? text.toList
  let rest ← expectMark? '-' rest
  let (month, rest) ← readNumber? 2 rest
  let rest ← expectMark? '-' rest
  let (day, rest) ← readNumber? 2 rest
  let rest ← expect? ['T', 't', ' '] rest
  let (hour, rest) ← readNumber? 2 rest
  let rest ← expectMark? ':' rest
  let (minute, rest) ← readNumber? 2 rest
  let rest ← expectMark? ':' rest
  let (second, rest) ← readNumber? 2 rest
  let (nanoseconds, rest) ← readFraction? rest
  let (offset, rest) ← readOffset? (skipBlanks rest)
  if skipBlanks rest = [] ∧ 1 ≤ month ∧ month ≤ 12 ∧ 1 ≤ day ∧ day ≤ daysInMonth year month ∧
      hour < 24 ∧ minute < 60 ∧ second ≤ 60 then
    let leap := second = 60
    let time : Int := hour * 3600 + minute * 60 + (if leap then 59 else second : Nat)
    let here := daysFromDate year month day * 86400 + time
    if isInRange here ∧ isInRange (here - offset) then
      some
        { seconds := here - offset
          nanoseconds := if leap then nanoseconds + 1000000000 else nanoseconds }
    else none
  else none

def padded (width value : Nat) : String :=
  let digits := toString value
  String.ofList (List.replicate (width - digits.length) '0') ++ digits

/-- A year, signed unless it has four digits. -/
def yearText (year : Int) : String :=
  if 0 ≤ year ∧ year ≤ 9999 then padded 4 year.toNat
  else (if year < 0 then "-" else "+") ++ padded 4 year.natAbs

/-- The time in UTC, to the second. -/
def toText (timestamp : Timestamp) : String :=
  let days := Int.fdiv timestamp.seconds 86400
  let time := (timestamp.seconds - days * 86400).toNat
  let (year, month, day) := dateOfDays days
  let second := time % 60 + timestamp.nanoseconds / 1000000000
  yearText year ++ "-" ++ padded 2 month ++ "-" ++ padded 2 day ++ "T" ++
    padded 2 (time / 3600) ++ ":" ++ padded 2 (time / 60 % 60) ++ ":" ++ padded 2 second ++ "Z"

end Timestamp

end ClusterLinks
