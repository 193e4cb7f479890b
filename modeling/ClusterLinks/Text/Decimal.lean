/-!
# Decimal numbers in text

A number is written in ASCII digits, with any number of leading zeros. An unsigned number has at
least one digit and may have a plus sign in front. One above the given limit is refused.
-/

namespace ClusterLinks.Decimal

/-- The largest number of 64 bits. -/
def max64 : Nat := UInt64.size - 1

/-- The number with one more digit behind its last one. -/
def push (number : Nat) (digit : Char) : Nat :=
  number * 10 + (digit.toNat - '0'.toNat)

/-- The number that digits denote, zero without any. -/
def numberOf (digits : List Char) : Nat :=
  digits.foldl push 0

/-- All digits in front of the text, at least one, and what follows them. -/
def readDigits? (text : List Char) : Option (List Char × List Char) :=
  match text.takeWhile Char.isDigit with
  | [] => none
  | digits => some (digits, text.dropWhile Char.isDigit)

/-- The number that digits denote, if there is a digit and nothing but digits. -/
def ofDigits? (digits : List Char) : Option Nat :=
  if digits ≠ [] ∧ digits.all Char.isDigit then some (numberOf digits) else none

/-- An unsigned number up to `limit`. -/
def unsigned? (limit : Nat) (text : String) : Option Nat :=
  let digits :=
    match text.toList with
    | '+' :: rest => rest
    | digits => digits
  (ofDigits? digits).filter (· ≤ limit)

end ClusterLinks.Decimal
