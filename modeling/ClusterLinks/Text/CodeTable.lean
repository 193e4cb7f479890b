import ClusterLinks.Text.Split

/-!
# Tables of code points

A table is written as words of hexadecimal digits: a code point, or the first and the last one of
a range with a hyphen between them, and behind an equals sign the numbers that belong to the range,
with plus signs between them.
-/

namespace ClusterLinks

structure CodeRange where
  first : Nat
  last : Nat
  values : List Nat := []
  deriving DecidableEq

abbrev CodeTable := List CodeRange

namespace CodeTable

/-- The number that lower-case hexadecimal digits denote. -/
def number (digits : List Char) : Nat :=
  digits.foldl (fun value digit =>
    value * 16 + (if digit.isDigit then digit.toNat - '0'.toNat else digit.toNat - 'a'.toNat + 10))
    0

/-- A range, from its word. -/
def range (word : List Char) : CodeRange :=
  let (bounds, values) := Text.splitAt (· == '=') word
  let (first, last) := Text.splitAt (· == '-') bounds
  { first := number first
    last := if last = [] then number first else number (last.drop 1)
    values :=
      if values = [] then [] else (Text.split (· == '+') (values.drop 1)).map number }

def ofText (text : String) : CodeTable :=
  ((Text.split (fun c => c == ' ' || c == '\n') text.toList).filter (· ≠ [])).map range

/-- The range that holds a character. -/
def find? (table : CodeTable) (c : Char) : Option CodeRange :=
  List.find? (fun range => range.first ≤ c.toNat && c.toNat ≤ range.last) table

def contains (table : CodeTable) (c : Char) : Bool :=
  (table.find? c).isSome

end CodeTable

end ClusterLinks
