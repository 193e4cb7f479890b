import ClusterLinks.Json
import ClusterLinks.Text.Decimal

/-!
# JSON as written

A text can say what no document holds: half of a surrogate pair, a number that is too large for a
double, or containers that enclose each other without end. `Written.ofText?` reads every text that
is JSON and marks such parts, so that parts that nobody looks at may hold anything;
`Written.document?` is the document if every part of it can be held.

`readEntries?` and its companions take a value off the front of a character list and return what
follows it.
-/

namespace ClusterLinks

/-- What a text says. -/
inductive Written where
  /-- A value without parts, none if no document can hold it. -/
  | atom (value : Option Json)
  | array (items : List Written)
  /-- Entries in the order written; a key is none if no document can hold it. -/
  | object (entries : List (Option String × Written))

namespace Written

/-- How many containers may enclose each other in a document. -/
def maxDepth : Nat := 127

def isBlank (c : Char) : Bool :=
  c == ' ' || c == '\t' || c == '\n' || c == '\r'

def skipBlanks (text : List Char) : List Char :=
  text.dropWhile isBlank

/-- The value of a hexadecimal digit. -/
def hexDigit? (c : Char) : Option Nat :=
  if '0' ≤ c ∧ c ≤ '9' then some (c.toNat - '0'.toNat)
  else if 'a' ≤ c ∧ c ≤ 'f' then some (c.toNat - 'a'.toNat + 10)
  else if 'A' ≤ c ∧ c ≤ 'F' then some (c.toNat - 'A'.toNat + 10)
  else none

/-- Four hexadecimal digits. -/
def readUnit? : List Char → Option (Nat × List Char)
  | a :: b :: c :: d :: rest => do
      let a ← hexDigit? a
      let b ← hexDigit? b
      let c ← hexDigit? c
      let d ← hexDigit? d
      some (((a * 16 + b) * 16 + c) * 16 + d, rest)
  | _ => none

/-- The character of a `\u` escape; none for half of a surrogate pair without the other half. -/
def readUnicode? (text : List Char) : Option (Option Char × List Char) := do
  let (unit, rest) ← readUnit? text
  if 0xD800 ≤ unit ∧ unit < 0xDC00 then
    match rest with
    | '\\' :: 'u' :: behind =>
        match readUnit? behind with
        | some (low, behind) =>
            if 0xDC00 ≤ low ∧ low < 0xE000 then
              some (Char.ofNat (0x10000 + (unit - 0xD800) * 0x400 + (low - 0xDC00)), behind)
            else some (none, rest)
        | none => none
    | _ => some (none, rest)
  else if 0xDC00 ≤ unit ∧ unit < 0xE000 then some (none, rest)
  else some (Char.ofNat unit, rest)

/-- The character that an escape stands for, read from behind the backslash. -/
def readEscape? : List Char → Option (Option Char × List Char)
  | '"' :: rest => some ('"', rest)
  | '\\' :: rest => some ('\\', rest)
  | '/' :: rest => some ('/', rest)
  | 'b' :: rest => some ('\x08', rest)
  | 'f' :: rest => some ('\x0c', rest)
  | 'n' :: rest => some ('\n', rest)
  | 'r' :: rest => some ('\r', rest)
  | 't' :: rest => some ('\t', rest)
  | 'u' :: rest => readUnicode? rest
  | _ => none

/-- The characters of a string up to its closing quote. The bound is at least the length of the
text. -/
def readCharacters? : (bound : Nat) → List Char → Option (List (Option Char) × List Char)
  | 0, _ => none
  | _ + 1, [] => none
  | _ + 1, '"' :: rest => some ([], rest)
  | bound + 1, '\\' :: rest => do
      let (c, rest) ← readEscape? rest
      let (cs, rest) ← readCharacters? bound rest
      some (c :: cs, rest)
  | bound + 1, c :: rest =>
      if c.toNat < 0x20 then none
      else do
        let (cs, rest) ← readCharacters? bound rest
        some (some c :: cs, rest)

/-- A string, read from behind its opening quote; none inside if no text can hold it. -/
def readString? (bound : Nat) (text : List Char) : Option (Option String × List Char) := do
  let (cs, rest) ← readCharacters? bound text
  some ((cs.mapM id).map String.ofList, rest)

/-- Moves trailing zeros of the mantissa into the exponent; zero has the exponent zero. -/
def normalDecimal (mantissa exponent : Int) : (bound : Nat) → Json
  | 0 => .decimal mantissa exponent
  | bound + 1 =>
      if mantissa = 0 then .decimal 0 0
      else if mantissa % 10 = 0 then normalDecimal (mantissa / 10) (exponent + 1) bound
      else .decimal mantissa exponent

/-- The nearest number with at most 53 binary digits, of two nearest ones the even one. -/
def toDouble (number : Nat) : Nat :=
  let unit := 1 <<< (number.log2 + 1 - 53)
  let half := 2 * (number % unit)
  let whole := number / unit
  if unit < half ∨ (unit = half ∧ whole % 2 = 1) then (whole + 1) * unit else whole * unit

/-- The number that the first digits denote, as many as 64 bits can hold, and how many are left. -/
def leading (number : Nat) : List Char → Nat × Nat
  | [] => (number, 0)
  | digit :: rest =>
      let next := Decimal.push number digit
      if next < UInt64.size then leading next rest else (number, rest.length + 1)

/-- Whether the product of two doubles, the leading digits and a power of ten, is a double. -/
def isFinite (leading : Nat) (power : Int) : Bool :=
  leading = 0 || power ≤ 0 ||
    (power ≤ 308 &&
      toDouble leading * toDouble (Nat.pow 10 power.toNat) < (1 <<< 1024) - (1 <<< 970))

/-- The digits behind a decimal point, none without a point. -/
def readFraction? : List Char → Option (List Char × List Char)
  | '.' :: rest => Decimal.readDigits? rest
  | text => some ([], text)

/-- The power of ten behind an exponent mark, absent without a mark. -/
def readExponent? : List Char → Option (Option Int × List Char)
  | mark :: rest =>
      if mark = 'e' ∨ mark = 'E' then
        let (negative, rest) : Bool × List Char :=
          match rest with
          | '-' :: rest => (true, rest)
          | '+' :: rest => (false, rest)
          | rest => (false, rest)
        do
          let (digits, rest) ← Decimal.readDigits? rest
          let value : Int := Decimal.numberOf digits
          some (some (if negative then -value else value), rest)
      else some (none, mark :: rest)
  | [] => some (none, [])

/-- A number without its sign, none inside if it is too large. Whole numbers of 64 bits, signed or
not, stay exact. -/
def readMagnitude? (negative : Bool) (text : List Char) : Option (Option Json × List Char) := do
  let (whole, rest) ← Decimal.readDigits? text
  if whole.head? = some '0' ∧ whole ≠ ['0'] then none
  else do
    let (fraction, rest) ← readFraction? rest
    let (exponent, rest) ← readExponent? rest
    let magnitude := Decimal.numberOf (whole ++ fraction)
    let signed : Int := if negative then -(magnitude : Int) else magnitude
    let exact := fraction = [] ∧ exponent = none ∧
      (if negative then 0 < magnitude ∧ magnitude ≤ 1 <<< 63 else magnitude < UInt64.size)
    if exact then some (some (.integer signed), rest)
    else
      let power := exponent.getD 0 - fraction.length
      let (first, dropped) := leading 0 whole
      let (first, ignored) := leading first fraction
      if isFinite first (power + dropped + ignored) then
        some (normalDecimal signed power (whole.length + fraction.length), rest)
      else some (none, rest)

def readNumber? : List Char → Option (Option Json × List Char)
  | '-' :: rest => readMagnitude? true rest
  | text => readMagnitude? false text

mutual
/-- A value, blanks in front of it allowed. The bound is at least twice the length of the text:
each opening bracket takes two steps. -/
def readValue? : (bound : Nat) → List Char → Option (Written × List Char)
  | 0, _ => none
  | bound + 1, text =>
      match skipBlanks text with
      | 'n' :: 'u' :: 'l' :: 'l' :: rest => some (.atom (some .null), rest)
      | 't' :: 'r' :: 'u' :: 'e' :: rest => some (.atom (some (.bool true)), rest)
      | 'f' :: 'a' :: 'l' :: 's' :: 'e' :: rest => some (.atom (some (.bool false)), rest)
      | '"' :: rest => do
          let (value, rest) ← readString? bound rest
          some (.atom (value.map .string), rest)
      | '[' :: rest =>
          match skipBlanks rest with
          | ']' :: rest => some (.array [], rest)
          | rest => do
              let (items, rest) ← readItems? bound rest
              some (.array items, rest)
      | '\x7b' :: rest =>
          match skipBlanks rest with
          | '\x7d' :: rest => some (.object [], rest)
          | rest => do
              let (entries, rest) ← readEntries? bound rest
              some (.object entries, rest)
      | text => do
          let (number, rest) ← readNumber? text
          some (.atom number, rest)

/-- Items up to the closing bracket, at least one. -/
def readItems? : (bound : Nat) → List Char → Option (List Written × List Char)
  | 0, _ => none
  | bound + 1, text => do
      let (value, rest) ← readValue? bound text
      match skipBlanks rest with
      | ']' :: rest => some ([value], rest)
      | ',' :: rest => do
          let (values, rest) ← readItems? bound rest
          some (value :: values, rest)
      | _ => none

/-- Entries up to the closing brace, at least one. -/
def readEntries? : (bound : Nat) → List Char →
    Option (List (Option String × Written) × List Char)
  | 0, _ => none
  | bound + 1, text =>
      match skipBlanks text with
      | '"' :: rest => do
          let (key, rest) ← readString? bound rest
          match skipBlanks rest with
          | ':' :: rest => do
              let (value, rest) ← readValue? bound rest
              match skipBlanks rest with
              | '\x7d' :: rest => some ([(key, value)], rest)
              | ',' :: rest => do
                  let (entries, rest) ← readEntries? bound rest
                  some ((key, value) :: entries, rest)
              | _ => none
          | _ => none
      | _ => none
end

/-- What a text says, if it is JSON. -/
def ofText? (text : String) : Option Written :=
  let characters := text.toList
  match readValue? (2 * characters.length + 2) characters with
  | some (value, rest) => if skipBlanks rest = [] then some value else none
  | none => none

mutual
/-- The document that is written, with its entries in the order written; none if some part cannot
be held or containers enclose each other too deep. -/
def document? : (depth : Nat) → Written → Option Json
  | _, .atom value => value
  | 0, _ => none
  | depth + 1, .array items => (documents? depth items).map .array
  | depth + 1, .object entries => (entries? depth entries).map .object

def documents? : (depth : Nat) → List Written → Option (List Json)
  | _, [] => some []
  | depth, item :: rest => do
      let value ← document? depth item
      let values ← documents? depth rest
      some (value :: values)

def entries? : (depth : Nat) → List (Option String × Written) → Option (Entries Json)
  | _, [] => some []
  | depth, (key, written) :: rest => do
      let key ← key
      let value ← document? depth written
      let entries ← entries? depth rest
      some ((key, value) :: entries)
end

end Written

/-- The document that a text holds, in canonical form. -/
def Json.ofText? (text : String) : Option Json := do
  let written ← Written.ofText? text
  let document ← written.document? Written.maxDepth
  some document.canonical

end ClusterLinks
