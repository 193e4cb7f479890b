/-!
# IP addresses

A version 4 address is a dotted quad of decimal octets without leading zeros. A version 6
address has eight groups of one to four hexadecimal digits, of which one run may be left out as
`::`, and its last two groups may be written as a dotted quad.

`toText` writes the canonical form: lower-case digits, the longest run of at least two zero
groups (the leftmost of several) as `::`, and a quad only for an address that maps version 4.
-/

namespace ClusterLinks

inductive IpAddress where
  | v4 (octets : Vector UInt8 4)
  | v6 (groups : Vector UInt16 8)
  deriving DecidableEq

namespace IpAddress

/-- The value of a digit of the base. -/
def digit? (base : Nat) (c : Char) : Option Nat :=
  let value? :=
    if '0' ≤ c ∧ c ≤ '9' then some (c.toNat - '0'.toNat)
    else if 'a' ≤ c ∧ c ≤ 'z' then some (c.toNat - 'a'.toNat + 10)
    else if 'A' ≤ c ∧ c ≤ 'Z' then some (c.toNat - 'A'.toNat + 10)
    else none
  value?.filter (· < base)

/-- The number that digits of the base denote. -/
def numberOf (base : Nat) (digits : List Char) : Nat :=
  digits.foldl (fun value c => value * base + (digit? base c).getD 0) 0

/-- All digits in front of the text, at least one. -/
def readDigits? (base : Nat) (text : List Char) : Option (List Char × List Char) :=
  match text.takeWhile fun c => (digit? base c).isSome with
  | [] => none
  | digits => some (digits, text.dropWhile fun c => (digit? base c).isSome)

/-- One octet: at most three decimal digits, no leading zero, at most 255. -/
def readOctet? (text : List Char) : Option (UInt8 × List Char) := do
  let (digits, rest) ← readDigits? 10 text
  let value := numberOf 10 digits
  if digits.length ≤ 3 ∧ (digits.head? = some '0' → digits.length = 1) ∧ value < 256 then
    some (UInt8.ofNat value, rest)
  else none

/-- A dot and an octet. -/
def readDottedOctet? : List Char → Option (UInt8 × List Char)
  | '.' :: rest => readOctet? rest
  | _ => none

/-- A dotted quad. -/
def readQuad? (text : List Char) : Option (Vector UInt8 4 × List Char) := do
  let (a, rest) ← readOctet? text
  let (b, rest) ← readDottedOctet? rest
  let (c, rest) ← readDottedOctet? rest
  let (d, rest) ← readDottedOctet? rest
  some (#v[a, b, c, d], rest)

/-- One group: at most four hexadecimal digits. -/
def readGroup? (text : List Char) : Option (UInt16 × List Char) := do
  let (digits, rest) ← readDigits? 16 text
  if digits.length ≤ 4 then some (UInt16.ofNat (numberOf 16 digits), rest) else none

/-- What follows the separator in front of every group but the first. -/
def behindSeparator? (isFirst : Bool) : List Char → Option (List Char)
  | text => if isFirst then some text
      else match text with
        | ':' :: rest => some rest
        | _ => none

/-- The two groups that a quad stands for. -/
def groupsOfQuad (quad : Vector UInt8 4) : List UInt16 :=
  [UInt16.ofNat (quad[0].toNat * 256 + quad[1].toNat),
    UInt16.ofNat (quad[2].toNat * 256 + quad[3].toNat)]

/-- As many groups as there are, at most `limit`, and whether a quad ended them. -/
def readGroups : (limit : Nat) → (isFirst : Bool) → List Char → List UInt16 × Bool × List Char
  | 0, _, text => ([], false, text)
  | limit + 1, isFirst, text =>
      let quad? := if limit = 0 then none else (behindSeparator? isFirst text).bind readQuad?
      match quad? with
      | some (quad, rest) => (groupsOfQuad quad, true, rest)
      | none =>
          match (behindSeparator? isFirst text).bind readGroup? with
          | some (group, rest) =>
              let (groups, quad, rest) := readGroups limit false rest
              (group :: groups, quad, rest)
          | none => ([], false, text)

/-- Eight groups as an address. -/
def ofGroups? (groups : List UInt16) : Option IpAddress :=
  if eight : groups.length = 8 then some (.v6 ⟨groups.toArray, by simpa using eight⟩) else none

/-- A version 6 address; `::` stands for at least one group and no quad comes before it. -/
def readVersion6? (text : List Char) : Option (IpAddress × List Char) := do
  let (head, quad, rest) := readGroups 8 true text
  if head.length = 8 then
    let address ← ofGroups? head
    some (address, rest)
  else
    match quad, rest with
    | false, ':' :: ':' :: rest =>
        let (tail, _, rest) := readGroups (7 - head.length) true rest
        let zeros := List.replicate (8 - head.length - tail.length) 0
        let address ← ofGroups? (head ++ zeros ++ tail)
        some (address, rest)
    | _, _ => none

/-- A version 4 address. -/
def readVersion4? (text : List Char) : Option (IpAddress × List Char) := do
  let (quad, rest) ← readQuad? text
  some (.v4 quad, rest)

/-- The address that a text denotes as a whole. -/
def ofText? (text : String) : Option IpAddress :=
  match (readVersion4? text.toList).orElse fun _ => readVersion6? text.toList with
  | some (address, []) => some address
  | _ => none

/-- Lower-case hexadecimal digits without leading zeros. -/
def hexText (value : UInt16) : String :=
  String.ofList (Nat.toDigits 16 value.toNat)

def quadText (quad : Vector UInt8 4) : String :=
  ".".intercalate (quad.toList.map fun octet => toString octet.toNat)

/-- The quad of an address that maps version 4: five zero groups and one of all ones. -/
def mappedQuad? (groups : List UInt16) : Option (Vector UInt8 4) :=
  match groups with
  | [0, 0, 0, 0, 0, 0xFFFF, high, low] =>
      some #v[UInt8.ofNat (high.toNat / 256), UInt8.ofNat (high.toNat % 256),
        UInt8.ofNat (low.toNat / 256), UInt8.ofNat (low.toNat % 256)]
  | _ => none

/-- How many zero groups the list starts with. -/
def zeroRun (groups : List UInt16) : Nat :=
  (groups.takeWhile (· == 0)).length

/-- Position and length of the longest run of zero groups, the leftmost of several. -/
def longestZeroRun : List UInt16 → Nat × Nat
  | [] => (0, 0)
  | group :: rest =>
      let here := zeroRun (group :: rest)
      let (position, length) := longestZeroRun rest
      if length ≤ here then (0, here) else (position + 1, length)

def joinGroups (groups : List UInt16) : String :=
  ":".intercalate (groups.map hexText)

/-- The groups with their longest zero run left out. -/
def compressedText (groups : List UInt16) : String :=
  let (position, length) := longestZeroRun groups
  if 2 ≤ length then
    joinGroups (groups.take position) ++ "::" ++ joinGroups (groups.drop (position + length))
  else joinGroups groups

def groupsText (groups : List UInt16) : String :=
  match mappedQuad? groups with
  | some quad => "::ffff:" ++ quadText quad
  | none => compressedText groups

/-- The canonical form. -/
def toText : IpAddress → String
  | .v4 quad => quadText quad
  | .v6 groups => groupsText groups.toList

end IpAddress

end ClusterLinks
