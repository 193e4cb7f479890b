/-!
# Punycode

RFC 3492: a label with characters outside ASCII as ASCII text. The label's ASCII characters come
first; then each other character, smallest first, is given by the distance from the one before.

`encode` writes a label and `decode?` reads one, written in small letters.
-/

namespace ClusterLinks.Punycode

def digit (value : Nat) : Char :=
  if value < 26 then Char.ofNat ('a'.toNat + value) else Char.ofNat ('0'.toNat + value - 26)

/-- Divides a distance down until it fits; counts the steps of 36. -/
def shrink : (bound steps delta : Nat) → Nat
  | 0, steps, delta => steps + 36 * delta / (delta + 38)
  | bound + 1, steps, delta =>
      if 455 < delta then shrink bound (steps + 36) (delta / 35)
      else steps + 36 * delta / (delta + 38)

/-- The bias after a distance was written for the given number of characters. -/
def adapt (delta count : Nat) (isFirst : Bool) : Nat :=
  let delta := if isFirst then delta / 700 else delta / 2
  shrink delta 0 (delta + delta / count)

/-- A digit below the threshold of its position is the last one of a distance. -/
def threshold (bias position : Nat) : Nat :=
  if position ≤ bias then 1 else if bias + 26 ≤ position then 26 else position - bias

/-- A distance as digits of variable weight. -/
def variableDigits (bias : Nat) : (bound position rest : Nat) → List Char
  | 0, _, rest => [digit rest]
  | bound + 1, position, rest =>
      let least := threshold bias position
      if rest < least then [digit rest]
      else
        digit (least + (rest - least) % (36 - least)) ::
          variableDigits bias bound (position + 36) ((rest - least) / (36 - least))

structure Progress where
  delta : Nat
  bias : Nat
  handled : Nat
  output : List Char

/-- Walks over the label once for the code point `next`. -/
def visit (basic next : Nat) (progress : Progress) (code : Nat) : Progress :=
  if code < next then { progress with delta := progress.delta + 1 }
  else if code = next then
    { delta := 0
      bias := adapt progress.delta (progress.handled + 1) (progress.handled = basic)
      handled := progress.handled + 1
      output :=
        progress.output ++ variableDigits progress.bias progress.delta 36 progress.delta }
  else progress

/-- Writes the remaining code points, smallest first. -/
def writeFrom (codes : List Nat) (basic : Nat) : (bound current : Nat) → Progress → List Char
  | 0, _, progress => progress.output
  | bound + 1, current, progress =>
      match (codes.filter (current ≤ ·)).min? with
      | none => progress.output
      | some next =>
          let start :=
            { progress with delta := progress.delta + (next - current) * (progress.handled + 1) }
          let progress := codes.foldl (visit basic next) start
          writeFrom codes basic bound (next + 1) { progress with delta := progress.delta + 1 }

def encode (label : List Char) : List Char :=
  let ascii := label.filter (·.toNat < 128)
  let lead := if ascii = [] then [] else ascii ++ ['-']
  writeFrom (label.map (·.toNat)) ascii.length label.length 128 ⟨0, 72, ascii.length, lead⟩

def digitValue? (c : Char) : Option Nat :=
  if 'a' ≤ c ∧ c ≤ 'z' then some (c.toNat - 'a'.toNat)
  else if '0' ≤ c ∧ c ≤ '9' then some (26 + c.toNat - '0'.toNat)
  else none

/-- Reads a distance, added to `sum`, and returns what follows it. -/
def readDistance? (bias : Nat) : (position weight sum : Nat) → List Char →
    Option (Nat × List Char)
  | _, _, _, [] => none
  | position, weight, sum, c :: rest => do
      let value ← digitValue? c
      let sum := sum + value * weight
      let least := threshold bias position
      if value < least then some (sum, rest)
      else readDistance? bias (position + 36) (weight * (36 - least)) sum rest

/-- Puts the other characters into a label: `code` is the last one put in, behind which the next
place is `place`. The bound is the number of digits. -/
def insertAll? : (bound code bias place : Nat) → (label digits : List Char) → Option (List Char)
  | _, _, _, _, label, [] => some label
  | 0, _, _, _, _, _ :: _ => none
  | bound + 1, code, bias, place, label, digits => do
      let (distance, rest) ← readDistance? bias 36 1 0 digits
      let count := label.length + 1
      let code := code + (place + distance) / count
      let next := (place + distance) % count
      if code.isValidChar then
        insertAll? bound code (adapt distance count (place = 0)) (next + 1)
          (label.insertIdx next (Char.ofNat code)) rest
      else none

/-- The label that is written in ASCII: behind the last hyphen stand distances. -/
def decode? (text : List Char) : Option (List Char) :=
  let digits := (text.reverse.takeWhile (· ≠ '-')).reverse
  let ascii := (text.take (text.length - digits.length)).dropLast
  let digits := if ascii = [] then text else digits
  if ascii.all (·.toNat < 128) then insertAll? digits.length 128 72 0 ascii digits else none

end ClusterLinks.Punycode
