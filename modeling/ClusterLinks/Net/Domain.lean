import ClusterLinks.Net.Domain.Mapping
import ClusterLinks.Text.Direction
import ClusterLinks.Text.Joining
import ClusterLinks.Text.Normal
import ClusterLinks.Text.Punycode

/-!
# Domains

The name of a host in ASCII. Every character is mapped to the form that names are looked up in, the
text is normalized, and each label that is not ASCII is written in Punycode behind `xn--`. A label
that comes in that form has to hold what would have been written so.

`Domain.toAscii?` refuses a name with a label that starts with a mark, that joins letters where
nothing can be joined, or that mixes writing directions.
-/

namespace ClusterLinks.Domain

/-- How many characters a label outside ASCII may have. -/
def maxLabelLength : Nat := 1000

/-- How many characters may stand behind `xn--`. -/
def maxEncodedLength : Nat := 2000

/-- Whether no domain may hold the character. -/
def isForbidden (c : Char) : Bool :=
  c.toNat ≤ 0x20 || c.toNat = 0x7F || "%#/:<>?@[\\]^|".contains c

def isAscii (text : List Char) : Bool :=
  text.all (·.toNat < 128)

/-- The text behind the mark of an encoded label. -/
def encodedPart? : List Char → Option (List Char)
  | 'x' :: 'n' :: '-' :: '-' :: rest => some rest
  | _ => none

/-- Whether the first character that letters do not join across joins as it should. -/
def joins (accepts : Text.Joining → Bool) : List Char → Bool
  | [] => false
  | c :: rest =>
      let joining := Text.Joining.ofChar c
      if accepts joining then true
      else if joining = .transparent then joins accepts rest
      else false

/-- Whether a mark that keeps letters of a group apart stands in front, as for joiners. -/
def isVirama (c : Char) : Bool :=
  Text.Normal.combiningClass c = 9

/-- Whether every joiner of a label stands behind a virama, or a non-joiner stands between letters
that would join. What is in front comes in reverse. -/
def joinersFit (front : List Char) : List Char → Bool
  | [] => true
  | c :: rest =>
      let fits :=
        if c = '\u200C' ∨ c = '\u200D' then
          front.head?.any isVirama ||
            (c = '\u200C' &&
              joins (fun joining => joining = .bothSides || joining = .behind) front &&
              joins (fun joining => joining = .bothSides || joining = .inFront) rest)
        else true
      fits && joinersFit (c :: front) rest

/-- Whether a label can be part of a name. -/
def isLabel (label : List Char) : Bool :=
  isAscii label ||
    (label.length ≤ maxLabelLength && !label.head?.any Text.isMark && joinersFit [] label)

/-- Whether the label is what mapping makes of it. -/
def isMapped (label : List Char) : Bool :=
  label.all (fun c => mapChar? c = some [c]) && Text.Normal.isNormal label

/-- The characters of a label that is written in the encoded form. -/
def decodeLabel? (encoded : List Char) : Option (List Char) := do
  let label ← if encoded.length ≤ maxEncodedLength then Punycode.decode? encoded else none
  if !isAscii label && isMapped label && (encodedPart? label).isNone then some label else none

/-- The characters that a label stands for. -/
def readLabel? (label : List Char) : Option (List Char) := do
  let label ←
    match encodedPart? label with
    | some encoded => decodeLabel? encoded
    | none => some label
  if isLabel label then some label else none

/-- Whether a name has to keep the rules for writing from right to left. -/
def isBidirectional (c : Char) : Bool :=
  match Text.Direction.ofChar c with
  | .rightToLeft | .arabicNumber => true
  | _ => false

/-- Whether a label keeps to one direction. Marks at its end do not count. -/
def keepsDirection : List Char → Bool
  | [] => true
  | first :: rest =>
      let body :=
        ((rest.map Text.Direction.ofChar).reverse.dropWhile (· = .nonspacing)).reverse
      match Text.Direction.ofChar first with
      | .leftToRight =>
          (body.getLast?.all fun last => last = .leftToRight || last = .europeanNumber) &&
            body.all fun direction => direction ≠ .rightToLeft && direction ≠ .arabicNumber
      | .rightToLeft =>
          (body.getLast?.all fun last =>
              last = .rightToLeft || last = .europeanNumber || last = .arabicNumber) &&
            (body.all (· ≠ .leftToRight)) &&
            !(body.contains .europeanNumber && body.contains .arabicNumber)
      | _ => false

/-- A label in ASCII. -/
def writeLabel (label : List Char) : List Char :=
  if isAscii label then label else "xn--".toList ++ Punycode.encode label

/-- The name in the form that it is looked up in. -/
def mapped? (name : List Char) : Option (List Char) := do
  let mapped ← name.mapM mapChar?
  let normal := Text.Normal.form mapped.flatten
  if normal.any isForbidden then none else some normal

/-- Whether a name has nothing but small letters, digits, hyphens and dots, and no encoded label. -/
def isPlain (name : List Char) : Bool :=
  name.all (fun c => c.isLower || c.isDigit || c == '-' || c == '.') &&
    (Text.split (· == '.') name).all fun label => (encodedPart? label).isNone

/-- The name in ASCII. -/
def toAscii? (name : List Char) : Option (List Char) :=
  if isPlain name then some name
  else do
    let mapped ← mapped? name
    let labels ← (Text.split (· == '.') mapped).mapM readLabel?
    if labels.any (·.any isBidirectional) && !labels.all keepsDirection then none
    else some (['.'].intercalate (labels.map writeLabel))

end ClusterLinks.Domain
