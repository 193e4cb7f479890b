import ClusterLinks.Net.Domain
import ClusterLinks.Net.IpAddress
import ClusterLinks.Text.Percent

/-!
# Hosts of URLs

A host is a domain, an IP address of version 4 in any of its spellings, or one of version 6 in
brackets. Where the scheme is not special, any other text is taken as it stands.
-/

namespace ClusterLinks.Url

/-- Neither a control character nor outside ASCII. -/
def isPrintableAscii (c : Char) : Bool :=
  0x20 ≤ c.toNat && c.toNat < 0x7F

/-- Whether no host may hold the character. -/
def isForbiddenInHost (c : Char) : Bool :=
  c.toNat = 0 || "\t\n\r #/:<>?@[\\]^|".toList.contains c

/-- A number of an IPv4 host: hexadecimal behind `0x`, octal behind `0`, else decimal. -/
def hostNumber? (part : List Char) : Option Nat :=
  let (base, digits) : Nat × List Char :=
    match part with
    | '0' :: 'x' :: digits => (16, digits)
    | '0' :: 'X' :: digits => (16, digits)
    | '0' :: second :: digits => (8, second :: digits)
    | digits => (10, digits)
  if part = [] then none
  else if digits.all fun c => (IpAddress.digit? base c).isSome then
    some (IpAddress.numberOf base digits)
  else none

/-- The labels of a host without the empty one behind a final dot. -/
def hostLabels (host : List Char) : List (List Char) :=
  let labels := Text.split (· == '.') host
  if labels.length > 1 ∧ labels.getLast? = some [] then labels.dropLast else labels

/-- Whether the last label makes the host an IPv4 address. -/
def endsInNumber (host : List Char) : Bool :=
  match (hostLabels host).getLast? with
  | some label => (label ≠ [] && label.all Char.isDigit) || (hostNumber? label).isSome
  | none => false

/-- The address that the numbers of an IPv4 host denote; the last one fills what is left. -/
def addressOf? : (weight : Nat) → List Nat → Option Nat
  | _, [] => none
  | weight, [last] => if last < weight then some last else none
  | weight, number :: rest =>
      if number < 256 then
        (addressOf? (weight / 256) rest).map (number * (weight / 256) + ·)
      else none

def ipv4Host? (host : List Char) : Option String := do
  let labels := hostLabels host
  if labels.length ≤ 4 then
    let numbers ← labels.mapM hostNumber?
    let address ← addressOf? UInt32.size numbers
    let octet (shift : Nat) : String := toString ((address >>> shift) % 256)
    some (octet 24 ++ "." ++ octet 16 ++ "." ++ octet 8 ++ "." ++ octet 0)
  else none

/-- A domain with its escapes read, in ASCII, unless it is an IPv4 address. -/
def domainHost? (host : List Char) : Option String := do
  let domain ← Percent.decodeText? host
  let ascii ← Domain.toAscii? domain.toList
  if ascii = [] then none
  else if endsInNumber ascii then ipv4Host? ascii
  else some (String.ofList ascii)

/-- An address in brackets, read from behind the first one. -/
def ipv6Host? (host : List Char) : Option String :=
  match IpAddress.readVersion6? host with
  | some (.v6 groups, [']']) =>
      some ("[" ++ IpAddress.compressedText groups.toList ++ "]")
  | _ => none

/-- The host of a special scheme or, percent-encoded, of any other. -/
def host? (special : Bool) : List Char → Option String
  | '[' :: rest => ipv6Host? rest
  | host =>
      if special then domainHost? host
      else if host.any isForbiddenInHost then none
      else some (String.ofList (Percent.encode isPrintableAscii host))

end ClusterLinks.Url
