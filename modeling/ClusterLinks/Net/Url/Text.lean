import ClusterLinks.Net.Url
import ClusterLinks.Net.Url.Path

/-!
# URLs as text

`Url.ofText?` reads an absolute URL by the rules of the URL standard: blanks at the ends and line
breaks inside are dropped, the scheme and the host are lowered, a default port disappears, dot
segments are resolved, and a character that a part may not hold is percent-encoded while existing
escapes stay.

Special schemes have a host in front of every path, and a backslash counts as a slash in them. The
URL of a file is special too, but it may lack the host and has neither user nor port. A URL of any
other scheme may lack the authority; its path is then opaque unless it starts at the root.
-/

namespace ClusterLinks.Url

/-- Whether a host stands in front of every path. -/
def isSpecial (scheme : String) : Bool :=
  scheme = "file" || (defaultPort? scheme).isSome

def keepsInQuery (special : Bool) (c : Char) : Bool :=
  isPrintableAscii c && !" \"#<>".toList.contains c && !(special && c == '\'')

def keepsInUser (c : Char) : Bool :=
  keepsInPath c && !"/:;=@[\\]^|".toList.contains c

/-- The scheme in front of the first colon, lowered, and what follows the colon. -/
def readScheme? (text : List Char) : Option (String × List Char) :=
  let (scheme, rest) := Text.splitAt (· == ':') text
  match scheme, rest with
  | first :: others, ':' :: rest =>
      if first.isAlpha && others.all fun c => c.isAlphanum || "+-.".toList.contains c then
        some (String.ofList (scheme.map Char.toLower), rest)
      else none
  | _, _ => none

/-- What comes before the query and the fragment, and those two. -/
def splitSuffixes (special : Bool) (text : List Char) :
    List Char × Option String × Option String :=
  let (text, fragment) := Text.splitAt (· == '#') text
  let (text, query) := Text.splitAt (· == '?') text
  let query? :=
    match query with
    | _ :: query => some (String.ofList (Percent.encode (keepsInQuery special) query))
    | [] => none
  let fragment? :=
    match fragment with
    | _ :: fragment => some (String.ofList (Percent.encode keepsInFragment fragment))
    | [] => none
  (text, query?, fragment?)

/-- Name and password, split at the first colon. -/
def readUser (text : List Char) : UserInfo :=
  let (name, password) := Text.splitAt (· == ':') text
  { name := String.ofList (Percent.encode keepsInUser name)
    password := String.ofList (Percent.encode keepsInUser (password.drop 1)) }

/-- The user in front of the last `@` of an authority, and the rest. -/
def splitUser (authority : List Char) : UserInfo × List Char :=
  if authority.contains '@' then
    let host := (authority.reverse.takeWhile (· ≠ '@')).reverse
    (readUser (authority.take (authority.length - host.length - 1)), host)
  else ({}, authority)

/-- Host and port, split at the first colon outside brackets. -/
def splitPort (authority : List Char) : List Char × List Char :=
  match authority with
  | '[' :: _ =>
      let (address, rest) := Text.splitAt (· == ']') authority
      (address ++ rest.take 1, rest.drop 1)
  | _ => Text.splitAt (· == ':') authority

/-- A port behind a colon; the default one of the scheme and an empty one count as none. It ends
with the authority or in front of a backslash; what follows is returned. -/
def port? (scheme : String) : List Char → Option (Option Nat × List Char)
  | [] => some (none, [])
  | ':' :: rest =>
      let digits := rest.takeWhile Char.isDigit
      let behind := rest.dropWhile Char.isDigit
      let port := IpAddress.numberOf 10 digits
      if 65535 < port ∨ ¬(behind = [] ∨ behind.head? = some '\\') then none
      else if digits = [] ∨ defaultPort? scheme = some port then some (none, behind)
      else some (some port, behind)
  | _ => none

/-- A URL with an authority. Only where the scheme is not special may the host be empty, and then
nothing else may stand in the authority. -/
def withAuthority? (scheme : String) (text : List Char) : Option Url := do
  let special := isSpecial scheme
  let endsAuthority (c : Char) : Bool :=
    c == '/' || c == '?' || c == '#' || (special && c == '\\')
  let (authority, rest) := Text.splitAt endsAuthority text
  let (user, address) := splitUser authority
  let (host, port) := splitPort address
  let isBare := port = [] ∧ user.toText = "" ∧ (authority = ['@'] → rest = [])
  if host = [] ∧ (special ∨ ¬isBare) then none
  else
    let host ← if host = [] then some "" else host? special host
    let (port, behind) ← port? scheme port
    let (path, query, fragment) := splitSuffixes special (behind ++ rest)
    let segments := if special ∧ path = [] then [[]] else segments special path
    some
      { scheme, user, host := some host, port, path := rootedPath segments
        query, fragment }

/-- A URL without an authority. -/
def withoutAuthority (scheme : String) (text : List Char) : Url :=
  let (path, query, fragment) := splitSuffixes false text
  let path :=
    match path with
    | '/' :: _ => rootedPath (segments false path)
    | _ => String.ofList (Percent.encode isPrintableAscii path)
  { scheme, host := none, port := none, path, query, fragment }

/-- The host in the URL of a file, from behind two slashes, and what follows it. A drive is part
of the path, and the local host goes without saying. -/
def fileHost? (text : List Char) : Option (String × List Char) :=
  let (host, rest) := Text.splitAt (fun c => c == '/' || c == '\\' || c == '?' || c == '#') text
  if host = [] ∨ isDrive host then some ("", text)
  else (host? true host).map fun host => (if host = "localhost" then "" else host, rest)

/-- The URL of a file. -/
def ofFile? (text : List Char) : Option Url := do
  let isSlash (c : Char) : Bool := c == '/' || c == '\\'
  let (host, rest) ←
    match text with
    | first :: second :: rest =>
        if isSlash first && isSlash second then fileHost? rest else some ("", text)
    | _ => some ("", text)
  let (path, query, fragment) := splitSuffixes true rest
  some
    { scheme := "file", host := some host, port := none
      path := withoutLeadingSlashes (rootedPath (segments true path)), query, fragment }

/-- Drops blanks and control characters at the ends, and tabs and line breaks everywhere. -/
def cleaned (text : String) : List Char :=
  let isEdge (c : Char) : Bool := c.toNat ≤ 0x20
  let inner := ((text.toList.dropWhile isEdge).reverse.dropWhile isEdge).reverse
  inner.filter fun c => !(c == '\t' || c == '\n' || c == '\r')

/-- The absolute URL that a text denotes. -/
def ofText? (text : String) : Option Url := do
  let (scheme, rest) ← readScheme? (cleaned text)
  if scheme = "file" then ofFile? rest
  else if isSpecial scheme then
    withAuthority? scheme (rest.dropWhile fun c => c == '/' || c == '\\')
  else
    match rest with
    | '/' :: '/' :: rest => withAuthority? scheme rest
    | rest => some (withoutAuthority scheme rest)

end ClusterLinks.Url
