/-!
# Request targets

What a request asks for: a path with an optional query, a host alone, or both behind a scheme.
Nothing is decoded; `RequestTarget.ofText?` takes the parts out of the text, drops a fragment and
refuses a text in which a character stands where it may not.
-/

namespace ClusterLinks

structure RequestTarget where
  scheme : Option String := none
  authority : Option String := none
  path : String := ""
  query : Option String := none
  deriving DecidableEq

namespace RequestTarget

/-- How many bytes a target may have. -/
def maxLength : Nat := 65534

def maxSchemeLength : Nat := 64

/-- How many colons an address in brackets may have. -/
def maxColons : Nat := 8

def isSchemeCharacter (c : Char) : Bool :=
  c.isAlphanum || "+-.~".toList.contains c

def isAuthorityCharacter (c : Char) : Bool :=
  c.isAlphanum || "!$&'()*+,-.;=_~".toList.contains c

def isPathCharacter (c : Char) : Bool :=
  0x20 < c.toNat && c.toNat ≠ 0x7F && !"#<>?\x60".toList.contains c

def isQueryCharacter (c : Char) : Bool :=
  0x20 < c.toNat && c.toNat ≠ 0x7F && !"\"#<>".toList.contains c

/-- What has been seen of an authority so far. -/
structure AuthorityProgress where
  /-- Colons that are neither in user information nor in brackets. -/
  colons : Nat := 0
  hasOpened : Bool := false
  hasClosed : Bool := false
  /-- A percent sign that is neither in user information nor in brackets. -/
  hasPercent : Bool := false
  endsUserInfo : Bool := false

/-- Takes the next character of an authority in; what stands in front of an `@` or of a closing
bracket no longer counts. -/
def AuthorityProgress.next? (seen : AuthorityProgress) (c : Char) : Option AuthorityProgress :=
  let seen := { seen with endsUserInfo := false }
  if c = ':' then
    if seen.colons < maxColons then some { seen with colons := seen.colons + 1 } else none
  else if c = '[' then
    if seen.hasPercent || seen.hasOpened then none else some { seen with hasOpened := true }
  else if c = ']' then
    if seen.hasOpened && !seen.hasClosed then
      some { seen with hasClosed := true, colons := 0, hasPercent := false }
    else none
  else if c = '@' then
    some { seen with endsUserInfo := true, colons := 0, hasPercent := false }
  else if c = '%' then some { seen with hasPercent := true }
  else if isAuthorityCharacter c then some seen
  else none

/-- Whether an authority may end here. -/
def AuthorityProgress.isComplete (seen : AuthorityProgress) : Bool :=
  seen.hasOpened == seen.hasClosed && seen.colons ≤ 1 && !seen.endsUserInfo && !seen.hasPercent

/-- Whether the text is an authority: user information, a host or an address in brackets, and
one port at most. -/
def isAuthority (text : List Char) : Bool :=
  match text.foldlM AuthorityProgress.next? {} with
  | some seen => text ≠ [] && seen.isComplete
  | none => false

/-- The scheme in front of `://`, and what follows it. -/
inductive SchemeReading where
  | absent
  | present (scheme rest : List Char)
  | tooLong

/-- A text of three characters is too short for a scheme. -/
def readScheme (text : List Char) : SchemeReading :=
  let scheme := text.takeWhile isSchemeCharacter
  match text.dropWhile isSchemeCharacter with
  | ':' :: '/' :: '/' :: rest =>
      if scheme = [] ∧ rest = [] then .absent
      else if maxSchemeLength < scheme.length then .tooLong
      else .present scheme rest
  | _ => .absent

/-- Path and query in front of a fragment. -/
def readPath? (text : List Char) : Option (String × Option String) :=
  let path := text.takeWhile isPathCharacter
  match text.dropWhile isPathCharacter with
  | [] | '#' :: _ => some (String.ofList path, none)
  | '?' :: rest =>
      let query := rest.takeWhile isQueryCharacter
      match rest.dropWhile isQueryCharacter with
      | [] | '#' :: _ => some (String.ofList path, some (String.ofList query))
      | _ => none
  | _ => none

/-- A target with a host in front of the path, which is `/` if nothing is said. -/
def absolute? (scheme rest : List Char) : Option RequestTarget :=
  let ends (c : Char) : Bool := c == '/' || c == '?' || c == '#'
  let authority := rest.takeWhile (!ends ·)
  if isAuthority authority then
    (readPath? (rest.dropWhile (!ends ·))).map fun (path, query) =>
      { scheme := some (String.ofList scheme)
        authority := some (String.ofList authority)
        path := if path = "" then "/" else path
        query }
  else none

/-- A target that is a host alone. -/
def authority? (text : List Char) : Option RequestTarget :=
  if isAuthority text then some { authority := some (String.ofList text) } else none

/-- The target that a text denotes. -/
def ofText? (text : String) : Option RequestTarget :=
  if maxLength < text.utf8ByteSize then none
  else
    match text.toList with
    | ['*'] => some { path := "*" }
    | '/' :: rest =>
        (readPath? ('/' :: rest)).map fun (path, query) => { path, query }
    | characters =>
        match readScheme characters with
        | .present scheme rest => absolute? scheme rest
        | .absent => authority? characters
        | .tooLong => none

/-- The non-empty parts of the query. -/
def queryParts (target : RequestTarget) : List String :=
  match target.query with
  | none => []
  | some query => ((query.splitOn "&").filter (· ≠ ""))

end RequestTarget

end ClusterLinks
