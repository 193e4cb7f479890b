import ClusterLinks.Text.Percent

/-!
# Absolute URLs

The parts of a URL, each in the form in which it is written. A URL without an authority has no
host, and one that has an authority may still name an empty host.
-/

namespace ClusterLinks

/-- Who asks, as written in front of a host; empty texts say nothing. -/
structure UserInfo where
  name : String := ""
  password : String := ""
  deriving DecidableEq

namespace UserInfo

def toText (user : UserInfo) : String :=
  if user.name = "" ∧ user.password = "" then ""
  else if user.password = "" then user.name ++ "@"
  else user.name ++ ":" ++ user.password ++ "@"

/-- Whether a name or a password can be taken out of the URL: they have to be text. -/
def isReadable (user : UserInfo) : Bool :=
  match Percent.decodeText? user.name.toList with
  | none => false
  | some "" => user.password ≠ "" && (Percent.decodeText? user.password.toList).isSome
  | some _ => true

end UserInfo

structure Url where
  scheme : String
  user : UserInfo := {}
  host : Option String
  port : Option Nat
  path : String
  query : Option String
  fragment : Option String
  deriving DecidableEq

namespace Url

/-- The default port of a scheme. -/
def defaultPort? (scheme : String) : Option Nat :=
  if scheme = "http" ∨ scheme = "ws" then some 80
  else if scheme = "https" ∨ scheme = "wss" then some 443
  else if scheme = "ftp" then some 21
  else none

/-- Whether the URL names a host. -/
def hasHost (url : Url) : Bool :=
  match url.host with
  | some host => host ≠ ""
  | none => false

/-- Whether the URL can be asked for on the web. -/
def isForWeb (url : Url) : Bool :=
  url.scheme = "http" || url.scheme = "https"

/-- The URL without user information, as far as that is text. -/
def withoutUser (url : Url) : Url :=
  if url.user.isReadable then { url with user := {} } else url

/-- Adds pairs behind the query. -/
def addPairs (url : Url) (pairs : List (String × String)) : Url :=
  let added := Percent.form pairs
  let query :=
    match url.query with
    | none => added
    | some "" => added
    | some query => query ++ "&" ++ added
  { url with query := some query }

/-- The URL up to the path. -/
def origin (url : Url) : String :=
  let host :=
    match url.host with
    | some host => "//" ++ url.user.toText ++ host
    | none => ""
  let port :=
    match url.port with
    | some port => ":" ++ toString port
    | none => ""
  url.scheme ++ ":" ++ host ++ port

/-- The path; without an authority, two slashes in front must not look like one. -/
def shownPath (url : Url) : String :=
  if url.host = none ∧ url.path.toList.take 2 = ['/', '/'] then "/." ++ url.path else url.path

/-- The URL as a request names it, without the fragment. -/
def target (url : Url) : String :=
  let query :=
    match url.query with
    | some query => "?" ++ query
    | none => ""
  url.origin ++ url.shownPath ++ query

def toText (url : Url) : String :=
  let fragment :=
    match url.fragment with
    | some fragment => "#" ++ fragment
    | none => ""
  url.target ++ fragment

end Url

end ClusterLinks
