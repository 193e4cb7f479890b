import ClusterLinks.Http.Status
import ClusterLinks.Json.Shape
import ClusterLinks.Json.Text
import ClusterLinks.Net.RequestTarget
import ClusterLinks.Net.Url.Text

/-!
# Requests and answers of HTTP

`Request.make?` is the only place where requests are put together, so every request that exists
has an absolute URL with a host that a request line can hold, and header values without control
characters. What keeps a request from being made or answered is a `Problem`.
-/

namespace ClusterLinks.Http

/-- What an answer carries. -/
inductive Body where
  | document (value : Json)
  | text (value : String)
  deriving DecidableEq

namespace Body

def toText : Body → String
  | .document value => value.toText
  | .text value => value

/-- The value that a body holds. -/
def read? {α : Type} (reader : Reader α) : Body → Option α
  | .document value => reader.read value
  | .text value => reader.ofText? value

end Body

structure Reply where
  status : Nat
  body : Body
  deriving DecidableEq

/-- The body that arrives; some answers never have one. -/
def Reply.content (reply : Reply) : Body :=
  if Status.isBodiless reply.status then .text "" else reply.body

inductive Method where
  | get
  | post
  deriving DecidableEq

def Method.name : Method → String
  | get => "GET"
  | post => "POST"

structure Request where
  method : Method
  url : Url
  /-- Header values under lower-case names. -/
  headers : List (String × String) := []
  body : String := ""
  deriving DecidableEq

/-- What can go wrong with a request. -/
inductive Problem where
  /-- No request can be made of what was given; nothing is sent. -/
  | unmakeable (url : Option Url)
  /-- The request was not answered. -/
  | unanswered (url : Url)
  /-- The answer does not hold what it should. -/
  | unreadable
  deriving DecidableEq

def Problem.message : Problem → String
  | unmakeable none => "builder error"
  | unmakeable (some url) => "builder error for url (" ++ url.toText ++ ")"
  | unanswered url => "error sending request for url (" ++ url.toText ++ ")"
  | unreadable => "error decoding response body"

/-- Whether a header may have the value: tabs are the only control characters in it. -/
def isHeaderValue (value : String) : Bool :=
  value.toList.all fun c => c = '\t' || (32 ≤ c.toNat && c.toNat ≠ 127)

namespace Request

def header? (request : Request) (name : String) : Option String :=
  (request.headers.find? (·.1 = name)).map (·.2)

/-- A request to an address with pairs added to its query. User information in the address is
never part of what is asked for. -/
def make? (method : Method) (address : String) (pairs : List (String × String))
    (headers : List (String × String)) (body : String) : Except Problem Request :=
  match Url.ofText? address with
  | none => .error (.unmakeable none)
  | some url =>
      let url := url.withoutUser
      let addressed := if pairs.isEmpty then url else url.addPairs pairs
      if !url.hasHost then .error (.unmakeable (some url))
      else if !headers.all (isHeaderValue ·.2) then .error (.unmakeable none)
      else if !url.isForWeb || (RequestTarget.ofText? addressed.toText).isNone then
        .error (.unmakeable (some addressed))
      else .ok { method, url := addressed, headers, body }

/-- A form as a request sends it. -/
def form? (address : String) (pairs : List (String × String)) : Except Problem Request :=
  make? .post address [] [("content-type", "application/x-www-form-urlencoded")]
    (Percent.form pairs)

end Request

end ClusterLinks.Http
