import ClusterLinks.Json.MergePatch
import ClusterLinks.Kubernetes.Request
import ClusterLinks.Text.Decimal

/-!
# The Kubernetes API server

Objects are documents under paths. A patch that names a version is refused unless the stored
object has that version, and every accepted patch makes a new version, so nobody overwrites what
they have not seen.
-/

namespace ClusterLinks

/-- The objects that a server keeps, by path. -/
structure ApiServer where
  objects : Dictionary Json := ∅
  deriving DecidableEq

namespace ApiServer

/-- The version of an object, or the one that a patch asks for. -/
def version? (document : Json) : Option Json :=
  (document.get? "metadata").bind (Json.get? "resourceVersion")

/-- The version behind one that is a number. -/
def nextVersion : Json → Json
  | .string version =>
      match Decimal.unsigned? Decimal.max64 version with
      | some number => .string (toString (number + 1))
      | none => .string version
  | version => version

/-- The object with a new version, if it has one. -/
def withNextVersion (document : Json) : Json :=
  match version? document, document.entries?, (document.get? "metadata").bind Json.entries? with
  | some version, some entries, some metadata =>
      .object <| entries.insert "metadata" <|
        .object (metadata.insert "resourceVersion" (nextVersion version))
  | _, _, _ => document

/-- The answer to a request that is refused. -/
def refused (code : Nat) (reason message : String) : Http.Reply where
  status := code
  body :=
    .document <| Json.ofEntries
      [("kind", .string "Status"), ("apiVersion", .string "v1"), ("status", .string "Failure"),
        ("code", .integer code), ("reason", .string reason), ("message", .string message)]

def found (document : Json) : Http.Reply := ⟨200, .document document⟩

/-- Whether a patch may be applied to an object. -/
def accepts (stored patch : Json) : Bool :=
  match version? patch with
  | some version => version? stored = some version
  | none => true

/-- The object that an accepted patch makes. -/
def patched (stored patch : Json) : Json :=
  withNextVersion (stored.mergePatch patch)

/-- Answers a request. -/
def handle (request : ApiRequest) (server : ApiServer) : Http.Reply × ApiServer :=
  match server.objects.get? request.path with
  | none => (refused 404 "NotFound" (request.path ++ " not found"), server)
  | some stored =>
      match request with
      | .get _ => (found stored, server)
      | .mergePatch target patch =>
          if accepts stored patch then
            (found (patched stored patch),
              ⟨server.objects.insert target.path (patched stored patch)⟩)
          else (refused 409 "Conflict" "the object has been modified", server)

def put (server : ApiServer) (kind : ObjectKind) (key : ObjectKey) (document : Json) :
    ApiServer :=
  ⟨server.objects.insert (kind.path key) document⟩

def remove (server : ApiServer) (kind : ObjectKind) (key : ObjectKey) : ApiServer :=
  ⟨server.objects.erase (kind.path key)⟩

/-- The key that the metadata of an object give it. -/
def keyOf (document : Json) : ObjectKey :=
  let metadata := (document.get? "metadata").getD .null
  let text (name : String) : String := ((metadata.get? name).bind Json.string?).getD ""
  ⟨text "namespace", text "name"⟩

/-- The objects of a kind with their keys. -/
def objectsOf (server : ApiServer) (kind : ObjectKind) : List (ObjectKey × Json) :=
  server.objects.entries.filterMap fun (path, document) =>
    let key := keyOf document
    if kind.path key = path then some (key, document) else none

/-- A connection straight to a server. -/
def connection : ApiConnection ApiServer where
  send request := .step (handle request)

end ApiServer

end ClusterLinks
