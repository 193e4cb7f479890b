import ClusterLinks.Json.Record
import ClusterLinks.Json.Written

/-!
# Reading documents from text

A text may name an entry of an object more than once, and it may hold parts that no document can
hold. A `Shape` says which entries are modelled at which place and what becomes of the others, and
`Shape.admit?` makes a document of what is written there.

Only what is modelled or kept has to be well-formed. A field that is written twice makes the text
unreadable unless the record overrides; of other entries that are kept the last one counts.
-/

namespace ClusterLinks

/-- What becomes of entries that are not modelled, and of fields that are written twice. -/
inductive RecordRule where
  /-- Other entries are kept beside the fields. -/
  | keeping
  /-- Other entries are ignored; the record may also be an array of its fields in order. -/
  | ignoring
  /-- Other entries are ignored; a field may be written more than once and the last one counts. -/
  | overriding
  deriving DecidableEq

/-- Which parts of a document are modelled. -/
inductive Shape where
  | any
  /-- A document that the test accepts. -/
  | accepted (test : Json → Bool)
  /-- One of several names: a text, or an object with the name as its only key. -/
  | choice
  | list (item : Shape)
  /-- A map with arbitrary keys. -/
  | dictionary (item : Shape)
  | record (rule : RecordRule) (fields : List (String × Shape))

namespace Shape

/-- What a record admits under a key, none if it ignores the entry. -/
def shapeAt? (rule : RecordRule) (fields : List (String × Shape)) (key : String) : Option Shape :=
  match fields.find? (·.1 = key) with
  | some field => some field.2
  | none => if rule = .keeping then some any else none

/-- Whether no field is written twice, unless the record overrides. -/
def namesOnce (rule : RecordRule) (fields : List (String × Shape)) (entries : Entries Json) :
    Bool :=
  rule = .overriding ||
    fields.all fun field => (entries.filter (·.1 = field.1)).length ≤ 1

mutual
/-- The document that is written, none if it does not have the shape; `null` always does, unless
there is a test. -/
def admit? : (depth : Nat) → Shape → Written → Option Json
  | depth, any, written => written.document? depth
  | depth, accepted test, written =>
      (written.document? depth).filter fun document => test document.canonical
  | _, choice, .object (_ :: _ :: _) => none
  | depth, choice, written => written.document? depth
  | _, _, .atom (some .null) => some .null
  | depth + 1, list item, .array items => (admitItems? depth item items).map .array
  | depth + 1, dictionary item, .object entries =>
      (admitEntries? depth (fun _ => some item) entries).map .object
  | depth + 1, record rule fields, .object entries =>
      ((admitEntries? depth (shapeAt? rule fields) entries).filter (namesOnce rule fields)).map
        .object
  | depth + 1, record .ignoring fields, .array items =>
      (admitFields? depth fields items).map .array
  | _, _, _ => none

def admitItems? : (depth : Nat) → Shape → List Written → Option (List Json)
  | _, _, [] => some []
  | depth, shape, item :: rest => do
      let value ← admit? depth shape item
      let values ← admitItems? depth shape rest
      some (value :: values)

/-- The fields of a record that is written as an array. -/
def admitFields? : (depth : Nat) → List (String × Shape) → List Written → Option (List Json)
  | _, _, [] => some []
  | _, [], _ :: _ => none
  | depth, (_, shape) :: fields, item :: rest => do
      let value ← admit? depth shape item
      let values ← admitFields? depth fields rest
      some (value :: values)

/-- The entries that are not ignored. -/
def admitEntries? : (depth : Nat) → (String → Option Shape) →
    List (Option String × Written) → Option (Entries Json)
  | _, _, [] => some []
  | depth, shapeOf, (key, written) :: rest => do
      let key ← key
      match shapeOf key with
      | none => admitEntries? depth shapeOf rest
      | some shape =>
          let value ← admit? depth shape written
          let entries ← admitEntries? depth shapeOf rest
          some ((key, value) :: entries)
end

end Shape

/-- The field in a record that overrides: it has to be readable every time it is written. -/
def Field.checked {α : Type} (field : Field α) : String × Shape :=
  (field.name, .accepted fun document => (field.read document).isSome)

/-- How values of a type are read from documents, and which shape a text has to have. -/
structure Reader (α : Type) where
  read : Json → Option α
  shape : Shape := .any

/-- The value that a text holds. -/
def Reader.ofText? {α : Type} (reader : Reader α) (text : String) : Option α := do
  let written ← Written.ofText? text
  let document ← Shape.admit? Written.maxDepth reader.shape written
  reader.read document.canonical

end ClusterLinks
