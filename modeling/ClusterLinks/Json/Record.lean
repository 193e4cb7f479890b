import ClusterLinks.Json

/-!
# Records in JSON

A `Codec` reads and writes one type. A record is read from an object through its `Field`s, each
of which knows its key, what an absent key means and when it is left out on writing; the entries
under other keys are kept beside the fields and written back.

Main statements: writing a record and looking up one of its keys gives what the field wrote, and
dropping the modelled keys again gives the entries that were kept beside them.
-/

namespace ClusterLinks

/-- How the values of a type are read from a document and written to one. -/
structure Codec (α : Type) where
  read : Json → Option α
  write : α → Json

namespace Codec

variable {α : Type}

def string : Codec String where
  read := Json.string?
  write := .string

def bool : Codec Bool where
  read := Json.bool?
  write := .bool

/-- Whole numbers from `low` to `high`. -/
def integer (low high : Int) : Codec Int where
  read value := value.integer?.filter fun number => low ≤ number ∧ number ≤ high
  write := .integer

def list (item : Codec α) : Codec (List α) where
  read value := value.items?.bind fun items => items.mapM item.read
  write values := .array (values.map item.write)

/-- A map with arbitrary keys. -/
def dictionary (item : Codec α) : Codec (Dictionary α) where
  read value := do
    let entries ← value.entries?
    let read ← entries.mapM fun entry => (item.read entry.2).map (entry.1, ·)
    some (.ofEntries read)
  write values := .object (values.entries.map fun entry => (entry.1, item.write entry.2))

/-- A value or `null`. -/
def nullable (item : Codec α) : Codec (Option α) where
  read value := if value = .null then some none else (item.read value).map some
  write
    | none => .null
    | some value => item.write value

end Codec

/-- A modelled entry of a record. -/
structure Field (α : Type) where
  name : String
  read : Option Json → Option α
  write : α → Option Json

namespace Field

variable {α : Type}

/-- An entry that must be there. -/
def required (name : String) (codec : Codec α) : Field α where
  name := name
  read value := value.bind codec.read
  write value := some (codec.write value)

/-- An entry that means `default` when it is absent and is always written. -/
def defaulted (name : String) (codec : Codec α) (default : α) : Field α where
  name := name
  read
    | none => some default
    | some value => codec.read value
  write value := some (codec.write value)

/-- An entry that means `default` when it is absent and is left out when it says `default`. -/
def omitted [DecidableEq α] (name : String) (codec : Codec α) (default : α) : Field α where
  name := name
  read
    | none => some default
    | some value => codec.read value
  write value := if value = default then none else some (codec.write value)

/-- An entry that may be absent or `null` and is left out when it is unset. -/
def optional (name : String) (codec : Codec α) : Field (Option α) where
  name := name
  read
    | none => some none
    | some value => codec.nullable.read value
  write value := value.map codec.write

/-- Reads the field from the entries of a record. -/
def of? (field : Field α) (entries : Entries Json) : Option α :=
  field.read (entries.get? field.name)

/-- What the field writes, under its key. -/
def entry (field : Field α) (value : α) : String × Option Json :=
  (field.name, field.write value)

end Field

namespace Record

/-- The entries that were written, in key order. -/
def written (fields : List (String × Option Json)) : Entries Json :=
  Entries.order (fields.filterMap fun field => field.2.map (field.1, ·))

/-- The written fields and the entries kept beside them. -/
def write (fields : List (String × Option Json)) (extra : Dictionary Json) : Json :=
  .object (Entries.overlay (written fields) extra.entries)

/-- The entries under keys that are not modelled. -/
def extra (names : List String) (entries : Entries Json) : Dictionary Json :=
  .ofEntries (entries.without names)

/-- The entries of a record that may also be written as an array of its fields in order; the last
fields may be missing. -/
def entriesOf? (names : List String) : Json → Option (Entries Json)
  | .object entries => some entries
  | .array items => if items.length ≤ names.length then some (names.zip items) else none
  | _ => none

/-- The entries of a record that may also be written as an array of all its fields in order. -/
def entriesOfAll? (names : List String) : Json → Option (Entries Json)
  | .object entries => some entries
  | .array items => if items.length = names.length then some (names.zip items) else none
  | _ => none

end Record

end ClusterLinks
