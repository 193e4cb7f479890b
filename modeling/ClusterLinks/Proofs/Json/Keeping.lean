import ClusterLinks.Proofs.Json.MergePatch
import ClusterLinks.Proofs.Json.RoundTrip

/-!
# What is kept of documents that are written again

Whoever reads a document and writes it again should lose nothing that belongs to others. A record
keeps all entries that are not modelled as they were. A modelled entry can appear with a default
that is always written, it can disappear where it said nothing, and else it is kept in a way of its
own.
-/

namespace ClusterLinks

variable {α : Type}

/-- What may be written for a document that was read. -/
abbrev Keeping := Json → Json → Prop

namespace Keeping

/-- The document stays as it was. -/
def same : Keeping := fun before after => after = before

/-- Lists keep their length and their order, and all items are kept in one way. -/
def list (item : Keeping) : Keeping := fun before after =>
  ∃ items items', before = .array items ∧ after = .array items' ∧ List.Forall₂ item items items'

/-- What becomes of the entry under a name. -/
structure Entry where
  name : String
  /-- What is written where there was no entry. -/
  default? : Option Json
  /-- What says nothing and may be left out. -/
  blank? : Option Json
  kept : Keeping

namespace Entry

/-- An entry that is always there. -/
def required (name : String) (kept : Keeping) : Entry := ⟨name, none, none, kept⟩

/-- An entry that is always written, where need be with a default. -/
def always (name : String) (default : Json) (kept : Keeping) : Entry :=
  ⟨name, some default, none, kept⟩

/-- An entry that never appears, and that may disappear if it is blank. -/
def unlessBlank (name : String) (blank : Json) (kept : Keeping) : Entry :=
  ⟨name, none, some blank, kept⟩

/-- Where nothing was there is the default now, and where there is nothing now it was blank. -/
def Holds (entry : Entry) : Option Json → Option Json → Prop
  | none, after? => after? = entry.default?
  | some before, none => entry.blank? = some before
  | some before, some after => entry.kept before after

end Entry

/-- Objects keep each modelled entry in its own way, and all others as they were. -/
def record (entries : List Entry) : Keeping := fun before after =>
  ∃ held held' : Entries Json, before = .object held ∧ after = .object held' ∧
    (∀ entry ∈ entries, entry.Holds (held.get? entry.name) (held'.get? entry.name)) ∧
    ∀ key, key ∉ entries.map (·.name) → held'.get? key = held.get? key

end Keeping

open Keeping (Entry)

namespace Codec

/-- Canonical documents that are read are kept when they are written again. -/
def Keeps (codec : Codec α) (kept : Keeping) : Prop :=
  ∀ document value, document.canonical = document → codec.read document = some value →
    kept document (codec.write value)

theorem string_keeps : Codec.string.Keeps .same := by
  intro document text _ reads
  cases document <;> cases reads
  rfl

theorem bool_keeps : Codec.bool.Keeps .same := by
  intro document value _ reads
  cases document <;> cases reads
  rfl

/-- Lists are kept item by item. -/
theorem list_keeps {item : Codec α} {kept : Keeping} (keeps : item.Keeps kept) :
    (Codec.list item).Keeps (.list kept) := by
  intro document values canonical reads
  obtain ⟨items, isArray, each⟩ := Option.bind_eq_some_iff.mp reads
  cases document <;> cases isArray
  refine ⟨items, values.map item.write, rfl, rfl, ?_⟩
  rw [List.forall₂_map_right_iff]
  have known : ∀ part ∈ items, part.canonical = part :=
    fun part member => Json.canonical_of_mem canonical member
  have both := (List.forall₂_and_left items values).mpr ⟨known, forall₂_of_mapM each⟩
  exact both.imp fun part value ⟨partKnown, partRead⟩ => keeps part value partKnown partRead

/-- Lists of texts are written as they were read. -/
theorem texts_keeps : (Codec.list Codec.string).Keeps .same := by
  intro document texts canonical reads
  obtain ⟨items, items', rfl, written, each⟩ :=
    list_keeps string_keeps document texts canonical reads
  have unchanged : items' = items := by
    apply Eq.symm
    rw [← List.forall₂_eq_eq_eq]
    exact each.imp fun _ _ same => Eq.symm same
  rw [written, unchanged, Keeping.same]

end Codec

namespace Field

/-- What is read from an entry is kept when it is written again. -/
def Keeps (field : Field α) (entry : Entry) : Prop :=
  entry.name = field.name ∧ ∀ part? value, (∀ part ∈ part?, part.canonical = part) →
    field.read part? = some value → entry.Holds part? (field.write value)

variable {codec : Codec α} {kept : Keeping} (name : String)

theorem required_keeps (keeps : codec.Keeps kept) :
    (Field.required name codec).Keeps (.required name kept) := by
  refine ⟨rfl, ?_⟩
  intro part? value canonical reads
  cases part? with
  | none => cases reads
  | some part => exact keeps part value (canonical part rfl) reads

theorem defaulted_keeps (keeps : codec.Keeps kept) (default : α) :
    (Field.defaulted name codec default).Keeps (.always name (codec.write default) kept) := by
  refine ⟨rfl, ?_⟩
  intro part? value canonical reads
  cases part? with
  | none =>
      cases reads
      rfl
  | some part => exact keeps part value (canonical part rfl) reads

/-- Only what is blank is left out. -/
theorem omitted_keeps [DecidableEq α] {default : α} {blank : Json} (keeps : codec.Keeps kept)
    (onlyBlank : ∀ document, codec.read document = some default → document = blank) :
    (Field.omitted name codec default).Keeps (.unlessBlank name blank kept) := by
  refine ⟨rfl, ?_⟩
  intro part? value canonical reads
  cases part? with
  | none =>
      cases reads
      simp [Entry.Holds, Entry.unlessBlank, omitted]
  | some part =>
      have partRead : codec.read part = some value := reads
      by_cases isDefault : value = default
      · subst isDefault
        simp [Entry.Holds, Entry.unlessBlank, omitted, onlyBlank part partRead]
      · have partKept := keeps part value (canonical part rfl) partRead
        simpa [Entry.Holds, Entry.unlessBlank, omitted, isDefault] using partKept

theorem omitted_string_keeps :
    (Field.omitted name Codec.string "").Keeps (.unlessBlank name (.string "") .same) := by
  apply omitted_keeps name Codec.string_keeps
  intro document reads
  cases document <;> cases reads
  rfl

theorem omitted_bool_keeps :
    (Field.omitted name Codec.bool false).Keeps (.unlessBlank name (.bool false) .same) := by
  apply omitted_keeps name Codec.bool_keeps
  intro document reads
  cases document <;> cases reads
  rfl

theorem omitted_list_keeps [DecidableEq α] (keeps : (Codec.list codec).Keeps kept) :
    (Field.omitted name (Codec.list codec) []).Keeps (.unlessBlank name (.array []) kept) := by
  apply omitted_keeps name keeps
  intro document reads
  obtain ⟨items, isArray, each⟩ := Option.bind_eq_some_iff.mp reads
  cases document <;> cases isArray
  rw [List.forall₂_nil_right_iff.mp (Codec.forall₂_of_mapM each)]

theorem optional_keeps (keeps : codec.Keeps kept) :
    (Field.optional name codec).Keeps (.unlessBlank name .null kept) := by
  refine ⟨rfl, ?_⟩
  intro part? value? canonical reads
  cases part? with
  | none =>
      cases reads
      rfl
  | some part =>
      change (if part = .null then some none else (codec.read part).map some) = some value? at reads
      split at reads
      · next null =>
          cases reads
          rw [null]
          rfl
      · obtain ⟨value, partRead, rfl⟩ := Option.map_eq_some_iff.mp reads
        exact keeps part value (canonical part rfl) partRead

/-- In a record it is known what a field that was read writes again. -/
theorem Keeps.holds {field : Field α} {entry : Entry} (keeps : field.Keeps entry)
    {entries : Entries Json} (canonical : (Json.object entries).canonical = .object entries)
    {value : α} (reads : field.of? entries = some value) :
    entry.name = (field.entry value).1 ∧
      entry.Holds (entries.get? entry.name) (field.entry value).2 := by
  obtain ⟨sameName, holds⟩ := keeps
  refine ⟨sameName, holds _ value ?_ ?_⟩
  · exact fun part found => Json.canonical_of_get? canonical found
  · rw [sameName]
    exact reads

end Field

namespace Record

private theorem exists_of_mem_forall₂ {β γ : Type} {relation : β → γ → Prop} {left : List β}
    {right : List γ} (each : List.Forall₂ relation left right) {first : β}
    (member : first ∈ left) : ∃ second ∈ right, relation first second := by
  induction each with
  | nil => cases member
  | cons related _ ih =>
      rcases List.mem_cons.mp member with rfl | later
      · exact ⟨_, List.mem_cons_self, related⟩
      · obtain ⟨second, secondMember, related⟩ := ih later
        exact ⟨second, List.mem_cons_of_mem _ secondMember, related⟩

/-- A record that was read is kept if its fields are, one by one. -/
theorem keeps_write (names : List String) {entries : Entries Json} {kept : List Entry}
    {fields : List (String × Option Json)}
    (canonical : (Json.object entries).canonical = .object entries)
    (named : fields.map Prod.fst = names) (distinct : names.Nodup)
    (each : List.Forall₂ (fun entry field => entry.name = field.1 ∧
      entry.Holds (entries.get? entry.name) field.2) kept fields) :
    Keeping.record kept (.object entries) (Record.write fields (Record.extra names entries)) := by
  have sameNames : kept.map (·.name) = names := by
    rw [← named, ← List.forall₂_eq_eq_eq, List.forall₂_map_left_iff, List.forall₂_map_right_iff]
    exact each.imp fun _ _ both => both.1
  have beside (key : String) : (extra names entries).entries.get? key =
      if key ∈ names then none else entries.get? key := by
    have kept := (Json.ordered_of_canonical canonical).filter fun entry => !names.contains entry.1
    rw [← Entries.get?_without]
    exact Entries.get?_order key kept.distinct
  have found (key : String) : (Entries.overlay (written fields) (extra names entries).entries).get?
      key = ((extra names entries).entries.get? key).or ((written fields).get? key) :=
    Entries.get?_overlay key (extra names entries).ordered.distinct
  refine ⟨entries, _, rfl, rfl, ?_, ?_⟩
  · intro entry member
    obtain ⟨field, fieldMember, sameName, holds⟩ := exists_of_mem_forall₂ each member
    have isName : entry.name ∈ names := sameNames ▸ List.mem_map_of_mem member
    have wrote := get?_written (named ▸ distinct) fieldMember
    rw [found, beside, if_pos isName, Option.none_or, sameName, wrote, ← sameName]
    exact holds
  · intro key foreign
    rw [sameNames] at foreign
    rw [found, beside, if_neg foreign, get?_written_of_not_mem (named ▸ foreign), Option.or_none]

end Record

end ClusterLinks
