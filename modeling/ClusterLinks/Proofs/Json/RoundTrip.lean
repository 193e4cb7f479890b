import ClusterLinks.Json.Record
import ClusterLinks.Proofs.Dictionary.Lookup
import Mathlib.Data.List.Forall2

/-!
# Reading what was written

Codecs and fields that give back what was written, value by value. A record gives back its fields
and the entries beside them, provided that no field is written under two names and that nothing
beside the fields bears the name of a field.
-/

namespace ClusterLinks

universe u

variable {α : Type}

namespace Codec

/-- Reading gives back the value that was written. -/
def RoundTrips (codec : Codec α) (value : α) : Prop :=
  codec.read (codec.write value) = some value

theorem string_roundTrips (value : String) : Codec.string.RoundTrips value := rfl

theorem bool_roundTrips (value : Bool) : Codec.bool.RoundTrips value := rfl

/-- Whole numbers within the limits go there and back, and no others are read. -/
theorem integer_roundTrips {low high value : Int} (inside : low ≤ value ∧ value ≤ high) :
    (Codec.integer low high).RoundTrips value := by
  simp [RoundTrips, Codec.integer, Json.integer?, inside]

theorem inside_of_read_integer {low high value : Int} {document : Json}
    (reads : (Codec.integer low high).read document = some value) :
    low ≤ value ∧ value ≤ high := by
  obtain ⟨-, inside⟩ := Option.filter_eq_some_iff.mp reads
  simpa using inside

private theorem mapM_map_eq_some {β : Type u} {write : α → β} {read : β → Option α}
    {values : List α} (each : ∀ value ∈ values, read (write value) = some value) :
    (values.map write).mapM read = some values := by
  induction values with
  | nil => rfl
  | cons first rest ih =>
      have restBack := ih fun value member => each value (by simp [member])
      rw [List.map_cons, List.mapM_cons, each first (by simp), restBack]
      rfl

/-- Lists go there and back item by item. -/
theorem list_roundTrips {item : Codec α} {values : List α}
    (each : ∀ value ∈ values, item.RoundTrips value) : (Codec.list item).RoundTrips values :=
  mapM_map_eq_some each

/-- Values that are read are as many as the parts, and each is read from its own. -/
theorem forall₂_of_mapM {β : Type u} {read : β → Option α} {parts : List β} {values : List α}
    (reads : parts.mapM read = some values) :
    List.Forall₂ (fun part value => read part = some value) parts values := by
  induction parts generalizing values with
  | nil =>
      cases reads
      exact .nil
  | cons first rest ih =>
      simp only [List.mapM_cons, Option.bind_eq_bind, Option.bind_eq_some_iff] at reads
      rcases reads with ⟨head, headRead, tail, tailRead, equal⟩
      cases equal
      exact .cons headRead (ih tailRead)

/-- The items of a list that was read were read one by one. -/
theorem exists_of_mem_list {item : Codec α} {document : Json} {values : List α} {value : α}
    (reads : (Codec.list item).read document = some values) (member : value ∈ values) :
    ∃ part, item.read part = some value := by
  rcases Option.bind_eq_some_iff.mp reads with ⟨parts, -, each⟩
  have read := forall₂_of_mapM each
  clear reads each
  induction read with
  | nil => cases member
  | cons headRead _ ih =>
      rcases List.mem_cons.mp member with rfl | later
      · exact ⟨_, headRead⟩
      · exact ih later

/-- Maps go there and back entry by entry. -/
theorem dictionary_roundTrips {item : Codec α} {values : Dictionary α}
    (each : ∀ entry ∈ values.entries, item.RoundTrips entry.2) :
    (Codec.dictionary item).RoundTrips values := by
  have back : (values.entries.map fun entry => (entry.1, item.write entry.2)).mapM
      (fun entry => (item.read entry.2).map (entry.1, ·)) = some values.entries := by
    apply mapM_map_eq_some
    intro entry member
    have valueBack : item.read (item.write entry.2) = some entry.2 := each entry member
    rw [valueBack]
    rfl
  simp only [RoundTrips, dictionary, Json.entries?, Option.bind_eq_bind, Option.bind_some, back]
  rw [Dictionary.ofEntries_of_ordered values.ordered]

private theorem eq_map_of_mapM {β : Type u} {write : α → β} {read : β → Option α}
    (inverse : ∀ part value, read part = some value → part = write value) {parts : List β}
    {values : List α} (reads : parts.mapM read = some values) : parts = values.map write := by
  rw [← List.forall₂_eq_eq_eq, List.forall₂_map_right_iff]
  exact (forall₂_of_mapM reads).imp inverse

/-- A map of texts is read off ordered entries that hold just these texts. -/
theorem read_texts_iff {entries : Entries Json} (ordered : entries.Ordered)
    {texts : Dictionary String} :
    (Codec.dictionary Codec.string).read (.object entries) = some texts ↔
      ∀ key, entries.get? key = (texts.get? key).map .string := by
  constructor
  · intro reads key
    simp only [dictionary, Json.entries?, Option.bind_eq_bind, Option.bind_some,
      Option.bind_eq_some_iff] at reads
    rcases reads with ⟨pairs, pairsRead, equal⟩
    have same : entries = pairs.map fun pair => (pair.1, Json.string pair.2) := by
      apply eq_map_of_mapM _ pairsRead
      intro entry pair pairRead
      rcases entry with ⟨name, document⟩
      rcases Option.map_eq_some_iff.mp pairRead with ⟨text, textRead, rfl⟩
      cases document <;> cases textRead
      rfl
    have pairsOrdered : Entries.Ordered pairs := by
      rw [same] at ordered
      exact Entries.ordered_map_iff.mp ordered
    cases equal
    rw [same, Entries.get?_map, Dictionary.ofEntries_of_ordered pairsOrdered]
    rfl
  · intro held
    have same : entries = texts.entries.map fun entry => (entry.1, Json.string entry.2) := by
      apply ordered.ext (Entries.ordered_map_iff.mpr texts.ordered)
      intro key
      rw [held, Entries.get?_map]
      rfl
    rw [same]
    exact dictionary_roundTrips fun entry _ => string_roundTrips entry.2

end Codec

namespace Field

/-- Reading gives back the value, also where nothing is written. -/
def RoundTrips (field : Field α) (value : α) : Prop :=
  field.read (field.write value) = some value

variable {codec : Codec α} {value : α} (name : String)

theorem required_roundTrips (back : codec.RoundTrips value) :
    (Field.required name codec).RoundTrips value := back

theorem defaulted_roundTrips (back : codec.RoundTrips value) (default : α) :
    (Field.defaulted name codec default).RoundTrips value := back

theorem omitted_roundTrips [DecidableEq α] (back : codec.RoundTrips value) (default : α) :
    (Field.omitted name codec default).RoundTrips value := by
  unfold RoundTrips omitted
  by_cases isDefault : value = default
  · simp [isDefault]
  · simp only [isDefault, ↓reduceIte]
    exact back

/-- A value that is set is read as what the codec makes of it. -/
theorem optional_read_write (notNull : codec.write value ≠ .null) :
    (Field.optional name codec).read ((Field.optional name codec).write (some value)) =
      (codec.read (codec.write value)).map some := by
  simp [optional, Codec.nullable, notNull]

theorem optional_roundTrips {value? : Option α} (back : ∀ value ∈ value?, codec.RoundTrips value)
    (notNull : ∀ value ∈ value?, codec.write value ≠ .null) :
    (Field.optional name codec).RoundTrips value? := by
  cases value? with
  | none => rfl
  | some value =>
      have valueBack : codec.read (codec.write value) = some value := back value rfl
      rw [RoundTrips, optional_read_write name (notNull value rfl), valueBack]
      rfl

theorem optional_string_roundTrips (text? : Option String) :
    (Field.optional name Codec.string).RoundTrips text? := by
  apply optional_roundTrips
  · exact fun text _ => Codec.string_roundTrips text
  · rintro text - ⟨⟩

/-- A value that is set was read. -/
theorem exists_of_mem_optional {value? : Option α} {entries : Entries Json}
    (reads : (Field.optional name codec).of? entries = some value?) (isSet : value ∈ value?) :
    ∃ part, codec.read part = some value := by
  cases found : entries.get? name with
  | none =>
      rw [of?, show entries.get? (Field.optional name codec).name = none from found] at reads
      cases reads
      cases isSet
  | some part =>
      rw [of?, show entries.get? (Field.optional name codec).name = some part from found] at reads
      change (if part = .null then some none else (codec.read part).map some) = some value? at reads
      split at reads
      · cases reads
        cases isSet
      · obtain ⟨other, partRead, rfl⟩ := Option.map_eq_some_iff.mp reads
        cases isSet
        exact ⟨part, partRead⟩

/-- The items of a list that may be left out were read one by one. -/
theorem exists_of_mem_omitted [DecidableEq α] {values : List α} {entries : Entries Json}
    (reads : (Field.omitted name (Codec.list codec) []).of? entries = some values)
    (member : value ∈ values) : ∃ part, codec.read part = some value := by
  simp only [of?, omitted] at reads
  split at reads
  · cases reads
    cases member
  · exact Codec.exists_of_mem_list reads member

/-- An optional entry is unset if it is absent or `null`, and else it is read. -/
theorem of?_optional_eq_some_iff {entries : Entries Json} {value? : Option α} :
    (Field.optional name codec).of? entries = some value? ↔
      (entries.get? name).getD .null = .null ∧ value? = none ∨
        ∃ document, entries.get? name = some document ∧ document ≠ .null ∧
          ∃ value, codec.read document = some value ∧ value? = some value := by
  simp only [of?, optional]
  cases found : entries.get? name with
  | none => simp [eq_comm]
  | some document =>
      by_cases null : document = .null
      · simp [Codec.nullable, null, eq_comm]
      · have read : (Codec.nullable codec).read document = (codec.read document).map some := by
          simp [Codec.nullable, null]
        simp only [read, Option.map_eq_some_iff, Option.getD_some, null, false_and, false_or,
          Option.some.injEq, exists_eq_left', ne_eq, not_false_eq_true, true_and]
        constructor <;> rintro ⟨value, valueRead, rfl⟩ <;> exact ⟨value, valueRead, rfl⟩

/-- What is there and can be read is read. -/
theorem of?_optional_of_get? {entries : Entries Json} {document : Json}
    (found : entries.get? name = some document) (notNull : document ≠ .null)
    (reads : codec.read document = some value) :
    (Field.optional name codec).of? entries = some (some value) :=
  (of?_optional_eq_some_iff name).mpr (.inr ⟨document, found, notNull, value, reads, rfl⟩)

/-- A text that was read is there. -/
theorem get?_of_optional_string {entries : Entries Json} {text : String}
    (reads : (Field.optional name Codec.string).of? entries = some (some text)) :
    entries.get? name = some (.string text) := by
  rcases (of?_optional_eq_some_iff name).mp reads with
    ⟨-, unset⟩ | ⟨document, found, -, other, textRead, equal⟩
  · cases unset
  · cases equal
    rw [found]
    cases document <;> cases textRead
    rfl

/-! ## Changed entries -/

variable {field : Field α} {entries entries' : Entries Json}

theorem of?_congr (same : entries'.get? field.name = entries.get? field.name) :
    field.of? entries' = field.of? entries := by
  rw [of?, of?, same]

theorem of?_insert_of_ne {key : String} (other : Json) (different : field.name ≠ key) :
    field.of? (entries.insert key other) = field.of? entries :=
  of?_congr (Entries.get?_insert_of_ne _ _ different)

theorem of?_insert_self (changed : Json) :
    field.of? (entries.insert field.name changed) = field.read (some changed) := by
  rw [of?, Entries.get?_insert_self]

end Field

namespace Record

/-- A field that is modelled does not show beside the fields. -/
theorem extra_insert {names : List String} {key : String} (known : key ∈ names) (changed : Json)
    (entries : Entries Json) : extra names (entries.insert key changed) = extra names entries := by
  rw [extra, extra, Entries.without_insert changed entries known]

/-- The entries beside the fields bear none of the names. -/
def IsBeside (names : List String) (extra : Dictionary Json) : Prop :=
  ∀ name ∈ names, extra.get? name = none

instance (names : List String) (extra : Dictionary Json) : Decidable (IsBeside names extra) :=
  inferInstanceAs (Decidable (∀ name ∈ names, extra.get? name = none))

/-- What is read beside the fields bears none of their names. -/
theorem isBeside_extra (names : List String) (entries : Entries Json) :
    IsBeside names (extra names entries) := by
  intro name member
  have dropped : (entries.without names).get? name = none := by
    rw [Entries.get?_without, if_pos member]
  exact Entries.get?_overlay_of_absent dropped

variable {fields : List (String × Option Json)} {beside : Dictionary Json}

/-- The fields that wrote something, in order of declaration. -/
def present (fields : List (String × Option Json)) : Entries Json :=
  fields.filterMap fun field => field.2.map (field.1, ·)

theorem mem_present {name : String} {value : Json} :
    (name, value) ∈ present fields ↔ (name, some value) ∈ fields := by
  rw [present, List.mem_filterMap]
  constructor
  · intro kept
    rcases kept with ⟨⟨other, value?⟩, member, wrote⟩
    rcases Option.map_eq_some_iff.mp wrote with ⟨found, rfl, equal⟩
    cases equal
    exact member
  · intro member
    exact ⟨_, member, rfl⟩

theorem distinct_present (distinct : (fields.map Prod.fst).Nodup) :
    (present fields).Distinct := by
  apply List.Nodup.sublist _ distinct
  clear distinct
  induction fields with
  | nil => exact List.Sublist.refl _
  | cons field rest ih =>
      rcases field with ⟨name, value?⟩
      cases value? with
      | none => exact ih.cons name
      | some value => exact ih.cons_cons name

/-- Under the name of a field lies what the field wrote. -/
theorem get?_written (distinct : (fields.map Prod.fst).Nodup) {name : String}
    {value? : Option Json} (member : (name, value?) ∈ fields) :
    (written fields).get? name = value? := by
  have unordered : (written fields).get? name = (present fields).get? name :=
    Entries.get?_order name (distinct_present distinct)
  rw [unordered]
  cases value? with
  | some value =>
      exact (distinct_present distinct).get?_of_mem (mem_present.mpr member)
  | none =>
      apply Entries.get?_eq_none_iff.mpr
      intro entry otherMember equal
      rcases entry with ⟨other, value⟩
      cases equal
      have same := List.inj_on_of_nodup_map distinct (mem_present.mp otherMember) member rfl
      cases same

/-- No field wrote anything under another name. -/
theorem get?_written_of_not_mem {name : String} (unknown : name ∉ fields.map Prod.fst) :
    (written fields).get? name = none := by
  have absent : (present fields).get? name = none := by
    apply Entries.get?_eq_none_iff.mpr
    intro entry member equal
    rcases entry with ⟨other, value⟩
    cases equal
    exact unknown (List.mem_map.mpr ⟨_, mem_present.mp member, rfl⟩)
  exact Entries.get?_overlay_of_absent absent

/-- The fields are written under the names, each once, and nothing beside them bears a name. -/
structure Fits (names : List String) (fields : List (String × Option Json))
    (beside : Dictionary Json) : Prop where
  named : fields.map Prod.fst = names
  distinct : names.Nodup
  isBeside : IsBeside names beside

/-- The entries that were beside the fields are found beside them again. -/
theorem Fits.extra_write {names : List String} (fits : Fits names fields beside) :
    extra names (Entries.overlay (written fields) beside.entries) = beside := by
  have ordered : (Entries.overlay (written fields) beside.entries).Ordered :=
    (Entries.ordered_order _).overlay _
  have kept : (Entries.without names (Entries.overlay (written fields) beside.entries)).Ordered :=
    ordered.filter _
  apply Dictionary.ext_get?
  intro key
  change (Entries.order (Entries.without names _)).get? key = beside.get? key
  rw [Entries.get?_order key kept.distinct, Entries.get?_without]
  by_cases isName : key ∈ names
  · rw [if_pos isName, fits.isBeside key isName]
  · rw [if_neg isName, Entries.get?_overlay key beside.ordered.distinct,
      get?_written_of_not_mem (fits.named ▸ isName), Option.or_none]
    rfl

/-- Under the name of a field a record holds what the field wrote. -/
theorem Fits.get?_write {names : List String} (fits : Fits names fields beside)
    {field : Field α} {value : α} (member : field.entry value ∈ fields) :
    (Entries.overlay (written fields) beside.entries).get? field.name = field.write value := by
  have isName : field.name ∈ names := by
    rw [← fits.named]
    exact List.mem_map.mpr ⟨_, member, rfl⟩
  have absent : beside.entries.get? field.name = none := fits.isBeside _ isName
  rw [Entries.get?_overlay _ beside.ordered.distinct, absent, Option.none_or,
    get?_written (fits.named ▸ fits.distinct) member]

/-- A field reads from a record what it wrote there. -/
theorem Fits.of?_write_eq {names : List String} (fits : Fits names fields beside)
    {field : Field α} {value : α} (member : field.entry value ∈ fields) :
    field.of? (Entries.overlay (written fields) beside.entries) =
      field.read (field.write value) := by
  rw [Field.of?, fits.get?_write member]

/-- A field that goes there and back is read from a record as it was written there. -/
theorem Fits.of?_write {names : List String} (fits : Fits names fields beside) {field : Field α}
    {value : α} (back : field.RoundTrips value) (member : field.entry value ∈ fields) :
    field.of? (Entries.overlay (written fields) beside.entries) = some value :=
  (fits.of?_write_eq member).trans back

end Record

end ClusterLinks
