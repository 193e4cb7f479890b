import ClusterLinks.Proofs.Cluster.RoundTrip
import ClusterLinks.Proofs.Json.Keeping

/-!
# Clusters that are written back

The operator writes all subnets whenever it changes one, so whatever it did not read would be lost
to the controllers that own it. Nothing is lost: at every level the entries that are not modelled
are written as they were, lists keep their items in order, and what is modelled is kept unless it
said nothing. Only the status of a condition is brought to one of three texts.
-/

namespace ClusterLinks

namespace ObjectReference

def kept : Keeping :=
  .record [.always "name" (.string "") .same, .always "namespace" (.string "") .same]

theorem codec_keeps : codec.Keeps kept := by
  intro document reference canonical reads
  change read document = some reference at reads
  simp only [read, Option.bind_eq_bind, Option.bind_eq_some_iff] at reads
  obtain ⟨entries, isObject, name, nameRead, space, spaceRead, equal⟩ := reads
  cases Json.entries?_eq_some_iff.mp isObject
  cases equal
  apply Record.keeps_write fieldNames canonical rfl (by decide)
  refine .cons ?name (.cons ?space .nil)
  case name => exact (Field.defaulted_keeps _ Codec.string_keeps _).holds canonical nameRead
  case space => exact (Field.defaulted_keeps _ Codec.string_keeps _).holds canonical spaceRead

end ObjectReference

namespace PrivateLink

def kept : Keeping :=
  .record [.required "name" .same, .unlessBlank "allowedSubscriptions" (.array []) .same,
    .unlessBlank "autoApprovedSubscriptions" (.array []) .same]

theorem codec_keeps : codec.Keeps kept := by
  intro document link canonical reads
  change read document = some link at reads
  simp only [read, Option.bind_eq_bind, Option.bind_eq_some_iff] at reads
  obtain ⟨entries, isObject, name, nameRead, allowed, allowedRead, approved, approvedRead,
    equal⟩ := reads
  cases Json.entries?_eq_some_iff.mp isObject
  cases equal
  apply Record.keeps_write fieldNames canonical rfl (by decide)
  refine .cons ?name (.cons ?allowed (.cons ?approved .nil))
  case name => exact (Field.required_keeps _ Codec.string_keeps).holds canonical nameRead
  case allowed => exact (Field.omitted_list_keeps _ Codec.texts_keeps).holds canonical allowedRead
  case approved => exact (Field.omitted_list_keeps _ Codec.texts_keeps).holds canonical approvedRead

end PrivateLink

namespace LoadBalancer

def kept : Keeping :=
  .record [.unlessBlank "type" .null .same,
    .unlessBlank "privateLinks" (.array []) (.list PrivateLink.kept)]

theorem codec_keeps : codec.Keeps kept := by
  intro document loadBalancer canonical reads
  change read document = some loadBalancer at reads
  simp only [read, Option.bind_eq_bind, Option.bind_eq_some_iff] at reads
  obtain ⟨entries, isObject, type, typeRead, links, linksRead, equal⟩ := reads
  cases Json.entries?_eq_some_iff.mp isObject
  cases equal
  apply Record.keeps_write fieldNames canonical rfl (by decide)
  refine .cons ?type (.cons ?links .nil)
  case type => exact (Field.optional_keeps _ Codec.string_keeps).holds canonical typeRead
  case links =>
    have each := Codec.list_keeps PrivateLink.codec_keeps
    exact (Field.omitted_list_keeps _ each).holds canonical linksRead

end LoadBalancer

namespace EndpointConnection

def kept : Keeping :=
  .record [.always "name" (.string "") .same,
    .always "privateLinkServiceID" (.string "") .same,
    .unlessBlank "requestMessage" (.string "") .same]

theorem codec_keeps : codec.Keeps kept := by
  intro document connection canonical reads
  change read document = some connection at reads
  simp only [read, Option.bind_eq_bind, Option.bind_eq_some_iff] at reads
  obtain ⟨entries, isObject, name, nameRead, link, linkRead, request, requestRead, equal⟩ := reads
  cases Json.entries?_eq_some_iff.mp isObject
  cases equal
  apply Record.keeps_write fieldNames canonical rfl (by decide)
  refine .cons ?name (.cons ?link (.cons ?request .nil))
  case name => exact (Field.defaulted_keeps _ Codec.string_keeps _).holds canonical nameRead
  case link => exact (Field.defaulted_keeps _ Codec.string_keeps _).holds canonical linkRead
  case request => exact (Field.omitted_string_keeps _).holds canonical requestRead

end EndpointConnection

namespace PrivateEndpoint

def kept : Keeping :=
  .record [.required "name" .same, .unlessBlank "location" (.string "") .same,
    .unlessBlank "privateLinkServiceConnections" (.array []) (.list EndpointConnection.kept),
    .unlessBlank "manualApproval" (.bool false) .same]

theorem codec_keeps : codec.Keeps kept := by
  intro document endpoint canonical reads
  change read document = some endpoint at reads
  simp only [read, Option.bind_eq_bind, Option.bind_eq_some_iff] at reads
  obtain ⟨entries, isObject, name, nameRead, location, locationRead, connections,
    connectionsRead, approval, approvalRead, equal⟩ := reads
  cases Json.entries?_eq_some_iff.mp isObject
  cases equal
  apply Record.keeps_write fieldNames canonical rfl (by decide)
  refine .cons ?name (.cons ?location (.cons ?connections (.cons ?approval .nil)))
  case name => exact (Field.required_keeps _ Codec.string_keeps).holds canonical nameRead
  case location => exact (Field.omitted_string_keeps _).holds canonical locationRead
  case connections =>
    have each := Codec.list_keeps EndpointConnection.codec_keeps
    exact (Field.omitted_list_keeps _ each).holds canonical connectionsRead
  case approval => exact (Field.omitted_bool_keeps _).holds canonical approvalRead

end PrivateEndpoint

namespace Subnet

def kept : Keeping :=
  .record [.always "name" (.string "") .same, .unlessBlank "role" .null .same,
    .unlessBlank "privateEndpoints" (.array []) (.list PrivateEndpoint.kept)]

theorem codec_keeps : codec.Keeps kept := by
  intro document subnet canonical reads
  change read document = some subnet at reads
  simp only [read, Option.bind_eq_bind, Option.bind_eq_some_iff] at reads
  obtain ⟨entries, isObject, name, nameRead, role, roleRead, endpoints, endpointsRead,
    equal⟩ := reads
  cases Json.entries?_eq_some_iff.mp isObject
  cases equal
  apply Record.keeps_write fieldNames canonical rfl (by decide)
  refine .cons ?name (.cons ?role (.cons ?endpoints .nil))
  case name => exact (Field.defaulted_keeps _ Codec.string_keeps _).holds canonical nameRead
  case role => exact (Field.optional_keeps _ Codec.string_keeps).holds canonical roleRead
  case endpoints =>
    have each := Codec.list_keeps PrivateEndpoint.codec_keeps
    exact (Field.omitted_list_keeps _ each).holds canonical endpointsRead

end Subnet

namespace NetworkSpec

def kept : Keeping :=
  .record [.unlessBlank "apiServerLB" .null LoadBalancer.kept,
    .unlessBlank "subnets" (.array []) (.list Subnet.kept)]

theorem codec_keeps : codec.Keeps kept := by
  intro document network canonical reads
  change read document = some network at reads
  simp only [read, Option.bind_eq_bind, Option.bind_eq_some_iff] at reads
  obtain ⟨entries, isObject, loadBalancer, loadBalancerRead, subnets, subnetsRead, equal⟩ := reads
  cases Json.entries?_eq_some_iff.mp isObject
  cases equal
  apply Record.keeps_write fieldNames canonical rfl (by decide)
  refine .cons ?loadBalancer (.cons ?subnets .nil)
  case loadBalancer =>
    exact (Field.optional_keeps _ LoadBalancer.codec_keeps).holds canonical loadBalancerRead
  case subnets =>
    have each := Codec.list_keeps Subnet.codec_keeps
    exact (Field.omitted_list_keeps _ each).holds canonical subnetsRead

end NetworkSpec

namespace ClusterSpec

def kept : Keeping :=
  .record [.always "subscriptionID" (.string "") .same,
    .always "location" (.string "") .same, .always "resourceGroup" (.string "") .same,
    .unlessBlank "identityRef" .null ObjectReference.kept,
    .always "networkSpec" (.object []) NetworkSpec.kept]

theorem codec_keeps : codec.Keeps kept := by
  intro document spec canonical reads
  change read document = some spec at reads
  simp only [read, Option.bind_eq_bind, Option.bind_eq_some_iff] at reads
  obtain ⟨entries, isObject, subscription, subscriptionRead, location, locationRead,
    group, groupRead, identity, identityRead, network, networkRead, equal⟩ := reads
  cases Json.entries?_eq_some_iff.mp isObject
  cases equal
  apply Record.keeps_write fieldNames canonical rfl (by decide)
  refine
    .cons ?subscription (.cons ?location (.cons ?group (.cons ?identity (.cons ?network .nil))))
  case subscription =>
    exact (Field.defaulted_keeps _ Codec.string_keeps _).holds canonical subscriptionRead
  case location => exact (Field.defaulted_keeps _ Codec.string_keeps _).holds canonical locationRead
  case group => exact (Field.defaulted_keeps _ Codec.string_keeps _).holds canonical groupRead
  case identity =>
    exact (Field.optional_keeps _ ObjectReference.codec_keeps).holds canonical identityRead
  case network =>
    exact (Field.defaulted_keeps _ NetworkSpec.codec_keeps _).holds canonical networkRead

end ClusterSpec

namespace ConditionStatus

/-- A status becomes one of three texts; if it was one of them, it stays. -/
def kept : Keeping := fun before after =>
  ∃ text, (before = .string text ∨ before = .object [(text, .null)]) ∧
    after = .string (ofText text).toText

theorem codec_keeps : codec.Keeps kept := by
  intro document status canonical reads
  clear canonical
  change read document = some status at reads
  unfold read at reads
  split at reads
  · next text =>
      cases reads
      exact ⟨text, .inl rfl, rfl⟩
  · next text =>
      cases reads
      exact ⟨text, .inr rfl, rfl⟩
  · cases reads

end ConditionStatus

namespace Condition

def kept : Keeping :=
  .record [.required "type" .same,
    .always "status" (.string "Unknown") ConditionStatus.kept,
    .unlessBlank "reason" .null .same, .unlessBlank "message" .null .same]

theorem codec_keeps : codec.Keeps kept := by
  intro document condition canonical reads
  change read document = some condition at reads
  simp only [read, Option.bind_eq_bind, Option.bind_eq_some_iff] at reads
  obtain ⟨entries, isObject, type, typeRead, status, statusRead, reason, reasonRead,
    message, messageRead, equal⟩ := reads
  cases Json.entries?_eq_some_iff.mp isObject
  cases equal
  apply Record.keeps_write fieldNames canonical rfl (by decide)
  refine .cons ?type (.cons ?status (.cons ?reason (.cons ?message .nil)))
  case type => exact (Field.required_keeps _ Codec.string_keeps).holds canonical typeRead
  case status =>
    exact (Field.defaulted_keeps _ ConditionStatus.codec_keeps _).holds canonical statusRead
  case reason => exact (Field.optional_keeps _ Codec.string_keeps).holds canonical reasonRead
  case message => exact (Field.optional_keeps _ Codec.string_keeps).holds canonical messageRead

end Condition

namespace ClusterStatus

def kept : Keeping :=
  .record [.unlessBlank "conditions" (.array []) (.list Condition.kept)]

theorem codec_keeps : codec.Keeps kept := by
  intro document status canonical reads
  change read document = some status at reads
  simp only [read, Option.bind_eq_bind, Option.bind_eq_some_iff] at reads
  obtain ⟨entries, isObject, conditions, conditionsRead, equal⟩ := reads
  cases Json.entries?_eq_some_iff.mp isObject
  cases equal
  apply Record.keeps_write fieldNames canonical rfl (by decide)
  refine .cons ?conditions .nil
  case conditions =>
    have each := Codec.list_keeps Condition.codec_keeps
    exact (Field.omitted_list_keeps _ each).holds canonical conditionsRead

end ClusterStatus

namespace Cluster

/-- Whatever was read of a canonical document is canonical. -/
theorem canonical_of_entriesOfAll? {document part : Json} {entries : Entries Json} {key : String}
    (canonical : document.canonical = document)
    (isRecord : Record.entriesOfAll? fieldNames document = some entries)
    (found : entries.get? key = some part) : part.canonical = part := by
  unfold Record.entriesOfAll? at isRecord
  split at isRecord
  · cases isRecord
    exact Json.canonical_of_get? canonical found
  · split at isRecord
    · cases isRecord
      exact Json.canonical_of_mem canonical (List.of_mem_zip (Entries.mem_of_get? found)).2
    · cases isRecord
  · cases isRecord

/-- The specification and the status of a document are kept in what is written. -/
structure IsKept (entries : Entries Json) (written : Json) : Prop where
  spec : ∃ before after, entries.get? "spec" = some before ∧
    written.get? "spec" = some after ∧ ClusterSpec.kept before after
  status : (Keeping.Entry.unlessBlank "status" .null ClusterStatus.kept).Holds
    (entries.get? "status") (written.get? "status")

/-- A cluster that was read is written without loss to those who own the rest of its document. -/
theorem write_keeps {document : Json} {cluster : Cluster}
    (reads : read document.canonical = some cluster) :
    ∃ entries, Record.entriesOfAll? fieldNames document.canonical = some entries ∧
      IsKept entries cluster.write := by
  have canonical := Json.canonical_canonical document
  simp only [read, Option.bind_eq_bind, Option.bind_eq_some_iff] at reads
  obtain ⟨entries, isRecord, metadata, -, spec, specRead, status, statusRead, equal⟩ := reads
  cases equal
  have fits := fits_write { metadata, spec, status }
  have specWritten : (write { metadata, spec, status }).get? specField.name =
      specField.write spec := fits.get?_write (by simp)
  have statusWritten : (write { metadata, spec, status }).get? statusField.name =
      statusField.write status := fits.get?_write (by simp)
  have statusKept : statusField.Keeps (.unlessBlank "status" .null ClusterStatus.kept) :=
    Field.optional_keeps _ ClusterStatus.codec_keeps
  refine ⟨entries, isRecord, ?_, ?_⟩
  · obtain ⟨before, found, beforeRead⟩ := Option.bind_eq_some_iff.mp specRead
    have known := canonical_of_entriesOfAll? canonical isRecord found
    have specKept := ClusterSpec.codec_keeps before spec known beforeRead
    exact ⟨before, spec.write, found, specWritten, specKept⟩
  · have known : ∀ part ∈ entries.get? "status", part.canonical = part :=
      fun part found => canonical_of_entriesOfAll? canonical isRecord found
    have holds := statusKept.2 (entries.get? "status") status known statusRead
    exact statusWritten ▸ holds

open Sample in
/-- What has no value gets its default, a status becomes unknown, and the rest stays. -/
theorem write_keeps_sample :
    read document.canonical = some cluster ∧
      (∃ entries, Record.entriesOfAll? fieldNames document.canonical = some entries ∧
        IsKept entries cluster.write) ∧
      cluster.write.at? ["spec", "identityRef"] = some (.object
        [("kind", .string "AzureClusterIdentity"), ("name", .string "id"),
          ("namespace", .string "")]) ∧
      cluster.write.at? ["status", "conditions"] = some (.array
        [.object [("lastTransitionTime", .string "then"), ("reason", .string ""),
          ("status", .string "Unknown"), ("type", .string "Ready")]]) := by
  have reads : read document.canonical = some cluster := by
    decide +kernel
  exact ⟨reads, write_keeps reads, by decide +kernel, by decide +kernel⟩

end Cluster

end ClusterLinks
