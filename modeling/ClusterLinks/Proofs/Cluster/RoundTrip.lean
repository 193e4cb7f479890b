import ClusterLinks.Proofs.Cluster.Documents
import ClusterLinks.Proofs.Timestamp.Reading

/-!
# Clusters, there and back

What `Documents` says of subnets holds of all that a cluster declares and reports: it is read back
as it was written, provided that nothing beside the fields bears the name of a field, which is so
for everything that was read. Of the metadata only the fraction of a second in the time of deletion
is lost, so a cluster that was read can be written and read for ever.
-/

namespace ClusterLinks

namespace ObjectReference

/-- Nothing beside the fields bears the name of a field. -/
def IsTidy (reference : ObjectReference) : Prop :=
  Record.IsBeside fieldNames reference.extra

instance (reference : ObjectReference) : Decidable reference.IsTidy :=
  inferInstanceAs (Decidable (Record.IsBeside _ _))

theorem isTidy_of_read {document : Json} {reference : ObjectReference}
    (reads : read document = some reference) : reference.IsTidy := by
  simp only [read, Option.bind_eq_bind, Option.bind_eq_some_iff] at reads
  obtain ⟨entries, -, name, -, space, -, equal⟩ := reads
  cases equal
  exact Record.isBeside_extra _ _

theorem codec_roundTrips {reference : ObjectReference} (tidy : reference.IsTidy) :
    codec.RoundTrips reference := by
  have fits : Record.Fits fieldNames
      [nameField.entry reference.name, spaceField.entry reference.space] reference.extra :=
    ⟨rfl, by decide, tidy⟩
  have nameBack : nameField.RoundTrips reference.name :=
    Field.defaulted_roundTrips _ (Codec.string_roundTrips _) _
  have spaceBack : spaceField.RoundTrips reference.space :=
    Field.defaulted_roundTrips _ (Codec.string_roundTrips _) _
  change read (write reference) = some reference
  simp only [read, write, Record.write, Json.entries?, Option.bind_eq_bind, Option.bind_some]
  rw [fits.of?_write nameBack (by simp), fits.of?_write spaceBack (by simp), fits.extra_write]
  rfl

end ObjectReference

namespace PrivateLink

/-- Nothing beside the fields bears the name of a field. -/
def IsTidy (link : PrivateLink) : Prop :=
  Record.IsBeside fieldNames link.extra

instance (link : PrivateLink) : Decidable link.IsTidy :=
  inferInstanceAs (Decidable (Record.IsBeside _ _))

theorem isTidy_of_read {document : Json} {link : PrivateLink}
    (reads : read document = some link) : link.IsTidy := by
  simp only [read, Option.bind_eq_bind, Option.bind_eq_some_iff] at reads
  obtain ⟨entries, -, name, -, allowed, -, approved, -, equal⟩ := reads
  cases equal
  exact Record.isBeside_extra _ _

theorem codec_roundTrips {link : PrivateLink} (tidy : link.IsTidy) : codec.RoundTrips link := by
  have fits : Record.Fits fieldNames
      [nameField.entry link.name, allowedField.entry link.allowedSubscriptions,
        autoApprovedField.entry link.autoApprovedSubscriptions] link.extra :=
    ⟨rfl, by decide, tidy⟩
  have texts (values : List String) : (Codec.list Codec.string).RoundTrips values :=
    Codec.list_roundTrips fun text _ => Codec.string_roundTrips text
  have nameBack : nameField.RoundTrips link.name :=
    Field.required_roundTrips _ (Codec.string_roundTrips _)
  have allowedBack : allowedField.RoundTrips link.allowedSubscriptions :=
    Field.omitted_roundTrips _ (texts _) _
  have approvedBack : autoApprovedField.RoundTrips link.autoApprovedSubscriptions :=
    Field.omitted_roundTrips _ (texts _) _
  change read (write link) = some link
  simp only [read, write, Record.write, Json.entries?, Option.bind_eq_bind, Option.bind_some]
  rw [fits.of?_write nameBack (by simp), fits.of?_write allowedBack (by simp),
    fits.of?_write approvedBack (by simp), fits.extra_write]
  rfl

end PrivateLink

namespace LoadBalancer

/-- Nothing beside the fields bears the name of a field, here and in the links. -/
def IsTidy (loadBalancer : LoadBalancer) : Prop :=
  Record.IsBeside fieldNames loadBalancer.extra ∧ ∀ link ∈ loadBalancer.privateLinks, link.IsTidy

instance (loadBalancer : LoadBalancer) : Decidable loadBalancer.IsTidy :=
  inferInstanceAs (Decidable (_ ∧ _))

theorem isTidy_of_read {document : Json} {loadBalancer : LoadBalancer}
    (reads : read document = some loadBalancer) : loadBalancer.IsTidy := by
  simp only [read, Option.bind_eq_bind, Option.bind_eq_some_iff] at reads
  obtain ⟨entries, -, type, -, links, linksRead, equal⟩ := reads
  cases equal
  constructor
  · exact Record.isBeside_extra _ _
  · intro link member
    obtain ⟨part, partRead⟩ := Field.exists_of_mem_omitted _ linksRead member
    exact PrivateLink.isTidy_of_read partRead

theorem codec_roundTrips {loadBalancer : LoadBalancer} (tidy : loadBalancer.IsTidy) :
    codec.RoundTrips loadBalancer := by
  have fits : Record.Fits fieldNames
      [typeField.entry loadBalancer.type, linksField.entry loadBalancer.privateLinks]
      loadBalancer.extra :=
    ⟨rfl, by decide, tidy.1⟩
  have typeBack : typeField.RoundTrips loadBalancer.type :=
    Field.optional_string_roundTrips _ _
  have linksBack : linksField.RoundTrips loadBalancer.privateLinks := by
    apply Field.omitted_roundTrips
    apply Codec.list_roundTrips
    exact fun link member => PrivateLink.codec_roundTrips (tidy.2 link member)
  change read (write loadBalancer) = some loadBalancer
  simp only [read, write, Record.write, Json.entries?, Option.bind_eq_bind, Option.bind_some]
  rw [fits.of?_write typeBack (by simp), fits.of?_write linksBack (by simp), fits.extra_write]
  rfl

end LoadBalancer

namespace NetworkSpec

/-- Nothing beside the fields bears the name of a field, here and in all parts. -/
def IsTidy (network : NetworkSpec) : Prop :=
  Record.IsBeside fieldNames network.extra ∧
    (∀ loadBalancer ∈ network.apiServerLoadBalancer, loadBalancer.IsTidy) ∧
    ∀ subnet ∈ network.subnets, subnet.IsTidy

instance (network : NetworkSpec) : Decidable network.IsTidy :=
  inferInstanceAs (Decidable (_ ∧ _))

theorem isTidy_of_read {document : Json} {network : NetworkSpec}
    (reads : read document = some network) : network.IsTidy := by
  simp only [read, Option.bind_eq_bind, Option.bind_eq_some_iff] at reads
  obtain ⟨entries, -, loadBalancer, loadBalancerRead, subnets, subnetsRead, equal⟩ := reads
  cases equal
  refine ⟨Record.isBeside_extra _ _, ?_, ?_⟩
  · intro value isSet
    obtain ⟨part, partRead⟩ := Field.exists_of_mem_optional _ loadBalancerRead isSet
    exact LoadBalancer.isTidy_of_read partRead
  · intro subnet member
    obtain ⟨part, partRead⟩ := Field.exists_of_mem_omitted _ subnetsRead member
    exact Subnet.isTidy_of_read partRead

theorem codec_roundTrips {network : NetworkSpec} (tidy : network.IsTidy) :
    codec.RoundTrips network := by
  have fits : Record.Fits fieldNames
      [loadBalancerField.entry network.apiServerLoadBalancer, subnetsField.entry network.subnets]
      network.extra :=
    ⟨rfl, by decide, tidy.1⟩
  have loadBalancerBack : loadBalancerField.RoundTrips network.apiServerLoadBalancer := by
    apply Field.optional_roundTrips
    · exact fun value isSet => LoadBalancer.codec_roundTrips (tidy.2.1 value isSet)
    · rintro value - ⟨⟩
  have subnetsBack : subnetsField.RoundTrips network.subnets := by
    apply Field.omitted_roundTrips
    apply Codec.list_roundTrips
    exact fun subnet member => Subnet.codec_roundTrips (tidy.2.2 subnet member)
  change read (write network) = some network
  simp only [read, write, Record.write, Json.entries?, Option.bind_eq_bind, Option.bind_some]
  rw [fits.of?_write loadBalancerBack (by simp), fits.of?_write subnetsBack (by simp),
    fits.extra_write]
  rfl

end NetworkSpec

namespace ClusterSpec

/-- Nothing beside the fields bears the name of a field, here and in all parts. -/
def IsTidy (spec : ClusterSpec) : Prop :=
  Record.IsBeside fieldNames spec.extra ∧
    (∀ reference ∈ spec.identityRef, reference.IsTidy) ∧ spec.network.IsTidy

instance (spec : ClusterSpec) : Decidable spec.IsTidy :=
  inferInstanceAs (Decidable (_ ∧ _))

theorem isTidy_of_read {document : Json} {spec : ClusterSpec}
    (reads : read document = some spec) : spec.IsTidy := by
  obtain ⟨inner, rfl⟩ := exists_of_read document spec reads
  have network := NetworkSpec.isTidy_of_read (read_network reads)
  simp only [read, Option.bind_eq_bind, Option.bind_eq_some_iff] at reads
  obtain ⟨entries, -, subscription, -, location, -, group, -, identity, identityRead, declared, -,
    equal⟩ := reads
  cases equal
  refine ⟨Record.isBeside_extra _ _, ?_, network⟩
  intro reference isSet
  obtain ⟨part, partRead⟩ := Field.exists_of_mem_optional _ identityRead isSet
  exact ObjectReference.isTidy_of_read partRead

/-- A specification that is tidy is read back as it was written. -/
theorem codec_roundTrips {spec : ClusterSpec} (tidy : spec.IsTidy) : codec.RoundTrips spec := by
  have fits : Record.Fits fieldNames
      [subscriptionField.entry spec.subscriptionId, locationField.entry spec.location,
        resourceGroupField.entry spec.resourceGroup, identityField.entry spec.identityRef,
        networkField.entry spec.network] spec.extra :=
    ⟨rfl, by decide, tidy.1⟩
  have subscriptionBack : subscriptionField.RoundTrips spec.subscriptionId :=
    Field.defaulted_roundTrips _ (Codec.string_roundTrips _) _
  have locationBack : locationField.RoundTrips spec.location :=
    Field.defaulted_roundTrips _ (Codec.string_roundTrips _) _
  have groupBack : resourceGroupField.RoundTrips spec.resourceGroup :=
    Field.defaulted_roundTrips _ (Codec.string_roundTrips _) _
  have identityBack : identityField.RoundTrips spec.identityRef := by
    apply Field.optional_roundTrips
    · exact fun value isSet => ObjectReference.codec_roundTrips (tidy.2.1 value isSet)
    · rintro value - ⟨⟩
  have networkBack : networkField.RoundTrips spec.network :=
    Field.defaulted_roundTrips _ (NetworkSpec.codec_roundTrips tidy.2.2) _
  change read (write spec) = some spec
  simp only [read, write, Record.write, Json.entries?, Option.bind_eq_bind, Option.bind_some]
  rw [fits.of?_write subscriptionBack (by simp), fits.of?_write locationBack (by simp),
    fits.of?_write groupBack (by simp), fits.of?_write identityBack (by simp),
    fits.of?_write networkBack (by simp), fits.extra_write]
  rfl

end ClusterSpec

namespace Condition

/-- Nothing beside the fields bears the name of a field. -/
def IsTidy (condition : Condition) : Prop :=
  Record.IsBeside fieldNames condition.extra

instance (condition : Condition) : Decidable condition.IsTidy :=
  inferInstanceAs (Decidable (Record.IsBeside _ _))

theorem isTidy_of_read {document : Json} {condition : Condition}
    (reads : read document = some condition) : condition.IsTidy := by
  simp only [read, Option.bind_eq_bind, Option.bind_eq_some_iff] at reads
  obtain ⟨entries, -, type, -, status, -, reason, -, message, -, equal⟩ := reads
  cases equal
  exact Record.isBeside_extra _ _

theorem codec_roundTrips {condition : Condition} (tidy : condition.IsTidy) :
    codec.RoundTrips condition := by
  have fits : Record.Fits fieldNames
      [typeField.entry condition.type, statusField.entry condition.status,
        reasonField.entry condition.reason, messageField.entry condition.message]
      condition.extra :=
    ⟨rfl, by decide, tidy⟩
  have typeBack : typeField.RoundTrips condition.type :=
    Field.required_roundTrips _ (Codec.string_roundTrips _)
  have statusBack : statusField.RoundTrips condition.status := by
    apply Field.defaulted_roundTrips
    cases condition.status <;> rfl
  have reasonBack : reasonField.RoundTrips condition.reason :=
    Field.optional_string_roundTrips _ _
  have messageBack : messageField.RoundTrips condition.message :=
    Field.optional_string_roundTrips _ _
  change read (write condition) = some condition
  simp only [read, write, Record.write, Json.entries?, Option.bind_eq_bind, Option.bind_some]
  rw [fits.of?_write typeBack (by simp), fits.of?_write statusBack (by simp),
    fits.of?_write reasonBack (by simp), fits.of?_write messageBack (by simp), fits.extra_write]
  rfl

end Condition

namespace ClusterStatus

/-- Nothing beside the fields bears the name of a field, here and in the conditions. -/
def IsTidy (status : ClusterStatus) : Prop :=
  Record.IsBeside fieldNames status.extra ∧ ∀ condition ∈ status.conditions, condition.IsTidy

instance (status : ClusterStatus) : Decidable status.IsTidy :=
  inferInstanceAs (Decidable (_ ∧ _))

theorem isTidy_of_read {document : Json} {status : ClusterStatus}
    (reads : read document = some status) : status.IsTidy := by
  simp only [read, Option.bind_eq_bind, Option.bind_eq_some_iff] at reads
  obtain ⟨entries, -, conditions, conditionsRead, equal⟩ := reads
  cases equal
  constructor
  · exact Record.isBeside_extra _ _
  · intro condition member
    obtain ⟨part, partRead⟩ := Field.exists_of_mem_omitted _ conditionsRead member
    exact Condition.isTidy_of_read partRead

/-- A status that is tidy is read back as it was written. -/
theorem codec_roundTrips {status : ClusterStatus} (tidy : status.IsTidy) :
    codec.RoundTrips status := by
  have fits : Record.Fits fieldNames [conditionsField.entry status.conditions] status.extra :=
    ⟨rfl, by decide, tidy.1⟩
  have conditionsBack : conditionsField.RoundTrips status.conditions := by
    apply Field.omitted_roundTrips
    apply Codec.list_roundTrips
    exact fun condition member => Condition.codec_roundTrips (tidy.2 condition member)
  change read (write status) = some status
  simp only [read, write, Record.write, Json.entries?, Option.bind_eq_bind, Option.bind_some]
  rw [fits.of?_write conditionsBack (by simp), fits.extra_write]
  rfl

end ClusterStatus

namespace Metadata

/-- The generation and the time of deletion are such as can be read. -/
structure IsWritable (metadata : Metadata) : Prop where
  generation : ∀ number ∈ metadata.generation,
    Int64.minValue.toInt ≤ number ∧ number ≤ Int64.maxValue.toInt
  deletion : ∀ timestamp ∈ metadata.deletionTimestamp, timestamp.IsWritable

theorem isWritable_of_read {document : Json} {metadata : Metadata}
    (reads : read document = some metadata) : metadata.IsWritable := by
  simp only [read, Option.bind_eq_bind, Option.bind_eq_some_iff] at reads
  obtain ⟨entries, -, name, -, generateName, -, space, -, annotations, -, labels, -, finalizers, -,
    version, -, uid, -, generation, generationRead, deletion, deletionRead, equal⟩ := reads
  cases equal
  constructor
  · intro number isSet
    obtain ⟨part, partRead⟩ := Field.exists_of_mem_optional _ generationRead isSet
    exact Codec.inside_of_read_integer partRead
  · intro timestamp isSet
    obtain ⟨part, partRead⟩ := Field.exists_of_mem_optional _ deletionRead isSet
    obtain ⟨text, -, textRead⟩ := Option.bind_eq_some_iff.mp partRead
    exact Timestamp.isWritable_of_ofText? textRead

/-- The metadata without the fraction of the second at which the object was deleted. -/
def toSecond (metadata : Metadata) : Metadata :=
  { metadata with deletionTimestamp := metadata.deletionTimestamp.map Timestamp.toSecond }

theorem read_write_deletionTimestamp {deletion? : Option Timestamp}
    (writable : ∀ timestamp ∈ deletion?, timestamp.IsWritable) :
    deletionTimestampField.read (deletionTimestampField.write deletion?) =
      some (deletion?.map Timestamp.toSecond) := by
  cases deletion? with
  | none => rfl
  | some timestamp =>
      have back : Timestamp.codec.read (Timestamp.codec.write timestamp) =
          some timestamp.toSecond := by
        simp only [Timestamp.codec, Json.string?, Option.bind_some]
        exact Timestamp.ofText?_toText (writable timestamp rfl)
      have notNull : Timestamp.codec.write timestamp ≠ .null := by
        simp [Timestamp.codec]
      rw [deletionTimestampField, Field.optional_read_write _ notNull, back]
      rfl

/-- Of metadata that can be written nothing but a fraction of a second is lost. -/
theorem read_write {metadata : Metadata} (writable : metadata.IsWritable) :
    read (write metadata) = some metadata.toSecond := by
  have fits : Record.Fits
      ["name", "generateName", "namespace", "annotations", "labels", "finalizers",
        "resourceVersion", "uid", "generation", "deletionTimestamp"]
      [nameField.entry metadata.name, generateNameField.entry metadata.generateName,
        spaceField.entry metadata.space, annotationsField.entry metadata.annotations,
        labelsField.entry metadata.labels, finalizersField.entry metadata.finalizers,
        resourceVersionField.entry metadata.resourceVersion, uidField.entry metadata.uid,
        generationField.entry metadata.generation,
        deletionTimestampField.entry metadata.deletionTimestamp] ∅ :=
    ⟨rfl, by decide, fun _ _ => rfl⟩
  have text (name : String) (text? : Option String) :
      (Field.optional name Codec.string).RoundTrips text? := Field.optional_string_roundTrips _ _
  have texts (name : String) (texts? : Option (Dictionary String)) :
      (Field.optional name (.dictionary .string)).RoundTrips texts? := by
    apply Field.optional_roundTrips
    · exact fun texts _ => Codec.dictionary_roundTrips fun entry _ => Codec.string_roundTrips _
    · rintro texts - ⟨⟩
  have finalizersBack : finalizersField.RoundTrips metadata.finalizers := by
    apply Field.optional_roundTrips
    · exact fun texts _ => Codec.list_roundTrips fun text _ => Codec.string_roundTrips text
    · rintro texts - ⟨⟩
  have generationBack : generationField.RoundTrips metadata.generation := by
    apply Field.optional_roundTrips
    · exact fun number isSet => Codec.integer_roundTrips (writable.generation number isSet)
    · rintro number - ⟨⟩
  have nameBack : nameField.RoundTrips metadata.name := text _ _
  have generateNameBack : generateNameField.RoundTrips metadata.generateName := text _ _
  have spaceBack : spaceField.RoundTrips metadata.space := text _ _
  have annotationsBack : annotationsField.RoundTrips metadata.annotations := texts _ _
  have labelsBack : labelsField.RoundTrips metadata.labels := texts _ _
  have versionBack : resourceVersionField.RoundTrips metadata.resourceVersion := text _ _
  have uidBack : uidField.RoundTrips metadata.uid := text _ _
  simp only [read, write, Record.write, Json.entries?, Option.bind_eq_bind, Option.bind_some]
  rw [fits.of?_write nameBack (by simp), fits.of?_write generateNameBack (by simp),
    fits.of?_write spaceBack (by simp), fits.of?_write annotationsBack (by simp),
    fits.of?_write labelsBack (by simp), fits.of?_write finalizersBack (by simp),
    fits.of?_write versionBack (by simp), fits.of?_write uidBack (by simp),
    fits.of?_write generationBack (by simp),
    fits.of?_write_eq (show deletionTimestampField.entry metadata.deletionTimestamp ∈ _ by simp),
    read_write_deletionTimestamp writable.deletion]
  rfl

end Metadata

namespace Cluster

/-- All that was read of a cluster was read from a document of its own. -/
theorem exists_of_read {document : Json} {cluster : Cluster}
    (reads : read document = some cluster) :
    (∃ part, Metadata.read part = some cluster.metadata) ∧
      (∃ part, ClusterSpec.read part = some cluster.spec) ∧
      ∀ status ∈ cluster.status, ∃ part, ClusterStatus.read part = some status := by
  simp only [read, Option.bind_eq_bind, Option.bind_eq_some_iff] at reads
  obtain ⟨entries, -, metadata, metadataRead, spec, specRead, status, statusRead, equal⟩ := reads
  cases equal
  obtain ⟨metadataPart, -, metadataRead⟩ := Option.bind_eq_some_iff.mp metadataRead
  obtain ⟨specPart, -, specRead⟩ := Option.bind_eq_some_iff.mp specRead
  refine ⟨⟨metadataPart, metadataRead⟩, ⟨specPart, specRead⟩, ?_⟩
  exact fun value isSet => Field.exists_of_mem_optional _ statusRead isSet

theorem fits_write (cluster : Cluster) :
    Record.Fits ["apiVersion", "kind", "metadata", "spec", "status"]
      [("apiVersion", some (.string apiVersion)), ("kind", some (.string kind)),
        metadataField.entry cluster.metadata, specField.entry cluster.spec,
        statusField.entry cluster.status] ∅ :=
  ⟨rfl, by decide, fun _ _ => rfl⟩

/-- A cluster that was read is read again from what is written, less a fraction of a second. -/
theorem read_write_of_read {document : Json} {cluster : Cluster}
    (reads : read document = some cluster) :
    read cluster.write = some { cluster with metadata := cluster.metadata.toSecond } := by
  obtain ⟨⟨metadataPart, metadataRead⟩, ⟨specPart, specRead⟩, statusRead⟩ := exists_of_read reads
  have fits := fits_write cluster
  have metadataBack : metadataField.read (metadataField.write cluster.metadata) =
      some cluster.metadata.toSecond :=
    Metadata.read_write (Metadata.isWritable_of_read metadataRead)
  have specBack : specField.RoundTrips cluster.spec :=
    Field.required_roundTrips _
      (ClusterSpec.codec_roundTrips (ClusterSpec.isTidy_of_read specRead))
  have statusBack : statusField.RoundTrips cluster.status := by
    apply Field.optional_roundTrips
    · intro status isSet
      obtain ⟨part, partRead⟩ := statusRead status isSet
      exact ClusterStatus.codec_roundTrips (ClusterStatus.isTidy_of_read partRead)
    · rintro status - ⟨⟩
  simp only [read, write, Record.write, Record.entriesOfAll?, Option.bind_eq_bind,
    Option.bind_some]
  rw [fits.of?_write_eq (show metadataField.entry cluster.metadata ∈ _ by simp), metadataBack,
    fits.of?_write specBack (by simp), fits.of?_write statusBack (by simp)]
  rfl

/-- Specifications and statuses that are tidy are read back as they were written, and those of a
cluster that was read stay the same however often it is written and read. -/
theorem spec_and_status_roundTrip :
    (∀ spec : ClusterSpec, spec.IsTidy → ClusterSpec.read spec.write = some spec) ∧
      (∀ status : ClusterStatus, status.IsTidy →
        ClusterStatus.read status.write = some status) ∧
      ∀ document cluster, read document = some cluster →
        ∃ again, read cluster.write = some again ∧
          again.spec = cluster.spec ∧ again.status = cluster.status := by
  refine ⟨fun _ tidy => ClusterSpec.codec_roundTrips tidy,
    fun _ tidy => ClusterStatus.codec_roundTrips tidy, ?_⟩
  intro document cluster reads
  exact ⟨_, read_write_of_read reads, rfl, rfl⟩

namespace Sample

/-- What others keep at every level, an empty type, and a status that is written as an object. -/
def document : Json :=
  .object
    [("kind", .string "AzureCluster"),
      ("metadata", .object
        [("deletionTimestamp", .string "2016-12-31T18:59:60.25-05:00"), ("name", .string "red")]),
      ("spec", .object
        [("identityRef", .object
            [("kind", .string "AzureClusterIdentity"), ("name", .string "id")]),
          ("networkSpec", .object
            [("apiServerLB", .object
              [("frontendIPs", .array [.null]),
                ("privateLinks", .array
                  [.object
                    [("allowedSubscriptions", .array [.string "sub"]), ("lbFrontend", .null),
                      ("name", .string "api")]]),
                ("type", .string "")]),
              ("subnets", .array
                [.object
                  [("cidrBlocks", .array [.string "10.0.0.0/16"]), ("name", .string "nodes"),
                    ("privateEndpoints", .array
                      [.object
                        [("applicationSecurityGroups", .array []), ("location", .string ""),
                          ("manualApproval", .bool true), ("name", .string "api"),
                          ("privateLinkServiceConnections", .array
                            [.object
                              [("groupIDs", .null), ("requestMessage", .string "please")]])]]),
                    ("role", .null)]]),
              ("vnet", .object [("peerings", .integer 2)])]),
          ("resourceGroup", .string "rg")]),
      ("status", .object
        [("conditions", .array
          [.object
            [("lastTransitionTime", .string "then"), ("reason", .string ""),
              ("status", .object [("Odd", .null)]), ("type", .string "Ready")]]),
          ("ready", .bool true)])]

def declared : ClusterSpec where
  resourceGroup := "rg"
  identityRef :=
    some { name := "id", extra := .ofEntries [("kind", .string "AzureClusterIdentity")] }
  network :=
    { apiServerLoadBalancer := some
        { type := some ""
          privateLinks :=
            [{ name := "api", allowedSubscriptions := ["sub"]
               extra := .ofEntries [("lbFrontend", .null)] }]
          extra := .ofEntries [("frontendIPs", .array [.null])] }
      subnets :=
        [{ name := "nodes"
           endpoints :=
             [{ name := "api"
                connections :=
                  [{ requestMessage := "please", extra := .ofEntries [("groupIDs", .null)] }]
                manualApproval := true
                extra := .ofEntries [("applicationSecurityGroups", .array [])] }]
           extra := .ofEntries [("cidrBlocks", .array [.string "10.0.0.0/16"])] }]
      extra := .ofEntries [("vnet", .object [("peerings", .integer 2)])] }

def observed : ClusterStatus where
  conditions :=
    [{ type := "Ready", reason := some ""
       extra := .ofEntries [("lastTransitionTime", .string "then")] }]
  extra := .ofEntries [("ready", .bool true)]

/-- The cluster was deleted within a leap second. -/
def cluster : Cluster where
  metadata := { name := some "red", deletionTimestamp := some ⟨1483228799, 1250000000⟩ }
  spec := declared
  status := some observed

end Sample

open Sample in
/-- A quarter of a second is lost, and nothing of the specification and the status. -/
theorem spec_and_status_roundTrip_sample :
    (declared.IsTidy ∧ ClusterSpec.read declared.write = some declared) ∧
      (observed.IsTidy ∧ ClusterStatus.read observed.write = some observed) ∧
      read document = some cluster ∧ ∃ again, read cluster.write = some again ∧
        again.spec = declared ∧ again.status = some observed := by
  obtain ⟨specBack, statusBack, clusterBack⟩ := spec_and_status_roundTrip
  have specTidy : declared.IsTidy := by
    decide +kernel
  have statusTidy : observed.IsTidy := by
    decide +kernel
  have reads : read document = some cluster := by
    decide +kernel
  exact ⟨⟨specTidy, specBack declared specTidy⟩, ⟨statusTidy, statusBack observed statusTidy⟩,
    reads, clusterBack document cluster reads⟩

end Cluster

end ClusterLinks
