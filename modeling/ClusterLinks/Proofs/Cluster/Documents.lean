import ClusterLinks.Cluster.Document
import ClusterLinks.Proofs.Json.MergePatch
import ClusterLinks.Proofs.Json.RoundTrip

/-!
# Cluster documents, there and back

Subnets are written back whole, so reading must give back everything that was in them. It does so
for subnets in which nothing that is not modelled bears a modelled name, and every subnet that was
read is of that kind.
-/

namespace ClusterLinks

namespace EndpointConnection

/-- Nothing beside the fields bears the name of a field. -/
def IsTidy (connection : EndpointConnection) : Prop :=
  Record.IsBeside fieldNames connection.extra

instance (connection : EndpointConnection) : Decidable connection.IsTidy :=
  inferInstanceAs (Decidable (Record.IsBeside _ _))

theorem isTidy_of_read {document : Json} {connection : EndpointConnection}
    (reads : read document = some connection) : connection.IsTidy := by
  simp only [read, Option.bind_eq_bind, Option.bind_eq_some_iff] at reads
  rcases reads with ⟨entries, -, name, -, id, -, message, -, equal⟩
  cases equal
  exact Record.isBeside_extra _ _

theorem codec_roundTrips {connection : EndpointConnection} (tidy : connection.IsTidy) :
    codec.RoundTrips connection := by
  have fits : Record.Fits fieldNames
      [nameField.entry connection.name, linkField.entry connection.privateLinkServiceId,
        requestField.entry connection.requestMessage] connection.extra :=
    ⟨rfl, by decide, tidy⟩
  have nameBack : nameField.RoundTrips connection.name :=
    Field.defaulted_roundTrips _ (Codec.string_roundTrips _) _
  have linkBack : linkField.RoundTrips connection.privateLinkServiceId :=
    Field.defaulted_roundTrips _ (Codec.string_roundTrips _) _
  have requestBack : requestField.RoundTrips connection.requestMessage :=
    Field.omitted_roundTrips _ (Codec.string_roundTrips _) _
  change read (write connection) = some connection
  simp only [read, write, Record.write, Json.entries?, Option.bind_eq_bind, Option.bind_some]
  rw [fits.of?_write nameBack (by simp), fits.of?_write linkBack (by simp),
    fits.of?_write requestBack (by simp), fits.extra_write]
  rfl

end EndpointConnection

namespace PrivateEndpoint

/-- Nothing beside the fields bears the name of a field, here and in the connections. -/
def IsTidy (endpoint : PrivateEndpoint) : Prop :=
  Record.IsBeside fieldNames endpoint.extra ∧
    ∀ connection ∈ endpoint.connections, connection.IsTidy

instance (endpoint : PrivateEndpoint) : Decidable endpoint.IsTidy :=
  inferInstanceAs (Decidable (_ ∧ _))

theorem isTidy_of_read {document : Json} {endpoint : PrivateEndpoint}
    (reads : read document = some endpoint) : endpoint.IsTidy := by
  simp only [read, Option.bind_eq_bind, Option.bind_eq_some_iff] at reads
  rcases reads with ⟨entries, -, name, -, location, -, connections, connectionsRead, approval, -,
    equal⟩
  cases equal
  constructor
  · exact Record.isBeside_extra _ _
  · intro connection member
    rcases Field.exists_of_mem_omitted _ connectionsRead member with ⟨part, partRead⟩
    exact EndpointConnection.isTidy_of_read partRead

theorem codec_roundTrips {endpoint : PrivateEndpoint} (tidy : endpoint.IsTidy) :
    codec.RoundTrips endpoint := by
  have fits : Record.Fits fieldNames
      [nameField.entry endpoint.name, locationField.entry endpoint.location,
        connectionsField.entry endpoint.connections,
        approvalField.entry endpoint.manualApproval] endpoint.extra :=
    ⟨rfl, by decide, tidy.1⟩
  have nameBack : nameField.RoundTrips endpoint.name :=
    Field.required_roundTrips _ (Codec.string_roundTrips _)
  have locationBack : locationField.RoundTrips endpoint.location :=
    Field.omitted_roundTrips _ (Codec.string_roundTrips _) _
  have connectionsBack : connectionsField.RoundTrips endpoint.connections := by
    apply Field.omitted_roundTrips
    apply Codec.list_roundTrips
    exact fun connection member => EndpointConnection.codec_roundTrips (tidy.2 connection member)
  have approvalBack : approvalField.RoundTrips endpoint.manualApproval :=
    Field.omitted_roundTrips _ (Codec.bool_roundTrips _) _
  change read (write endpoint) = some endpoint
  simp only [read, write, Record.write, Json.entries?, Option.bind_eq_bind, Option.bind_some]
  rw [fits.of?_write nameBack (by simp), fits.of?_write locationBack (by simp),
    fits.of?_write connectionsBack (by simp), fits.of?_write approvalBack (by simp),
    fits.extra_write]
  rfl

end PrivateEndpoint

namespace Subnet

/-- Nothing beside the fields bears the name of a field, here and in the endpoints. -/
def IsTidy (subnet : Subnet) : Prop :=
  Record.IsBeside fieldNames subnet.extra ∧ ∀ endpoint ∈ subnet.endpoints, endpoint.IsTidy

instance (subnet : Subnet) : Decidable subnet.IsTidy :=
  inferInstanceAs (Decidable (_ ∧ _))

/-- What was read is tidy. -/
theorem isTidy_of_read {document : Json} {subnet : Subnet} (reads : read document = some subnet) :
    subnet.IsTidy := by
  simp only [read, Option.bind_eq_bind, Option.bind_eq_some_iff] at reads
  rcases reads with ⟨entries, -, name, -, role, -, endpoints, endpointsRead, equal⟩
  cases equal
  constructor
  · exact Record.isBeside_extra _ _
  · intro endpoint member
    rcases Field.exists_of_mem_omitted _ endpointsRead member with ⟨part, partRead⟩
    exact PrivateEndpoint.isTidy_of_read partRead

/-- What is tidy is read back as it was written. -/
theorem codec_roundTrips {subnet : Subnet} (tidy : subnet.IsTidy) : codec.RoundTrips subnet := by
  have fits : Record.Fits fieldNames
      [nameField.entry subnet.name, roleField.entry subnet.role,
        endpointsField.entry subnet.endpoints] subnet.extra :=
    ⟨rfl, by decide, tidy.1⟩
  have nameBack : nameField.RoundTrips subnet.name :=
    Field.defaulted_roundTrips _ (Codec.string_roundTrips _) _
  have roleBack : roleField.RoundTrips subnet.role := by
    apply Field.optional_roundTrips
    · exact fun role _ => Codec.string_roundTrips role
    · rintro role - ⟨⟩
  have endpointsBack : endpointsField.RoundTrips subnet.endpoints := by
    apply Field.omitted_roundTrips
    apply Codec.list_roundTrips
    exact fun endpoint member => PrivateEndpoint.codec_roundTrips (tidy.2 endpoint member)
  change read (write subnet) = some subnet
  simp only [read, write, Record.write, Json.entries?, Option.bind_eq_bind, Option.bind_some]
  rw [fits.of?_write nameBack (by simp), fits.of?_write roleBack (by simp),
    fits.of?_write endpointsBack (by simp), fits.extra_write]
  rfl

end Subnet

/-! ## Changed documents -/

variable {entries entries' : Entries Json}

/-- A network with other subnets, and everything else as it was. -/
theorem NetworkSpec.read_insert_subnets {network : NetworkSpec} {subnets : List Subnet}
    (reads : read (.object entries) = some network)
    (tidy : ∀ subnet ∈ subnets, subnet.IsTidy) :
    read (.object (entries.insert "subnets" ((Codec.list Subnet.codec).write subnets))) =
      some { network with subnets } := by
  have back : (Codec.list Subnet.codec).RoundTrips subnets :=
    Codec.list_roundTrips fun subnet member => Subnet.codec_roundTrips (tidy subnet member)
  simp only [read, Json.entries?, Option.bind_eq_bind, Option.bind_some,
    Option.bind_eq_some_iff] at reads ⊢
  rcases reads with ⟨loadBalancer, loadBalancerRead, old, -, equal⟩
  cases equal
  refine ⟨loadBalancer, ?_, subnets, ?_, ?_⟩
  · rwa [Field.of?_insert_of_ne _ (by decide)]
  · exact (Field.of?_insert_self _).trans back
  · rw [Record.extra_insert (by decide)]

/-- A specification with another network, and everything else as it was. -/
theorem ClusterSpec.read_insert_network {spec : ClusterSpec} {network : NetworkSpec}
    {document : Json} (reads : read (.object entries) = some spec)
    (networkReads : NetworkSpec.read document = some network) :
    read (.object (entries.insert "networkSpec" document)) = some { spec with network } := by
  simp only [read, Json.entries?, Option.bind_eq_bind, Option.bind_some,
    Option.bind_eq_some_iff] at reads ⊢
  rcases reads with ⟨subscription, subscriptionRead, location, locationRead, group, groupRead,
    identity, identityRead, old, -, equal⟩
  cases equal
  refine ⟨subscription, ?_, location, ?_, group, ?_, identity, ?_, network, ?_, ?_⟩
  · rwa [Field.of?_insert_of_ne _ (by decide)]
  · rwa [Field.of?_insert_of_ne _ (by decide)]
  · rwa [Field.of?_insert_of_ne _ (by decide)]
  · rwa [Field.of?_insert_of_ne _ (by decide)]
  · exact (Field.of?_insert_self _).trans networkReads
  · rw [Record.extra_insert (by decide)]

/-- Where no network is declared, it is the network of an empty document. -/
theorem ClusterSpec.read_network {spec : ClusterSpec} (reads : read (.object entries) = some spec) :
    NetworkSpec.read (.object (((entries.get? "networkSpec").getD .null).entries?.getD [])) =
      some spec.network := by
  simp only [read, Json.entries?, Option.bind_eq_bind, Option.bind_some,
    Option.bind_eq_some_iff] at reads
  rcases reads with ⟨subscription, -, location, -, group, -, identity, -, network, networkRead,
    equal⟩
  cases equal
  cases found : entries.get? "networkSpec" with
  | none =>
      have isDefault : networkField.of? entries = some {} := by
        rw [Field.of?, show entries.get? networkField.name = none from found]
        rfl
      rw [isDefault] at networkRead
      cases networkRead
      rfl
  | some document =>
      have documentRead : NetworkSpec.read document = some network := by
        rw [← networkRead, Field.of?, show entries.get? networkField.name = _ from found]
        rfl
      rcases Option.bind_eq_some_iff.mp documentRead with ⟨inner, isObject, -⟩
      rw [Option.getD_some, isObject, Option.getD_some]
      cases document <;> cases isObject
      exact documentRead

/-- What the operator looks at and writes is read from entries of its own. -/
theorem Metadata.of?_of_read {metadata : Metadata}
    (reads : read (.object entries) = some metadata) :
    nameField.of? entries = some metadata.name ∧ spaceField.of? entries = some metadata.space ∧
      annotationsField.of? entries = some metadata.annotations ∧
      finalizersField.of? entries = some metadata.finalizers ∧
      resourceVersionField.of? entries = some metadata.resourceVersion := by
  simp only [read, Json.entries?, Option.bind_eq_bind, Option.bind_some,
    Option.bind_eq_some_iff] at reads
  rcases reads with ⟨name, nameRead, generateName, -, space, spaceRead, annotations,
    annotationsRead, labels, -, finalizers, finalizersRead, version, versionRead, uid, -,
    generation, -, deletion, -, equal⟩
  cases equal
  exact ⟨nameRead, spaceRead, annotationsRead, finalizersRead, versionRead⟩

/-- Metadata with other annotations, finalizers and version, and everything else as it was. -/
theorem Metadata.read_of_changed {metadata : Metadata} {annotations : Option (Dictionary String)}
    {finalizers : Option (List String)} {resourceVersion : Option String}
    (reads : read (.object entries) = some metadata)
    (others : ∀ name, name ∉ ["annotations", "finalizers", "resourceVersion"] →
      entries'.get? name = entries.get? name)
    (annotationsRead : annotationsField.of? entries' = some annotations)
    (finalizersRead : finalizersField.of? entries' = some finalizers)
    (versionRead : resourceVersionField.of? entries' = some resourceVersion) :
    read (.object entries') = some { metadata with annotations, finalizers, resourceVersion } := by
  have same {α : Type} (field : Field α)
      (different : field.name ∉ ["annotations", "finalizers", "resourceVersion"]) :
      field.of? entries' = field.of? entries := Field.of?_congr (others _ different)
  simp only [read, Json.entries?, Option.bind_eq_bind, Option.bind_some,
    Option.bind_eq_some_iff] at reads
  rcases reads with ⟨name, nameRead, generateName, generateNameRead, space, spaceRead, old, -,
    labels, labelsRead, oldFinalizers, -, oldVersion, -, uid, uidRead,
    generation, generationRead, deletion, deletionRead, equal⟩
  cases equal
  simp only [read, Json.entries?, Option.bind_eq_bind, Option.bind_some, annotationsRead,
    finalizersRead, versionRead,
    (same nameField (by decide)).trans nameRead,
    (same generateNameField (by decide)).trans generateNameRead,
    (same spaceField (by decide)).trans spaceRead,
    (same labelsField (by decide)).trans labelsRead,
    (same uidField (by decide)).trans uidRead,
    (same generationField (by decide)).trans generationRead,
    (same deletionTimestampField (by decide)).trans deletionRead]

/-- Metadata with other annotations, and everything else as it was. -/
theorem Metadata.read_of_annotations {metadata : Metadata}
    {annotations : Option (Dictionary String)} (reads : read (.object entries) = some metadata)
    (others : ∀ name, name ≠ "annotations" → entries'.get? name = entries.get? name)
    (annotationsRead : annotationsField.of? entries' = some annotations) :
    read (.object entries') = some { metadata with annotations } := by
  rcases of?_of_read reads with ⟨-, -, -, finalizersRead, versionRead⟩
  apply read_of_changed reads _ annotationsRead
  · exact (Field.of?_congr (others _ (by decide))).trans finalizersRead
  · exact (Field.of?_congr (others _ (by decide))).trans versionRead
  · intro name foreign
    exact others name fun equal => foreign (by simp [equal])

/-- A record that must be there is an object. -/
theorem of?_required_eq_some_iff {α : Type} {name : String} {read : Json → Option α}
    {write : α → Json} (isRecord : ∀ document value, read document = some value →
      ∃ inner, document = .object inner) {value : α} :
    (Field.required name ⟨read, write⟩).of? entries = some value ↔
      ∃ inner, entries.get? name = some (.object inner) ∧ read (.object inner) = some value := by
  constructor
  · intro reads
    rcases Option.bind_eq_some_iff.mp reads with ⟨document, found, documentRead⟩
    rcases isRecord document value documentRead with ⟨inner, rfl⟩
    exact ⟨inner, found, documentRead⟩
  · intro found
    rcases found with ⟨inner, found, innerRead⟩
    exact Option.bind_eq_some_iff.mpr ⟨_, found, innerRead⟩

theorem Metadata.exists_of_read (document : Json) (metadata : Metadata)
    (reads : read document = some metadata) : ∃ inner, document = .object inner := by
  rcases Option.bind_eq_some_iff.mp reads with ⟨inner, isObject, -⟩
  exact ⟨inner, Json.entries?_eq_some_iff.mp isObject⟩

theorem ClusterSpec.exists_of_read (document : Json) (spec : ClusterSpec)
    (reads : read document = some spec) : ∃ inner, document = .object inner := by
  rcases Option.bind_eq_some_iff.mp reads with ⟨inner, isObject, -⟩
  exact ⟨inner, Json.entries?_eq_some_iff.mp isObject⟩

/-- A cluster is read from three entries of its document. -/
theorem Cluster.read_object_eq_some_iff {cluster : Cluster} :
    read (.object entries) = some cluster ↔
      (∃ metadata, entries.get? "metadata" = some (.object metadata) ∧
        Metadata.read (.object metadata) = some cluster.metadata) ∧
      (∃ spec, entries.get? "spec" = some (.object spec) ∧
        ClusterSpec.read (.object spec) = some cluster.spec) ∧
      statusField.of? entries = some cluster.status := by
  rw [← of?_required_eq_some_iff Metadata.exists_of_read,
    ← of?_required_eq_some_iff ClusterSpec.exists_of_read]
  rcases cluster with ⟨metadata, spec, status⟩
  simp only [read, Record.entriesOfAll?, Option.bind_eq_bind, Option.bind_some,
    Option.bind_eq_some_iff, Option.some.injEq, Cluster.mk.injEq]
  constructor
  · intro parts
    rcases parts with ⟨_, metadataRead, _, specRead, _, statusRead, rfl, rfl, rfl⟩
    exact ⟨metadataRead, specRead, statusRead⟩
  · intro parts
    rcases parts with ⟨metadataRead, specRead, statusRead⟩
    exact ⟨_, metadataRead, _, specRead, _, statusRead, rfl, rfl, rfl⟩

end ClusterLinks
