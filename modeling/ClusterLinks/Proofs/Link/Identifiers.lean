import ClusterLinks.Proofs.Endpoint.Connections

/-!
# Whose an identifier is

A directory compares whole identifiers to find one of its links, while the endpoints of a host are
told apart by how the identifiers of their connections begin. Among places without slashes the two
agree. An identifier leads into at most one group, the identifier of a link leads into the group
that it was made for, and a directory finds a link for it exactly in that group. So whatever a
directory accepts is counted as its own and as nobody else's.
-/

namespace ClusterLinks

namespace LinkDirectory

open ResourceId

variable {directory : LinkDirectory} {subscription group id link : String}

/-- Neither subscription nor resource group of the directory have a slash in them. -/
def HasPlainPlace (directory : LinkDirectory) : Prop :=
  IsSegment directory.identity.subscriptionId ∧ IsSegment directory.identity.resourceGroup

instance (directory : LinkDirectory) : Decidable directory.HasPlainPlace :=
  inferInstanceAs (Decidable (_ ∧ _))

/-- The directory belongs to this subscription and this resource group. -/
def IsAt (directory : LinkDirectory) (subscription group : String) : Prop :=
  directory.identity.subscriptionId = subscription ∧ directory.identity.resourceGroup = group

/-- What a directory accepts is the identifier of a link in its own group. -/
theorem eq_privateLink_of_find? (accepts : (directory.find? id).isSome = true) :
    ∃ link, id = privateLink directory.identity.subscriptionId
      directory.identity.resourceGroup link := by
  obtain ⟨declared, -, rfl⟩ := find?_isSome_iff.mp accepts
  exact ⟨declared.name, rfl⟩

/-- In its own group a directory finds links by name. -/
theorem find?_own_isSome_iff :
    (directory.find? (privateLink directory.identity.subscriptionId
        directory.identity.resourceGroup link)).isSome = true ↔
      ∃ declared ∈ directory.links, declared.name = link := by
  simp only [find?_isSome_iff, idOf, privateLink_inj]

section PlainPlaces

variable (plain : directory.HasPlainPlace) (plainSubscription : IsSegment subscription)
  (plainGroup : IsSegment group)

include plain plainSubscription plainGroup

theorem isInGroup_own_iff (link : String) :
    isInGroup (privateLink directory.identity.subscriptionId directory.identity.resourceGroup link)
        subscription group = true ↔ directory.IsAt subscription group :=
  isInGroup_privateLink_iff plainSubscription plainGroup plain.1 plain.2

/-- A directory finds a link in its own group only, and there it goes by the name. -/
theorem find?_privateLink_isSome_iff :
    (directory.find? (privateLink subscription group link)).isSome = true ↔
      directory.IsAt subscription group ∧ ∃ declared ∈ directory.links, declared.name = link := by
  constructor
  · intro accepts
    obtain ⟨own, same⟩ := eq_privateLink_of_find? accepts
    have here : directory.IsAt subscription group := by
      rw [← isInGroup_own_iff plain plainSubscription plainGroup own, ← same]
      exact isInGroup_privateLink ..
    obtain ⟨rfl, rfl⟩ := here
    exact ⟨⟨rfl, rfl⟩, find?_own_isSome_iff.mp accepts⟩
  · intro declares
    obtain ⟨⟨rfl, rfl⟩, declared⟩ := declares
    exact find?_own_isSome_iff.mpr declared

/-- What a directory accepts leads into its own group and into no other. -/
theorem isInGroup_of_find?_iff (accepts : (directory.find? id).isSome = true) :
    isInGroup id subscription group = true ↔ directory.IsAt subscription group := by
  obtain ⟨link, rfl⟩ := eq_privateLink_of_find? accepts
  exact isInGroup_own_iff plain plainSubscription plainGroup link

/-- An endpoint that has connections, all of them accepted by the directory, leads into the group
of the directory and into no other. -/
theorem leadsInto_iff_of_find? {endpoint : PrivateEndpoint} (connects : endpoint.connections ≠ [])
    (accepts : ∀ connection ∈ endpoint.connections,
      (directory.find? connection.privateLinkServiceId).isSome = true) :
    endpoint.leadsInto subscription group = true ↔ directory.IsAt subscription group := by
  rw [PrivateEndpoint.leadsInto, List.any_eq_true]
  constructor
  · intro leads
    obtain ⟨connection, member, inside⟩ := leads
    exact (isInGroup_of_find?_iff plain plainSubscription plainGroup
      (accepts connection member)).mp inside
  · intro here
    obtain ⟨connection, member⟩ := List.exists_mem_of_ne_nil _ connects
    exact ⟨connection, member, (isInGroup_of_find?_iff plain plainSubscription plainGroup
      (accepts connection member)).mpr here⟩

end PlainPlaces

/-- An endpoint with some connection that the directory accepts leads into its group. -/
theorem leadsInto_own_of_find? {endpoint : PrivateEndpoint} {connection : EndpointConnection}
    (member : connection ∈ endpoint.connections)
    (accepts : (directory.find? connection.privateLinkServiceId).isSome = true) :
    endpoint.leadsInto directory.identity.subscriptionId directory.identity.resourceGroup =
      true := by
  obtain ⟨link, same⟩ := eq_privateLink_of_find? accepts
  rw [PrivateEndpoint.leadsInto, List.any_eq_true]
  refine ⟨connection, member, ?_⟩
  rw [same]
  exact isInGroup_privateLink ..

/-- Identifiers are divided up among the groups without slashes. None leads into two of them, that
of a link leads into its own, and a directory finds a link exactly for the names that it declares
and in its own group. So what the directory accepts leads there and nowhere else. Among the
endpoints of any host those with such a connection are attributed to it, and those with no other
connections are attributed to nobody else. -/
theorem identifiers_have_one_owner (directory : LinkDirectory) (subscription group : String)
    (plain : directory.HasPlainPlace) (plainSubscription : IsSegment subscription)
    (plainGroup : IsSegment group) :
    let own := directory.identity
    let isOwn := directory.IsAt subscription group
    let accepts id := (directory.find? id).isSome = true
    (∀ id, isInGroup id own.subscriptionId own.resourceGroup = true →
        isInGroup id subscription group = true → isOwn) ∧
      (∀ link, isInGroup (privateLink own.subscriptionId own.resourceGroup link) subscription
        group = true ↔ isOwn) ∧
      (∀ link, accepts (privateLink subscription group link) ↔
        isOwn ∧ ∃ declared ∈ directory.links, declared.name = link) ∧
      (∀ id, accepts id → (isInGroup id subscription group = true ↔ isOwn)) ∧
      ∀ endpoints : List PrivateEndpoint, ∀ endpoint ∈ endpoints,
        (∀ connection ∈ endpoint.connections, accepts connection.privateLinkServiceId →
          endpoint ∈ Endpoints.leadingInto own.subscriptionId own.resourceGroup endpoints) ∧
        (endpoint.connections ≠ [] →
          (∀ connection ∈ endpoint.connections, accepts connection.privateLinkServiceId) →
          (endpoint ∈ Endpoints.leadingInto subscription group endpoints ↔ isOwn)) := by
  intro own isOwn accepts
  refine ⟨?_, ?_, ?_, ?_, ?_⟩
  · intro id inside inside'
    exact isInGroup_unique plain.1 plain.2 plainSubscription plainGroup inside inside'
  · exact isInGroup_own_iff plain plainSubscription plainGroup
  · intro link
    exact find?_privateLink_isSome_iff plain plainSubscription plainGroup
  · intro id accepted
    exact isInGroup_of_find?_iff plain plainSubscription plainGroup accepted
  · intro endpoints endpoint member
    simp only [Endpoints.leadingInto, List.mem_filter, member, true_and]
    constructor
    · intro connection connected accepted
      exact leadsInto_own_of_find? connected accepted
    · intro connects accepted
      exact leadsInto_iff_of_find? plain plainSubscription plainGroup connects accepted

/-- A directory with a link whose name has a slash in it. -/
def harbour : LinkDirectory where
  identity :=
    { name := "harbour", subscriptionId := "spoke", resourceGroup := "rg",
      location := "westeurope" }
  links := [{ name := "north/pier" }]
  conditions := []
  annotations := none

/-- A group whose name goes on where that of the harbour ends has nothing to do with it. -/
theorem harbour_has_no_annex :
    harbour.HasPlainPlace ∧ IsSegment "spoke" ∧ IsSegment "rg-annex" ∧
      (harbour.find? (privateLink "spoke" "rg" "north/pier")).isSome = true ∧
      (harbour.find? (privateLink "spoke" "rg-annex" "north/pier")).isSome = false ∧
      isInGroup (privateLink "spoke" "rg" "north/pier") "spoke" "rg-annex" = false := by
  have plain : harbour.HasPlainPlace := by decide +kernel
  have plainSubscription : IsSegment "spoke" := by decide +kernel
  have plainGroup : IsSegment "rg-annex" := by decide +kernel
  obtain ⟨-, -, finds, leads, -⟩ :=
    identifiers_have_one_owner harbour "spoke" "rg-annex" plain plainSubscription plainGroup
  have elsewhere : ¬ harbour.IsAt "spoke" "rg-annex" :=
    fun here => absurd here.2 (by decide +kernel)
  have accepted : (harbour.find? (privateLink "spoke" "rg" "north/pier")).isSome = true := by
    decide +kernel
  refine ⟨plain, plainSubscription, plainGroup, accepted, ?_, ?_⟩
  · rw [← Bool.not_eq_true]
    exact fun found => elsewhere ((finds "north/pier").mp found).1
  · rw [← Bool.not_eq_true]
    exact fun inside => elsewhere ((leads _ accepted).mp inside)

end LinkDirectory

end ClusterLinks
