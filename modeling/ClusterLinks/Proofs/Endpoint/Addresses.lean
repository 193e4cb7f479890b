import ClusterLinks.Endpoint.Resource

/-!
# Which address an endpoint has

The interfaces of an endpoint are gone through in order, and the configurations of each of them in
order. A configuration without an address, with an empty one or with one that cannot be read is
passed over, and the first one that is left says the address. Whatever is provisioned behind it
makes no difference any more.
-/

namespace ClusterLinks

/-- The text of a configuration is this address. -/
def IpConfiguration.Says (configuration : IpConfiguration) (address : IpAddress) : Prop :=
  ∃ text, configuration.address = some text ∧ IpAddress.ofText? text = some address

/-- The configuration has no text, or its text is no address. -/
def IpConfiguration.SaysNothing (configuration : IpConfiguration) : Prop :=
  ∀ text, configuration.address = some text → IpAddress.ofText? text = none

namespace IpConfiguration

variable {configuration : IpConfiguration} {address : IpAddress}

/-- The address that a configuration says, if it says one. -/
def said? (configuration : IpConfiguration) : Option IpAddress :=
  configuration.address.bind IpAddress.ofText?

theorem said?_eq_some_iff : configuration.said? = some address ↔ configuration.Says address :=
  Option.bind_eq_some_iff

theorem said?_eq_none_iff : configuration.said? = none ↔ configuration.SaysNothing :=
  Option.bind_eq_none_iff

/-- An empty text says nothing anyway, so it makes no difference that it is left out. -/
theorem said?_eq_of_filter (configuration : IpConfiguration) :
    (configuration.address.filter (· ≠ "")).bind IpAddress.ofText? = configuration.said? := by
  have empty : IpAddress.ofText? "" = none := by decide
  rw [said?]
  cases configuration.address with
  | none => rfl
  | some text =>
      by_cases isEmpty : text = ""
      · subst isEmpty
        exact empty.symm
      · simp [Option.filter, isEmpty]

end IpConfiguration

/-- What is looked for in lists one after the other is looked for in each of them. -/
theorem findSome?_flatMap {α β γ : Type} (lists : α → List β) (look : β → Option γ)
    (items : List α) :
    (items.flatMap lists).findSome? look =
      items.findSome? fun item => (lists item).findSome? look := by
  induction items with
  | nil => rfl
  | cons item rest ih =>
      rw [List.flatMap_cons, List.findSome?_append, ih, List.findSome?_cons]
      cases (lists item).findSome? look <;> rfl

/-- What is looked for among the values that items have is looked for among the items. -/
theorem findSome?_filterMap {α β γ : Type} (value? : α → Option β) (look : β → Option γ)
    (items : List α) :
    (items.filterMap value?).findSome? look =
      items.findSome? fun item => (value? item).bind look := by
  rw [← List.head?_filterMap, ← List.head?_filterMap, List.filterMap_filterMap]

namespace EndpointResource

variable {resource : EndpointResource} {endpoint : String} {address : IpAddress}

/-- The first address that a configuration says, interface by interface. -/
def firstSaid? (resource : EndpointResource) : Option IpAddress :=
  resource.interfaces.findSome? fun interface => interface.configurations.findSome? (·.said?)

/-- The place at which an address is found: no configuration in front of it says anything, neither
in an earlier interface nor earlier in the same one. -/
structure IsFirst (resource : EndpointResource) (address : IpAddress)
    (earlier : List NetworkInterface) (interface : NetworkInterface)
    (passed : List IpConfiguration) (configuration : IpConfiguration) : Prop where
  interfaces : earlier ++ [interface] <+: resource.interfaces
  configurations : passed ++ [configuration] <+: interface.configurations
  isSaid : configuration.Says address
  earlier : ∀ other ∈ earlier, ∀ configuration ∈ other.configurations, configuration.SaysNothing
  passed : ∀ configuration ∈ passed, configuration.SaysNothing

theorem firstSaid?_eq_some_iff : resource.firstSaid? = some address ↔
    ∃ earlier interface passed configuration,
      resource.IsFirst address earlier interface passed configuration := by
  simp only [firstSaid?, List.findSome?_eq_some_iff, List.findSome?_eq_none_iff,
    IpConfiguration.said?_eq_some_iff, IpConfiguration.said?_eq_none_iff]
  constructor
  · rintro ⟨earlier, interface, later, interfaces, ⟨passed, configuration, others, configurations,
      isSaid, passedOver⟩, nothing⟩
    refine ⟨earlier, interface, passed, configuration, ⟨later, ?_⟩, ⟨others, ?_⟩, isSaid, nothing,
      passedOver⟩
    · rw [interfaces, List.append_assoc, List.singleton_append]
    · rw [configurations, List.append_assoc, List.singleton_append]
  · rintro ⟨earlier, interface, passed, configuration, ⟨later, interfaces⟩,
      ⟨others, configurations⟩, isSaid, nothing, passedOver⟩
    refine ⟨earlier, interface, later, ?_, ⟨passed, configuration, others, ?_, isSaid, passedOver⟩,
      nothing⟩
    · rw [← interfaces, List.append_assoc, List.singleton_append]
    · rw [← configurations, List.append_assoc, List.singleton_append]

theorem firstSaid?_eq_none_iff : resource.firstSaid? = none ↔
    ∀ interface ∈ resource.interfaces, ∀ configuration ∈ interface.configurations,
      configuration.SaysNothing := by
  simp only [firstSaid?, List.findSome?_eq_none_iff, IpConfiguration.said?_eq_none_iff]

theorem firstAddress_of_nil (nothing : resource.interfaces = []) (endpoint : String) :
    resource.firstAddress endpoint = .error (.networkInterfaceNotFound endpoint) := by
  rw [firstAddress, nothing, List.isEmpty_nil, if_pos rfl]

/-- The first of all texts that can be read is what the first configuration that says anything
says. -/
theorem findSome?_addresses (resource : EndpointResource) :
    resource.addresses.findSome? IpAddress.ofText? = resource.firstSaid? := by
  rw [addresses, findSome?_filterMap, findSome?_flatMap]
  simp only [IpConfiguration.said?_eq_of_filter, firstSaid?]

theorem firstAddress_of_ne_nil (nonempty : resource.interfaces ≠ []) (endpoint : String) :
    resource.firstAddress endpoint =
      match resource.firstSaid? with
      | some address => .ok address
      | none => .error (.privateAddressNotAssigned endpoint) := by
  have isSome : ¬ resource.interfaces.isEmpty = true := by simpa using nonempty
  rewrite [firstAddress, if_neg isSome, findSome?_addresses]
  cases resource.firstSaid? <;> rfl

theorem firstAddress_eq_ok_iff :
    resource.firstAddress endpoint = .ok address ↔ resource.firstSaid? = some address := by
  by_cases nothing : resource.interfaces = []
  · rw [firstAddress_of_nil nothing, firstSaid?, nothing]
    exact iff_of_false nofun nofun
  · rw [firstAddress_of_ne_nil nothing]
    cases resource.firstSaid? <;> simp

/-- There are two ways to have no address. -/
theorem firstAddress_cases (resource : EndpointResource) (endpoint : String) :
    (resource.interfaces = [] ∧
        resource.firstAddress endpoint = .error (.networkInterfaceNotFound endpoint)) ∨
      (resource.interfaces ≠ [] ∧ resource.firstSaid? = none ∧
        resource.firstAddress endpoint = .error (.privateAddressNotAssigned endpoint)) ∨
      resource.interfaces ≠ [] ∧ ∃ address, resource.firstSaid? = some address ∧
        resource.firstAddress endpoint = .ok address := by
  by_cases nothing : resource.interfaces = []
  · exact .inl ⟨nothing, firstAddress_of_nil nothing endpoint⟩
  · have found := firstAddress_of_ne_nil nothing endpoint
    cases said : resource.firstSaid? with
    | none =>
        rw [said] at found
        exact .inr (.inl ⟨nothing, rfl, found⟩)
    | some address =>
        rw [said] at found
        exact .inr (.inr ⟨nothing, address, rfl, found⟩)

/-- An address that was found is found again behind more interfaces. -/
theorem firstSaid?_append (said : resource.firstSaid? = some address)
    (more : List NetworkInterface) :
    { resource with interfaces := resource.interfaces ++ more }.firstSaid? = some address := by
  have said : resource.interfaces.findSome? _ = some address := said
  rw [firstSaid?, List.findSome?_append, said, Option.some_or]

/-- Further configurations of the last interface make no difference either. -/
theorem firstSaid?_append_last {front : List NetworkInterface} {last : NetworkInterface}
    (isLast : resource.interfaces = front ++ [last]) (said : resource.firstSaid? = some address)
    (more : List IpConfiguration) :
    { resource with
      interfaces := front ++
        [{ last with configurations := last.configurations ++ more }] }.firstSaid? =
      some address := by
  rw [firstSaid?, isLast, List.findSome?_append, List.findSome?_singleton] at said
  rw [firstSaid?, List.findSome?_append, List.findSome?_singleton]
  -- The address was said in front of the last interface or by one of its configurations.
  cases before : front.findSome? fun interface => interface.configurations.findSome? (·.said?) with
  | some found => simpa [before] using said
  | none =>
      rw [before, Option.none_or] at said
      rw [Option.none_or, List.findSome?_append, said, Option.some_or]

/-- The address of an endpoint is the first one that a configuration says, in the order of the
interfaces and of their configurations. Without interfaces that is the failure, and with interfaces
that say nothing the failure is that no address is assigned; waiting may help in both cases, and
both name the endpoint. Once there is an address, it does not change when interfaces come in behind
the others or configurations behind those of the last interface. -/
theorem firstAddress_is_exact_and_stable (resource : EndpointResource) (endpoint : String) :
    (∀ address, resource.firstAddress endpoint = .ok address ↔
        ∃ earlier interface passed configuration,
          resource.IsFirst address earlier interface passed configuration) ∧
      (resource.firstAddress endpoint = .error (.networkInterfaceNotFound endpoint) ↔
        resource.interfaces = []) ∧
      (resource.firstAddress endpoint = .error (.privateAddressNotAssigned endpoint) ↔
        resource.interfaces ≠ [] ∧ ∀ interface ∈ resource.interfaces,
          ∀ configuration ∈ interface.configurations, configuration.SaysNothing) ∧
      (∀ error, resource.firstAddress endpoint = .error error →
        (error = .networkInterfaceNotFound endpoint ∨
          error = .privateAddressNotAssigned endpoint) ∧
        error.isRetryable = true ∧ error.endpoint? = some endpoint) ∧
      ∀ address, resource.firstAddress endpoint = .ok address →
        (∀ more, { resource with interfaces := resource.interfaces ++ more }.firstAddress endpoint =
          .ok address) ∧
        ∀ front last more, resource.interfaces = front ++ [last] →
          { resource with
              interfaces := front ++
                [{ last with configurations := last.configurations ++ more }] }.firstAddress
            endpoint = .ok address := by
  refine ⟨fun address => firstAddress_eq_ok_iff.trans firstSaid?_eq_some_iff, ?_, ?_, ?_, ?_⟩
  · obtain ⟨nothing, ends⟩ | ⟨nonempty, -, ends⟩ | ⟨nonempty, _, -, ends⟩ :=
      firstAddress_cases resource endpoint
    · exact iff_of_true ends nothing
    · exact iff_of_false (by simp [ends]) nonempty
    · exact iff_of_false (by simp [ends]) nonempty
  · rw [← firstSaid?_eq_none_iff]
    obtain ⟨nothing, ends⟩ | ⟨nonempty, unsaid, ends⟩ | ⟨_, address, said, ends⟩ :=
      firstAddress_cases resource endpoint
    · exact iff_of_false (by simp [ends]) fun unassigned => unassigned.1 nothing
    · exact iff_of_true ends ⟨nonempty, unsaid⟩
    · exact iff_of_false (by simp [ends]) (by simp [said])
  · intro error fails
    obtain ⟨-, ends⟩ | ⟨-, -, ends⟩ | ⟨-, _, -, ends⟩ := firstAddress_cases resource endpoint
    · cases ends.symm.trans fails
      exact ⟨.inl rfl, rfl, rfl⟩
    · cases ends.symm.trans fails
      exact ⟨.inr rfl, rfl, rfl⟩
    · cases ends.symm.trans fails
  · intro address found
    rw [firstAddress_eq_ok_iff] at found
    refine ⟨fun more => ?_, fun front last more isLast => ?_⟩
    · exact firstAddress_eq_ok_iff.mpr (firstSaid?_append found more)
    · exact firstAddress_eq_ok_iff.mpr (firstSaid?_append_last isLast found more)

/-- An endpoint with an interface that has no address yet, and one whose first two configurations
have none that can be read. -/
def halfProvisioned : EndpointResource where
  interfaces :=
    [{ configurations := [{ name := some "pending" }] },
      { configurations :=
          [{ address := some "" }, { address := some "10.0.0" }, { address := some "10.0.0.5" }] }]

/-- The same endpoint with a further interface behind the others. -/
def fullyProvisioned : EndpointResource where
  interfaces :=
    halfProvisioned.interfaces ++ [{ configurations := [{ address := some "10.0.0.4" }] }]

/-- It has the address of the last configuration, and keeps it when the further interface comes
in. -/
theorem firstAddress_of_halfProvisioned :
    let address := IpAddress.v4 #v[10, 0, 0, 5]
    halfProvisioned.firstAddress "api" = .ok address ∧
      fullyProvisioned.firstAddress "api" = .ok address := by
  intro address
  have found : halfProvisioned.firstAddress "api" = .ok address :=
    firstAddress_eq_ok_iff.mpr (by decide +kernel)
  obtain ⟨-, -, -, -, stable⟩ := firstAddress_is_exact_and_stable halfProvisioned "api"
  exact ⟨found, (stable address found).1 _⟩

end EndpointResource

end ClusterLinks
