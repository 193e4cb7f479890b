import ClusterLinks.Proofs.Pass.Exact

/-!
# Names that several endpoints bear

Nothing keeps a host from listing several endpoints under one name. A pass picks the endpoints that
go by where they lead, but it removes them by name, each time the first one that bears it. So of the
endpoints under a name the first ones go, as many as there are loose ends among them, whether they
are loose ends themselves or not. The right ones go exactly if under every name the loose ends come
first.
-/

namespace ClusterLinks

namespace Endpoints

variable {endpoints later kept : List PrivateEndpoint} {endpoint : PrivateEndpoint} {name : String}

/-- The endpoints that bear a name, in their order. -/
def named (name : String) (endpoints : List PrivateEndpoint) : List PrivateEndpoint :=
  endpoints.filter (·.name == name)

@[simp] theorem named_cons_self (first : PrivateEndpoint) (rest : List PrivateEndpoint) :
    named first.name (first :: rest) = first :: named first.name rest :=
  List.filter_cons_of_pos (by simp)

theorem named_cons_of_ne {first : PrivateEndpoint} (other : first.name ≠ name)
    (rest : List PrivateEndpoint) : named name (first :: rest) = named name rest :=
  List.filter_cons_of_neg (by simpa using other)

/-- Under its own name an endpoint occurs as often as anywhere. -/
theorem count_named (endpoint : PrivateEndpoint) (endpoints : List PrivateEndpoint) :
    (named endpoint.name endpoints).count endpoint = endpoints.count endpoint :=
  List.count_filter (by simp)

/-- Something holds in order under each name if it holds in order of those with the same name. -/
theorem forall_pairwise_named_iff {related : PrivateEndpoint → PrivateEndpoint → Prop} :
    (∀ name, (named name endpoints).Pairwise related) ↔
      endpoints.Pairwise fun earlier later =>
        earlier.name = later.name → related earlier later := by
  simp only [named, List.pairwise_filter, beq_iff_eq]
  constructor
  · intro all
    apply List.pairwise_iff_forall_sublist.mpr
    intro earlier later inOrder sameName
    exact List.pairwise_iff_forall_sublist.mp (all later.name) inOrder sameName rfl
  · intro all name
    apply all.imp
    intro earlier later ordered bears bears'
    exact ordered (bears.trans bears'.symm)

/-! ## Removing the first of a name -/

theorem named_removeByName_self (name : String) (endpoints : List PrivateEndpoint) :
    named name (removeByName name endpoints) = (named name endpoints).drop 1 := by
  induction endpoints with
  | nil => rfl
  | cons first rest ih =>
      by_cases bears : first.name = name
      · subst bears
        rw [removeByName, List.eraseP_cons_of_pos (by simp), named_cons_self]
        rfl
      · rw [removeByName, List.eraseP_cons_of_neg (by simpa using bears), named_cons_of_ne bears,
          named_cons_of_ne bears]
        exact ih

theorem named_removeByName_of_ne {other : String} (apart : other ≠ name)
    (endpoints : List PrivateEndpoint) :
    named name (removeByName other endpoints) = named name endpoints := by
  induction endpoints with
  | nil => rfl
  | cons first rest ih =>
      by_cases bears : first.name = other
      · rw [removeByName, List.eraseP_cons_of_pos (by simpa using bears),
          named_cons_of_ne (bears ▸ apart)]
      · rw [removeByName, List.eraseP_cons_of_neg (by simpa using bears), named, named,
          List.filter_cons, List.filter_cons]
        split
        · exact congrArg (first :: ·) ih
        · exact ih

/-- Under each name the first endpoints go, as many as the name is removed times. -/
theorem named_removeNames (names : List String) (endpoints : List PrivateEndpoint)
    (name : String) :
    named name (removeNames names endpoints) =
      (named name endpoints).drop (names.count name) := by
  induction names generalizing endpoints with
  | nil => rfl
  | cons first rest ih =>
      change named name (removeNames rest (removeByName first endpoints)) = _
      rw [ih]
      by_cases same : first = name
      · subst same
        rw [named_removeByName_self, List.drop_drop, List.count_cons_self, Nat.add_comm]
      · rw [named_removeByName_of_ne same, List.count_cons_of_ne same]

/-- Endpoints that bear none of the names are left alone at the end. -/
theorem removeNames_append_of_apart {names : List String}
    (apart : ∀ endpoint ∈ later, endpoint.name ∉ names) (endpoints : List PrivateEndpoint) :
    removeNames names (endpoints ++ later) = removeNames names endpoints ++ later := by
  induction names generalizing endpoints with
  | nil => rfl
  | cons first rest ih =>
      have spared : removeByName first later = later := by
        apply List.eraseP_of_forall_not
        intro endpoint member
        have different := apart endpoint member
        simp only [List.mem_cons, not_or] at different
        simpa using different.1
      have skipped : removeByName first (endpoints ++ later) =
          removeByName first endpoints ++ later := by
        rw [removeByName, List.eraseP_append]
        split
        · rfl
        · next free =>
            have untouched : endpoints.eraseP (·.name == first) = endpoints :=
              List.eraseP_of_forall_not (by simpa using free)
            rw [removeByName, untouched]
            exact congrArg (endpoints ++ ·) spared
      change removeNames rest (removeByName first (endpoints ++ later)) = _
      rw [skipped]
      exact ih (fun endpoint member among => apart endpoint member (by simp [among])) _

/-! ## What is lost -/

/-- There are fewer copies of the endpoint afterwards. -/
def Loses (before after : List PrivateEndpoint) (endpoint : PrivateEndpoint) : Prop :=
  after.count endpoint < before.count endpoint

instance (before after : List PrivateEndpoint) (endpoint : PrivateEndpoint) :
    Decidable (Loses before after endpoint) :=
  inferInstanceAs (Decidable (_ < _))

/-- Where under each name some of the first endpoints were dropped, these are the ones that are
lost. -/
theorem loses_iff_of_drop {quota : String → Nat}
    (dropped : ∀ name, named name kept = (named name endpoints).drop (quota name)) :
    Loses endpoints kept endpoint ↔
      endpoint ∈ (named endpoint.name endpoints).take (quota endpoint.name) := by
  have parts : ((named endpoint.name endpoints).take (quota endpoint.name)).count endpoint +
      kept.count endpoint = endpoints.count endpoint := by
    rw [← count_named endpoint kept, dropped, ← List.count_append, List.take_append_drop,
      count_named]
  rw [Loses, ← List.count_pos_iff]
  omega

/-- What is added under fresh names does not make up for what is lost. -/
theorem loses_append_iff (fresh : ∀ endpoint ∈ later, has endpoint.name endpoints = false) :
    Loses endpoints (kept ++ later) endpoint ↔ Loses endpoints kept endpoint := by
  rw [Loses, Loses, List.count_append]
  by_cases new : endpoint ∈ later
  · have absent : endpoint ∉ endpoints := fun present =>
      has_eq_false_iff.mp (fresh endpoint new) endpoint present rfl
    rw [List.count_eq_zero.mpr absent]
    omega
  · rw [List.count_eq_zero.mpr new, Nat.add_zero]

end Endpoints

/-- The first ones, as many as there are that pass a test, all pass it exactly if those that pass
come before those that fail. -/
theorem forall_mem_take_countP_iff {α : Type} (test : α → Bool) (values : List α) :
    (∀ value ∈ values.take (values.countP test), test value = true) ↔
      values.Pairwise fun earlier later => test later = true → test earlier = true := by
  induction values with
  | nil => simp
  | cons first rest ih =>
      rw [List.pairwise_cons, ← ih]
      by_cases passes : test first = true
      · simp [List.countP_cons_of_pos passes, passes]
      · rw [List.countP_cons_of_neg passes]
        constructor
        · intro all
          have nonePasses : rest.countP test = 0 := by
            by_contra some
            have among : first ∈ (first :: rest).take (rest.countP test) := by
              rw [← Nat.succ_pred_eq_of_ne_zero some, List.take_succ_cons]
              exact List.mem_cons_self
            exact passes (all first among)
          refine ⟨?_, by simp [nonePasses]⟩
          intro later member passes'
          exact absurd passes' (List.countP_eq_zero.mp nonePasses later member)
        · intro ordered
          have nonePasses : rest.countP test = 0 :=
            List.countP_eq_zero.mpr fun later member passes' =>
              passes (ordered.1 later member passes')
          simp [nonePasses]

namespace Pass

open Endpoints

variable {World : Type} {client? : Option (EndpointsClient World)} {world : World}
variable {host owner : Cluster} {directory : EndpointDirectory} {links : LinkDirectory}
variable {endpoints : List PrivateEndpoint}

/-! ## What a pass loses -/

theorem count_names_unused (links : LinkDirectory) (endpoints : List PrivateEndpoint)
    (name : String) :
    ((unused links endpoints).map (·.name)).count name =
      (named name endpoints).countP (isStale links) := by
  rw [unused_eq, List.count, List.countP_map, List.countP_filter, named, List.countP_filter]
  exact List.countP_congr fun endpoint _ => by simp [and_comm]

/-- Under each name the first endpoints go, as many as are stale. -/
theorem named_removeUnused (links : LinkDirectory) (endpoints : List PrivateEndpoint)
    (name : String) :
    named name (removeUnused links endpoints) =
      (named name endpoints).drop ((named name endpoints).countP (isStale links)) := by
  rw [removeUnused_eq_removeNames, named_removeNames, count_names_unused]

/-- What a pass has just added is not among what it removes. -/
theorem settle_eq_append (host : ClusterIdentity) (links : LinkDirectory)
    (endpoints : List PrivateEndpoint) :
    settle host links endpoints =
      removeUnused links endpoints ++ newcomers (wanted host links) endpoints := by
  have stillUsed : (newcomers (wanted host links) endpoints).filter (isStale links) = [] := by
    rw [List.filter_eq_nil_iff]
    intro endpoint new
    simp [not_isStale_of_mem_wanted (mem_of_mem_newcomers new)]
  have sameUnused : unused links (addAll (wanted host links) endpoints) =
      unused links endpoints := by
    rw [unused_eq, unused_eq, addAll_eq, List.filter_append, stillUsed, List.append_nil]
  rw [settle, removeUnused_eq_removeNames, sameUnused, addAll_eq, removeUnused_eq_removeNames]
  apply removeNames_append_of_apart
  intro endpoint new among
  obtain ⟨stale, member, sameName⟩ := List.mem_map.mp among
  rw [unused_eq] at member
  have fresh : has endpoint.name endpoints = false := by
    simpa using (List.mem_filter.mp new).2
  exact has_eq_false_iff.mp fresh stale (List.mem_of_mem_filter member) sameName

/-- Only stale endpoints are lost exactly if under each name the stale ones come first. -/
theorem loses_only_stale_iff (links : LinkDirectory) (endpoints : List PrivateEndpoint) :
    (∀ endpoint, Loses endpoints (removeUnused links endpoints) endpoint →
        isStale links endpoint = true) ↔
      endpoints.Pairwise fun earlier later =>
        earlier.name = later.name → isStale links later = true → isStale links earlier = true := by
  have byName : (∀ endpoint, Loses endpoints (removeUnused links endpoints) endpoint →
      isStale links endpoint = true) ↔
        ∀ name, ∀ endpoint ∈ (named name endpoints).take
          ((named name endpoints).countP (isStale links)), isStale links endpoint = true := by
    simp only [loses_iff_of_drop (named_removeUnused links endpoints)]
    constructor
    · intro all name endpoint taken
      have bears : endpoint.name = name := by
        simpa using (List.mem_filter.mp (List.mem_of_mem_take taken)).2
      subst bears
      exact all endpoint taken
    · exact fun all endpoint => all endpoint.name endpoint
  simp only [byName, forall_mem_take_countP_iff, forall_pairwise_named_iff]

/-- A pass leaves what was there, less what it removes if it succeeds, and behind it endpoints for
its owner under fresh names. -/
theorem exists_kept_of_reconcile (client? : Option (EndpointsClient World)) (host owner : Cluster)
    (world : World) :
    let pass := run (reconcile client?) host owner world
    ∃ kept new, pass.2.1.hostedEndpoints = kept ++ new ∧
      (∀ endpoint ∈ new, has endpoint.name host.hostedEndpoints = false ∧
        endpoint.IsMadeFor owner) ∧
      ((pass.1 ≠ .ok () ∧ kept = host.hostedEndpoints) ∨
        (pass.1 = .ok () ∧ ∃ links, LinkDirectory.ofCluster owner = .ok links ∧
          kept = removeUnused links host.hostedEndpoints)) := by
  intro pass
  cases run_cases (reconcile client?) host owner world with
  | inl failed =>
      obtain ⟨⟨error, fails⟩, untouched⟩ := failed
      refine ⟨host.hostedEndpoints, [], ?_, by simp, .inl ⟨by simp [pass, fails], rfl⟩⟩
      rw [untouched, List.append_nil]
  | inr directories =>
      obtain ⟨directory, links, hosts, owns⟩ := directories
      have new {row : List PrivateEndpoint} (part : row ⊆ wanted directory.identity links) :
          ∀ endpoint ∈ newcomers row host.hostedEndpoints,
            has endpoint.name host.hostedEndpoints = false ∧ endpoint.IsMadeFor owner := by
        intro endpoint member
        refine ⟨by simpa using (List.mem_filter.mp member).2, ?_⟩
        exact isMadeFor_of_mem_wanted owns (part (mem_of_mem_newcomers member))
      have passIs : pass = _ := run_reconcile_eq client? hosts owns world
      cases obstacle : obstacle? directory.identity links with
      | some error =>
          simp only [obstacle] at passIs
          refine ⟨host.hostedEndpoints, [], ?_, by simp, .inl ⟨by simp [passIs], rfl⟩⟩
          rw [passIs, List.append_nil]
      | none =>
          simp only [obstacle] at passIs
          rw [passIs]
          simp only [EndpointDirectory.hostedEndpoints_withSubnets_update hosts, adjust]
          cases (lookUps client? directory links world).result with
          | ok done =>
              exact ⟨_, _, settle_eq_append .., new (List.Subset.refl _),
                .inr ⟨rfl, links, owns, rfl⟩⟩
          | error error =>
              exact ⟨_, _, addAll_eq .., new (List.take_subset _ _), .inl ⟨by simp, rfl⟩⟩

/-- Under each name the loose ends of the owner come before the other endpoints. -/
def LooseEndsComeFirst (owner : Cluster) (endpoints : List PrivateEndpoint) : Prop :=
  endpoints.Pairwise fun earlier later =>
    earlier.name = later.name → later.IsLooseEndOf owner → earlier.IsLooseEndOf owner

instance (owner : Cluster) (endpoints : List PrivateEndpoint) :
    Decidable (LooseEndsComeFirst owner endpoints) :=
  inferInstanceAs (Decidable (endpoints.Pairwise _))

/-- A pass that succeeds drops, under each name, the first of the endpoints that were there, as many
as there are loose ends of the owner among them; a pass that fails drops nothing. What is new bears
a name that was free. So a pass loses nothing but loose ends exactly if it fails or under each name
the loose ends come first. -/
theorem removal_takes_the_first_of_a_name (host owner : Cluster)
    (client? : Option (EndpointsClient World)) (world : World) :
    let pass := run (reconcile client?) host owner world
    let before := host.hostedEndpoints
    let after := pass.2.1.hostedEndpoints
    (∃ kept new, after = kept ++ new ∧ kept.Sublist before ∧
      (∀ endpoint ∈ new, has endpoint.name before = false ∧ endpoint.IsMadeFor owner) ∧
      ∀ name, named name kept = (named name before).drop
        (if pass.1 = .ok () then (named name before).countP (·.IsLooseEndOf owner) else 0)) ∧
      ((∀ endpoint, Loses before after endpoint → endpoint.IsLooseEndOf owner) ↔
        (pass.1 = .ok () → LooseEndsComeFirst owner before)) := by
  intro pass before after
  obtain ⟨kept, new, afterIs, fresh, outcome⟩ := exists_kept_of_reconcile client? host owner world
  have lost (endpoint : PrivateEndpoint) :
      Loses before after endpoint ↔ Loses before kept endpoint := by
    simp only [after, pass, afterIs]
    exact loses_append_iff fun endpoint member => (fresh endpoint member).1
  simp only [lost]
  cases outcome with
  | inl failed =>
      obtain ⟨fails, rfl⟩ := failed
      have nothing : ∀ endpoint, ¬ Loses before before endpoint := fun _ => Nat.lt_irrefl _
      refine ⟨⟨_, new, afterIs, List.Sublist.refl _, fresh, ?_⟩, ?_⟩
      · intro name
        rw [if_neg fails, List.drop_zero]
      · exact iff_of_true (fun endpoint loses => absurd loses (nothing endpoint))
          fun succeeds => absurd succeeds fails
  | inr succeeded =>
      obtain ⟨succeeds, links, owns, rfl⟩ := succeeded
      have loose : isStale links = fun endpoint => decide (endpoint.IsLooseEndOf owner) := by
        funext endpoint
        rw [Bool.eq_iff_iff, isStale_iff_isLooseEndOf owns, decide_eq_true_iff]
      refine ⟨⟨_, new, afterIs, ?_, fresh, ?_⟩, ?_⟩
      · rw [removeUnused_eq_removeNames]
        exact removeNames_sublist _ _
      · intro name
        rw [if_pos succeeds, named_removeUnused, loose]
      · have ordered := loses_only_stale_iff links before
        simp only [loose, decide_eq_true_iff] at ordered
        exact ordered.trans ⟨fun first _ => first, fun first => first succeeds⟩

end Pass

namespace Landscape

/-- A management cluster with two endpoints under each of two names. The first ones lead to a link
of the red cluster and to one of the green cluster, and the second ones are loose ends of the red
cluster. -/
def crowded : Cluster :=
  let endpoint (name id : String) : PrivateEndpoint :=
    { name := PrivateEndpoint.nameFor name, connections := [{ privateLinkServiceId := id }] }
  management.withSubnets
    [{ name := "nodes", role := some Conventions.nodeRole,
       endpoints :=
         [endpoint "api" (red.linkId "api"), endpoint "web" (green.linkId "web"),
           endpoint "api" (red.linkId "old"), endpoint "web" (red.linkId "old")] }]

end Landscape

namespace Pass

open Endpoints Landscape

/-- The pass for the red cluster takes the endpoint that leads to its link and the one that does not
lead into its group at all, and it leaves both loose ends. -/
theorem loose_ends_left_in_crowded :
    let pass := run (reconcile (some client)) crowded red ()
    pass.1 = .ok () ∧
      (∃ link ∈ red.privateLinks, ∃ used ∈ crowded.hostedEndpoints,
        used.ConnectsTo (red.linkId link.name) ∧ used ∉ pass.2.1.hostedEndpoints) ∧
      (∃ foreign ∈ crowded.hostedEndpoints,
        foreign.leadsInto red.spec.subscriptionId red.spec.resourceGroup = false ∧
          foreign ∉ pass.2.1.hostedEndpoints) ∧
      ∀ endpoint ∈ pass.2.1.hostedEndpoints, endpoint.IsLooseEndOf red := by
  decide +kernel

end Pass

end ClusterLinks
