import ClusterLinks.Operator
import ClusterLinks.Proofs.Action.Contracts
import ClusterLinks.Proofs.Controller.Steps

/-!
# Steps that fail for good

Waiting helps only with what is still being provisioned, and that is for the passes to find out.
Clusters in Kubernetes, clients for Azure and the directories of a pass can be had or not, but if
they cannot be had, then waiting does not change that.
-/

namespace ClusterLinks

variable {World α β : Type}

/-! ## Stores and clients that fail for good -/

/-- No failure of the store can be waited out. -/
structure ClusterStore.FailsForGood (store : ClusterStore World) : Prop where
  get : ∀ key, (store.get key).FailsForGood
  persist : ∀ before after, (store.persist before after).FailsForGood
  addFinalizer : ∀ key finalizer, (store.addFinalizer key finalizer).FailsForGood
  removeFinalizer : ∀ key finalizer, (store.removeFinalizer key finalizer).FailsForGood

/-- No failure to find a client can be waited out. -/
def ClientFactory.FailsForGood (clients : ClientFactory World) : Prop :=
  ∀ cluster, (clients.client cluster).FailsForGood

/-- No request fails in a way that can be waited out. -/
def ApiConnection.FailsForGood (connection : ApiConnection World) : Prop :=
  ∀ request, (connection.send request).FailsForGood

namespace CredentialKind

variable {identity : IdentitySpec} {secret? : Option String} {tokenFile : String} {error : Error}

theorem isRetryable_of_tenantOf (fails : tenantOf identity = .error error) :
    error.isRetryable = false := by
  unfold tenantOf at fails
  split at fails
  · cases fails
    rfl
  · cases fails

/-- An identity without a credential has to be changed. -/
theorem isRetryable_of_ofIdentity (fails : ofIdentity identity secret? tokenFile = .error error) :
    error.isRetryable = false := by
  unfold ofIdentity at fails
  by_cases anonymous : identity.clientId = ""
  · rw [if_pos anonymous] at fails
    cases fails
    rfl
  · rw [if_neg anonymous] at fails
    cases kind : identity.type with
    | userAssignedMsi =>
        rw [kind] at fails
        cases fails
    | other name =>
        rw [kind] at fails
        cases fails
        rfl
    | workloadIdentity =>
        rw [kind] at fails
        cases tenant : tenantOf identity with
        | ok tenantId =>
            rw [tenant] at fails
            cases fails
        | error error' =>
            rw [tenant] at fails
            cases fails
            exact isRetryable_of_tenantOf tenant
    | manualServicePrincipal =>
        rw [kind] at fails
        cases tenant : tenantOf identity with
        | error error' =>
            rw [tenant] at fails
            cases fails
            exact isRetryable_of_tenantOf tenant
        | ok tenantId =>
            rw [tenant] at fails
            cases secret : secret?.filter (· ≠ "") with
            | none =>
                rw [secret] at fails
                cases fails
                rfl
            | some text =>
                rw [secret] at fails
                cases fails

end CredentialKind

namespace ApiConnection.FailsForGood

open ClusterLinks.Action (FailsForGood)

variable {connection : ApiConnection World} (sends : connection.FailsForGood)

include sends

theorem ask (reader : Reader α) (request? : Option ApiRequest) :
    (connection.ask reader request?).FailsForGood := by
  refine .bind (.ofOption rfl _) fun _ request _ => .bind (sends request) fun _ reply _ =>
    .ofExcept ?_
  intro error fails
  unfold ApiConnection.readReply at fails
  split at fails
  · cases fails
    rfl
  · split at fails
    · cases fails
    · cases fails
      rfl

theorem find? (isMissing : KubernetesError → Bool) (reader : Reader α) (kind : ObjectKind)
    (key : ObjectKey) : (connection.find? isMissing reader kind key).FailsForGood := by
  refine .bind (.attempt _) fun world result found => ?_
  have gets : (connection.get reader kind key).FailsForGood := ask sends _ _
  have fatal (error : Error) : result = .error error → error.isRetryable = false := by
    intro fails
    rw [fails] at found
    exact gets world error (Except.ok.inj found)
  split
  · exact .pure _
  · split
    · exact .pure _
    · exact .fail rfl
  · next error _ => exact .fail (fatal error rfl)

theorem patchFinalizers (key : ObjectKey) (finalizers : List String) :
    (ClusterStore.patchFinalizers connection key finalizers).FailsForGood :=
  .bind (ask sends _ _) fun _ _ _ => .pure _

/-- Clusters in Kubernetes can be had or not, but not later. -/
theorem kubernetes : (ClusterStore.kubernetes connection).FailsForGood where
  get _ := find? sends _ _ _ _
  persist before after := by
    change (ClusterStore.sendChanges connection before after).FailsForGood
    unfold ClusterStore.sendChanges
    split
    · exact .pure _
    · exact .bind (ask sends _ _) fun _ _ _ => .pure _
  addFinalizer key finalizer := by
    refine .bind (ask sends _ _) fun _ cluster _ => ?_
    dsimp only
    split
    · exact .pure _
    · exact patchFinalizers sends _ _
  removeFinalizer key finalizer := by
    refine .bind (find? sends _ _ _ _) fun _ cluster? _ => ?_
    cases cluster? with
    | none => exact .pure _
    | some cluster =>
        dsimp only
        split
        · exact patchFinalizers sends _ _
        · exact .pure _

theorem secretOf (space : String) (identity : IdentitySpec) :
    (Sessions.secretOf connection space identity).FailsForGood := by
  unfold Sessions.secretOf
  split
  · refine .bind (find? sends _ _ _ _) fun _ secret? _ => ?_
    cases secret? with
    | none => exact .fail rfl
    | some secret =>
        dsimp only
        split
        · exact .pure _
        · split
          · exact .pure _
          · exact .fail rfl
  · exact .pure _

/-- So it is with the clients. -/
theorem sessions (azure : AzureSettings) (surroundings : Surroundings World) :
    (Sessions.clients azure connection surroundings).FailsForGood := by
  have resolves (cluster : Cluster) :
      (Sessions.resolve azure connection cluster).FailsForGood := by
    refine .bind (.ofExcept ?_) fun _ key _ => .bind (find? sends _ _ _ _) fun _ identity? _ =>
      .bind (.ofOption rfl _) fun _ identity _ => .bind (secretOf sends _ _) fun _ secret? _ =>
      .bind (.ofExcept ?_) fun _ kind _ => .pure _
    · intro error fails
      unfold Sessions.identityKey at fails
      split at fails
      · cases fails
        rfl
      · cases fails
    · exact fun error => CredentialKind.isRetryable_of_ofIdentity
  exact fun cluster =>
    .bind (.bind (.within (resolves cluster)) fun _ _ _ => .step _) fun _ _ _ => .pure _

/-- And so it is with the clusters as the operator sees them. -/
theorem operator : (Operator.store connection).FailsForGood where
  get key := ((kubernetes sends).get key).within
  persist before after := ((kubernetes sends).persist before after).within
  addFinalizer key finalizer := ((kubernetes sends).addFinalizer key finalizer).within
  removeFinalizer key finalizer := ((kubernetes sends).removeFinalizer key finalizer).within

end ApiConnection.FailsForGood

/-- What fails on a flaky shelf is not there to wait for. -/
theorem FlakyShelf.failsForGood_store : FlakyShelf.store.FailsForGood := by
  have announces (call : StoreCall) : (FlakyShelf.announce call).FailsForGood := by
    intro world error fails
    unfold FlakyShelf.announce at fails
    split at fails
    · cases fails
    · cases fails
    · cases fails
      rfl
  -- The calls themselves never fail.
  exact
    { get := fun key => .bind (announces _) fun _ _ _ => .within fun _ _ fails => nomatch fails
      persist := fun before after =>
        .bind (announces _) fun _ _ _ => .within fun _ _ fails => nomatch fails
      addFinalizer := fun key finalizer =>
        .bind (announces _) fun _ _ _ => .within fun _ _ fails => nomatch fails
      removeFinalizer := fun key finalizer =>
        .bind (announces _) fun _ _ _ => .within fun _ _ fails => nomatch fails }

theorem Landscape.clientFactory_failsForGood (World : Type) :
    (clientFactory World).FailsForGood :=
  fun _ => .pure _

namespace Controller

variable {store : ClusterStore World} {clients : ClientFactory World}

/-! ## Steps of a run -/

theorem failsForGood_load (fatal : store.FailsForGood) (key : ObjectKey) :
    (ClusterScope.load store key).FailsForGood :=
  .bind (fatal.get key) fun _ _ _ => .pure _

theorem isRetryable_of_identity {cluster : Cluster} {error : Error}
    (fails : ClusterIdentity.ofCluster cluster = .error error) : error.isRetryable = false := by
  unfold ClusterIdentity.ofCluster at fails
  split at fails
  · cases fails
    rfl
  · cases fails
    rfl
  · cases fails

theorem isRetryable_of_linkDirectory {cluster : Cluster} {error : Error}
    (fails : LinkDirectory.ofCluster cluster = .error error) : error.isRetryable = false := by
  unfold LinkDirectory.ofCluster at fails
  split at fails
  · cases fails
  · next anonymous =>
      cases fails
      exact isRetryable_of_identity anonymous

theorem isRetryable_of_endpointDirectory {cluster : Cluster} {error : Error}
    (fails : EndpointDirectory.ofCluster cluster = .error error) : error.isRetryable = false := by
  unfold EndpointDirectory.ofCluster at fails
  split at fails
  · unfold EndpointDirectory.ofSubnets at fails
    split at fails
    · cases fails
    · cases fails
    · cases fails
      rfl
  · next anonymous =>
      cases fails
      exact isRetryable_of_identity anonymous

/-- Directories that cannot be made are not there later, either. -/
theorem failsForGood_makeDirectories (host owner : Workspace World → Cluster) :
    (makeDirectories host owner).FailsForGood := by
  intro workspace error fails
  change directories (host workspace) (owner workspace) = .error error at fails
  obtain hosts | ⟨endpoints, -, owns⟩ := directories_cases fails
  · exact isRetryable_of_endpointDirectory hosts
  · exact isRetryable_of_linkDirectory owns

theorem failsForGood_loadManagement (fatal : store.FailsForGood) (settings : ControllerSettings) :
    (loadManagement settings store).FailsForGood :=
  .bind (failsForGood_load fatal _) fun _ scope? _ => .ofOption rfl scope?

theorem failsForGood_close (fatal : store.FailsForGood) (scope : ClusterScope) :
    (scope.close store).FailsForGood := by
  unfold ClusterScope.close
  split
  · exact fatal.persist _ _
  · exact .pure _

end Controller

end ClusterLinks
