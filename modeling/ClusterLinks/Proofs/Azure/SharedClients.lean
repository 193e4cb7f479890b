import ClusterLinks.Azure.Sessions
import ClusterLinks.Proofs.Controller.Plan
import ClusterLinks.Proofs.Store.Failures

/-!
# Clients that are shared

Clients are asked for again and again, for whatever clusters, while identities and secrets change as
they like. Each call resolves the identity of its cluster. If there is no credential to be had, the
call fails and the clients are as before. Otherwise the client that was last given out under the key
is given out again, with the token that it keeps, if it has just this credential; and if it has not,
a new client takes its place.
-/

namespace ClusterLinks

variable {World : Type}

/-- What a session is for; the token that it keeps may change. -/
def Session.purpose (session : Session) : String × CredentialKind :=
  (session.subscriptionId, session.kind)

/-- A client that was given out: under which key, for which credential, and which one. -/
structure Grant where
  key : ClientKey
  kind : CredentialKind
  number : Nat

/-- The last client that was given out under a key; the list begins with the last of all. -/
def Grant.lastFor (key : ClientKey) (grants : List Grant) : Option Grant :=
  grants.find? (·.key = key)

theorem Grant.lastFor_eq_some {key : ClientKey} {grants : List Grant} {last : Grant}
    (found : lastFor key grants = some last) : last ∈ grants ∧ last.key = key :=
  ⟨List.mem_of_find?_eq_some found, by simpa using List.find?_some found⟩

theorem Grant.lastFor_cons_self (grant : Grant) (grants : List Grant) :
    lastFor grant.key (grant :: grants) = some grant := by
  simp [lastFor]

theorem Grant.lastFor_cons_of_ne {key : ClientKey} {grant : Grant} (apart : grant.key ≠ key)
    (grants : List Grant) : lastFor key (grant :: grants) = lastFor key grants := by
  simp [lastFor, apart]

/-! ## The current clients -/

namespace SessionState

variable {state after : SessionState World} {grants : List Grant}
variable {key other : ClientKey} {kind : CredentialKind} {number : Nat}

def purposes (state : SessionState World) : List (String × CredentialKind) :=
  state.sessions.map (·.purpose)

/-- The client that was given out is still for the subscription of its key and has the credential
that it was asked for with. -/
def Holds (state : SessionState World) (grant : Grant) : Prop :=
  state.purposes[grant.number]? = some (grant.key.subscriptionId, grant.kind)

theorem Holds.exists_session {grant : Grant} (holds : state.Holds grant) :
    ∃ session, state.sessions[grant.number]? = some session ∧
      session.subscriptionId = grant.key.subscriptionId ∧ session.kind = grant.kind := by
  rw [Holds, purposes, List.getElem?_map, Option.map_eq_some_iff] at holds
  obtain ⟨session, there, isFor⟩ := holds
  rw [Session.purpose, Prod.mk.injEq] at isFor
  exact ⟨session, there, isFor⟩

theorem Holds.mono {grant : Grant} (longer : state.purposes <+: after.purposes)
    (holds : state.Holds grant) : after.Holds grant := by
  obtain ⟨rest, added⟩ := longer
  have inside := (List.getElem?_eq_some_iff.mp holds).1
  rw [Holds, ← added, List.getElem?_append_left inside]
  exact holds

/-- The state with a new client under a key. -/
def replace (key : ClientKey) (kind : CredentialKind) (state : SessionState World) :
    SessionState World :=
  { state with
    sessions := state.sessions ++ [{ subscriptionId := key.subscriptionId, kind }]
    current := (key, state.sessions.length) :: state.current.filter (·.1 ≠ key) }

theorem acquire_of_reusable (reusable : state.reusable? key kind = some number) :
    state.acquire key kind = (number, state) := by
  rw [acquire, reusable]

theorem acquire_of_not_reusable (nothing : state.reusable? key kind = none) :
    state.acquire key kind = (state.sessions.length, state.replace key kind) := by
  rw [acquire, nothing]
  rfl

theorem current?_replace_self : (state.replace key kind).current? key = state.sessions.length := by
  simp [current?, replace]

theorem current?_replace_of_ne (apart : other ≠ key) :
    (state.replace key kind).current? other = state.current? other := by
  have differ : ∀ entry : ClientKey × Nat, (entry.1 ≠ key ∧ entry.1 = other) ↔ entry.1 = other :=
    fun entry => and_iff_right_of_imp fun same => same ▸ apart
  simp [current?, replace, List.find?_filter, differ, Ne.symm apart]

theorem nodup_replace (nodup : (state.current.map (·.1)).Nodup) :
    ((state.replace key kind).current.map (·.1)).Nodup := by
  refine List.nodup_cons.mpr ⟨by simp, ?_⟩
  exact nodup.sublist (List.filter_sublist.map _)

/-- Only the tokens that clients keep and the world around them may differ. -/
structure SameClients (before after : SessionState World) : Prop where
  purposes : after.purposes = before.purposes
  current : after.current = before.current

theorem SameClients.trans {first second third : SessionState World}
    (before : SameClients first second) (after : SameClients second third) :
    SameClients first third :=
  ⟨after.purposes.trans before.purposes, after.current.trans before.current⟩

/-- There is one current client under a key at most, it is the one that was given out last, and all
clients are for what they were given out for. -/
structure AccountsFor (state : SessionState World) (grants : List Grant) : Prop where
  nodup : (state.current.map (·.1)).Nodup
  current : ∀ key, state.current? key = (Grant.lastFor key grants).map (·.number)
  holds : ∀ grant ∈ grants, state.Holds grant

namespace AccountsFor

theorem start (world : World) : AccountsFor { world } [] where
  nodup := List.nodup_nil
  current _ := rfl
  holds _ member := nomatch member

/-- New tokens make no difference. -/
theorem of_sameClients (accounts : state.AccountsFor grants) (same : SameClients state after) :
    after.AccountsFor grants where
  nodup := same.current ▸ accounts.nodup
  current key := by
    rw [current?, same.current]
    exact accounts.current key
  holds grant member := (accounts.holds grant member).mono (same.purposes ▸ List.prefix_rfl)

/-- A client can be given out again exactly if the last one under its key had the credential. -/
theorem reusable?_eq_some_iff (accounts : state.AccountsFor grants) :
    state.reusable? key kind = some number ↔
      ∃ last, Grant.lastFor key grants = some last ∧ last.kind = kind ∧ last.number = number := by
  rw [reusable?, accounts.current, Option.filter_eq_some_iff, Option.map_eq_some_iff]
  constructor
  · rintro ⟨⟨last, found, rfl⟩, fits⟩
    obtain ⟨session, there, -, sameKind⟩ :=
      (accounts.holds last (Grant.lastFor_eq_some found).1).exists_session
    refine ⟨last, found, ?_, rfl⟩
    simpa [there, sameKind] using fits
  · rintro ⟨last, found, rfl, rfl⟩
    obtain ⟨session, there, -, sameKind⟩ :=
      (accounts.holds last (Grant.lastFor_eq_some found).1).exists_session
    exact ⟨⟨last, found, rfl⟩, by simp [there, sameKind]⟩

/-- A client that is given out under a key, again or for the first time, is the last one. -/
theorem acquire (accounts : state.AccountsFor grants) (key : ClientKey) (kind : CredentialKind) :
    let acquired := state.acquire key kind
    acquired.2.AccountsFor (⟨key, kind, acquired.1⟩ :: grants) := by
  cases reusable : state.reusable? key kind with
  | some number =>
      obtain ⟨last, found, rfl, rfl⟩ := accounts.reusable?_eq_some_iff.mp reusable
      obtain ⟨member, rfl⟩ := Grant.lastFor_eq_some found
      rw [acquire_of_reusable reusable]
      refine ⟨accounts.nodup, fun other => ?_, List.forall_mem_cons.mpr ⟨?_, accounts.holds⟩⟩
      · -- The table is as before, and so is the number at the head of the list.
        rw [accounts.current]
        by_cases same : last.key = other
        · subst same
          rw [found, Grant.lastFor_cons_self]
        · rw [Grant.lastFor_cons_of_ne same]
      · exact accounts.holds last member
  | none =>
      rw [acquire_of_not_reusable reusable]
      have longer : state.purposes <+: (state.replace key kind).purposes :=
        (List.prefix_append ..).map _
      refine ⟨nodup_replace accounts.nodup, fun other => ?_, List.forall_mem_cons.mpr ⟨?_, ?_⟩⟩
      · by_cases same : key = other
        · subst same
          rw [current?_replace_self, Grant.lastFor_cons_self ⟨key, kind, _⟩]
          rfl
        · rw [current?_replace_of_ne (Ne.symm same), accounts.current,
            Grant.lastFor_cons_of_ne same]
      · simp [Holds, purposes, replace, Session.purpose]
      · exact fun grant member => (accounts.holds grant member).mono longer

end AccountsFor

end SessionState

namespace Sessions

variable {settings : AzureSettings} {connection : ApiConnection World}
variable {surroundings : Surroundings World} {cluster : Cluster}

/-! ## Resolving -/

/-- How a cluster comes to a credential: the identity that it refers to is there, what it needs of a
secret is there too, and together they make the credential. The key is made of the subscription of
the cluster and the place of the identity. -/
structure ResolvesTo (settings : AzureSettings) (connection : ApiConnection World)
    (cluster : Cluster) (world : World) (key : ClientKey) (kind : CredentialKind) : Prop where
  subscription : key.subscriptionId = cluster.spec.subscriptionId
  place : identityKey cluster = .ok key.identity
  found : ∃ identity during secret?,
    connection.find? KubernetesError.hasMissingReason AzureIdentity.reader .identity key.identity
        world = (.ok (some identity), during) ∧
      (secretOf connection key.identity.space identity.spec during).1 = .ok secret? ∧
      CredentialKind.ofIdentity identity.spec secret? settings.tokenFile = .ok kind

theorem resolve_eq_ok_iff {world : World} {key : ClientKey} {kind : CredentialKind} :
    (resolve settings connection cluster world).1 = .ok (key, kind) ↔
      ResolvesTo settings connection cluster world key kind := by
  constructor
  · intro resolved
    obtain ⟨place, _, foundPlace, resolved⟩ := Action.bind_eq_ok_iff.mp resolved
    obtain ⟨identity?, during, found, resolved⟩ := Action.bind_eq_ok_iff.mp resolved
    obtain ⟨identity, _, there, resolved⟩ := Action.bind_eq_ok_iff.mp resolved
    obtain ⟨secret?, _, holds, resolved⟩ := Action.bind_eq_ok_iff.mp resolved
    obtain ⟨_, _, makes, resolved⟩ := Action.bind_eq_ok_iff.mp resolved
    cases resolved
    obtain ⟨isPlace, rfl⟩ : identityKey cluster = .ok place ∧ world = _ :=
      Prod.mk.inj foundPlace
    cases identity? with
    | none => cases there
    | some identity =>
        cases there
        exact ⟨rfl, isPlace, identity, during, secret?, found, congrArg Prod.fst holds,
          congrArg Prod.fst makes⟩
  · obtain ⟨subscriptionId, place⟩ := key
    rintro ⟨rfl, isPlace, identity, during, secret?, found, holds, makes⟩
    refine Action.bind_eq_ok_iff.mpr ⟨place, world, congrArg (·, world) isPlace, ?_⟩
    refine Action.bind_eq_ok_iff.mpr ⟨some identity, during, found, ?_⟩
    refine Action.bind_eq_ok_iff.mpr ⟨identity, during, rfl, ?_⟩
    refine Action.bind_eq_ok_iff.mpr ⟨secret?, _, Prod.ext holds rfl, ?_⟩
    exact Action.bind_eq_ok_iff.mpr ⟨kind, _, congrArg (·, _) makes, rfl⟩

/-! ## Calls -/

theorem numberFor_of_error {state : SessionState World} {error : Error}
    (unresolved : (resolve settings connection cluster state.world).1 = .error error) :
    let during := { state with world := (resolve settings connection cluster state.world).2 }
    numberFor settings connection cluster state = (.error error, during) := by
  simp only [numberFor, outside, Action.bind_run, Action.within_run, unresolved]

theorem numberFor_of_ok {state : SessionState World} {key : ClientKey} {kind : CredentialKind}
    (resolved : (resolve settings connection cluster state.world).1 = .ok (key, kind)) :
    let during := { state with world := (resolve settings connection cluster state.world).2 }
    numberFor settings connection cluster state =
      (.ok (during.acquire key kind).1, (during.acquire key kind).2) := by
  simp only [numberFor, outside, Action.bind_run, Action.within_run, resolved, Action.step_run]

theorem client_run (state : SessionState World) :
    (clients settings connection surroundings).client cluster state =
      let call := numberFor settings connection cluster state
      (call.1.map fun number => ⟨lookup settings surroundings number⟩, call.2) := by
  simp only [clients, Action.bind_run]
  cases numberFor settings connection cluster state with
  | mk result after => cases result <;> rfl

/-- A client with a number is for what its session is for. -/
theorem lookup_of_session {number : Nat} {session : Session} {state : SessionState World}
    (there : state.sessions[number]? = some session) (resourceGroup name : String) :
    lookup settings surroundings number resourceGroup name state =
      (client settings surroundings number session).lookup resourceGroup name state := by
  rw [lookup, Action.bind_run, Action.inspect_run, there]

/-- A call for a token changes no more than the token that the client keeps. -/
theorem token_keeps (number : Nat) (session : Session) :
    (token settings surroundings number session).Keeps SessionState.SameClients := by
  refine fun state => ⟨List.ext_getElem? fun other => ?_, rfl⟩
  simp only [SessionState.purposes, token, List.getElem?_map, List.getElem?_modify]
  cases state.sessions[other]? with
  | none => rfl
  | some session =>
      by_cases same : number = other
      · simp [same, Session.purpose]
      · simp [same]

/-- Neither does a look-up. -/
theorem lookup_keeps (number : Nat) (resourceGroup name : String) :
    (lookup settings surroundings number resourceGroup name).Keeps SessionState.SameClients := by
  refine .bind .trans (fun _ => ⟨rfl, rfl⟩) fun _ session? _ => ?_
  cases session? with
  | none => exact fun _ => ⟨rfl, rfl⟩
  | some session =>
      refine .bind .trans (token_keeps number session) fun _ text _ => ?_
      refine .bind .trans ?_ fun _ reply? _ _ => ⟨rfl, rfl⟩
      cases ResourceManager.request? _ text resourceGroup name with
      | error problem => exact fun _ => ⟨rfl, rfl⟩
      | ok request =>
          refine .bind .trans (fun _ => ⟨rfl, rfl⟩) fun _ reply? _ => ?_
          cases reply? <;> exact fun _ => ⟨rfl, rfl⟩

/-! ## Runs -/

/-- All that can happen to the clients, with a list of the ones that were given out, the last one
first. -/
inductive Reached (settings : AzureSettings) (connection : ApiConnection World)
    (surroundings : Surroundings World) : SessionState World → List Grant → Prop where
  /-- At first there are none. -/
  | start (world : World) : Reached settings connection surroundings { world } []
  /-- Identities, secrets and everything else outside may change in any way. -/
  | changed {state grants} (world : World) : Reached settings connection surroundings state grants →
      Reached settings connection surroundings { state with world } grants
  /-- A client may be used, and gets itself tokens. -/
  | used {state grants} (number : Nat) (resourceGroup name : String) :
      Reached settings connection surroundings state grants →
      Reached settings connection surroundings
        (lookup settings surroundings number resourceGroup name state).2 grants
  /-- A client may be asked for in vain. -/
  | refused {state grants cluster error after} :
      Reached settings connection surroundings state grants →
      numberFor settings connection cluster state = (.error error, after) →
      Reached settings connection surroundings after grants
  /-- A client may be given out. -/
  | granted {state grants cluster key kind number after} :
      Reached settings connection surroundings state grants →
      ResolvesTo settings connection cluster state.world key kind →
      numberFor settings connection cluster state = (.ok number, after) →
      Reached settings connection surroundings after (⟨key, kind, number⟩ :: grants)

/-- The list accounts for the current clients, whatever has happened. -/
theorem Reached.accountsFor {state : SessionState World} {grants : List Grant}
    (reached : Reached settings connection surroundings state grants) :
    state.AccountsFor grants := by
  induction reached with
  | start world => exact .start world
  | changed world _ accounts => exact accounts.of_sameClients ⟨rfl, rfl⟩
  | used number resourceGroup name _ accounts =>
      exact accounts.of_sameClients (lookup_keeps number resourceGroup name _)
  | @refused state _ cluster _ _ _ call accounts =>
      cases resolved : (resolve settings connection cluster state.world).1 with
      | error error =>
          rw [numberFor_of_error resolved] at call
          cases call
          exact accounts.of_sameClients ⟨rfl, rfl⟩
      | ok =>
          rw [numberFor_of_ok resolved] at call
          cases call
  | @granted state grants cluster _ _ _ _ _ resolves call accounts =>
      rw [numberFor_of_ok (resolve_eq_ok_iff.mpr resolves)] at call
      cases call
      let during := { state with world := (resolve settings connection cluster state.world).2 }
      have accounts : during.AccountsFor grants := accounts.of_sameClients ⟨rfl, rfl⟩
      exact accounts.acquire _ _

/-- What a call gives out that succeeds, if some clients were given out before it. -/
structure GivesOut (settings : AzureSettings) (connection : ApiConnection World)
    (surroundings : Surroundings World) (cluster : Cluster) (grants : List Grant)
    (state after : SessionState World) (client : EndpointsClient (SessionState World))
    (grant : Grant) (session : Session) : Prop where
  /-- The credential is the one that the identity of the cluster resolves to during the call. -/
  resolves : ResolvesTo settings connection cluster state.world grant.key grant.kind
  isGranted : numberFor settings connection cluster state = (.ok grant.number, after)
  isNumbered : client = ⟨lookup settings surroundings grant.number⟩
  /-- The client is for the subscription of the cluster and has the credential. -/
  isThere : after.sessions[grant.number]? = some session
  looksUp : ∀ resourceGroup name, client.lookup resourceGroup name after =
    (Sessions.client settings surroundings grant.number session).lookup resourceGroup name after
  subscription : session.subscriptionId = cluster.spec.subscriptionId
  credential : session.kind = grant.kind
  /-- It was there before exactly if the last call that succeeded under its key was for the same
  credential. -/
  isShared_iff : state.sessions[grant.number]? = some session ↔
    ∃ last, Grant.lastFor grant.key grants = some last ∧ last.kind = grant.kind
  /-- Then it is the client that was given out last, and no client has changed. -/
  isLast : ∀ last, Grant.lastFor grant.key grants = some last → last.kind = grant.kind →
    grant.number = last.number ∧ after.sessions = state.sessions ∧ after.current = state.current
  /-- Otherwise it is new and has no token. -/
  isNew : state.sessions[grant.number]? ≠ some session →
    grant.number = state.sessions.length ∧ session.cached = none

/-- A call for a cluster that resolves to a credential gives out a client. -/
theorem exists_givesOut {state : SessionState World} {grants : List Grant} {key : ClientKey}
    {kind : CredentialKind} (accounts : state.AccountsFor grants)
    (resolves : ResolvesTo settings connection cluster state.world key kind) :
    let call := (clients settings connection surroundings).client cluster state
    ∃ client grant session, call.1 = .ok client ∧
      GivesOut settings connection surroundings cluster grants state call.2 client grant
        session := by
  intro call
  let during := { state with world := (resolve settings connection cluster state.world).2 }
  have accounts : during.AccountsFor grants := accounts.of_sameClients ⟨rfl, rfl⟩
  have isGranted : numberFor settings connection cluster state =
      (.ok (during.acquire key kind).1, (during.acquire key kind).2) :=
    numberFor_of_ok (resolve_eq_ok_iff.mpr resolves)
  have callIs : call = (.ok ⟨lookup settings surroundings (during.acquire key kind).1⟩,
      (during.acquire key kind).2) := by
    simp only [call, client_run, isGranted]
    rfl
  cases reusable : during.reusable? key kind with
  | some number =>
      obtain ⟨last, found, rfl, rfl⟩ := accounts.reusable?_eq_some_iff.mp reusable
      obtain ⟨member, rfl⟩ := Grant.lastFor_eq_some found
      obtain ⟨session, there, sameSubscription, sameKind⟩ :=
        (accounts.holds last member).exists_session
      rw [SessionState.acquire_of_reusable reusable] at isGranted callIs
      rw [callIs]
      exact ⟨_, last, session, rfl, {
        resolves
        isGranted
        isNumbered := rfl
        isThere := there
        looksUp := lookup_of_session there
        subscription := sameSubscription.trans resolves.subscription
        credential := sameKind
        isShared_iff := iff_of_true there ⟨last, found, rfl⟩
        isLast := fun last' found' _ => by
          cases found.symm.trans found'
          exact ⟨rfl, rfl, rfl⟩
        isNew := fun notThere => absurd there notThere }⟩
  | none =>
      have noLast : ¬ ∃ last, Grant.lastFor key grants = some last ∧ last.kind = kind := by
        rintro ⟨last, found, sameKind⟩
        have reusable' := accounts.reusable?_eq_some_iff.mpr ⟨last, found, sameKind, rfl⟩
        cases reusable.symm.trans reusable'
      rw [SessionState.acquire_of_not_reusable reusable] at isGranted callIs
      rw [callIs]
      exact ⟨_, ⟨key, kind, state.sessions.length⟩, { subscriptionId := key.subscriptionId, kind },
        rfl, {
        resolves
        isGranted
        isNumbered := rfl
        isThere := List.getElem?_concat_length
        looksUp := lookup_of_session List.getElem?_concat_length
        subscription := resolves.subscription
        credential := rfl
        isShared_iff := iff_of_false (by simp) noLast
        isLast := fun last found sameKind => absurd ⟨last, found, sameKind⟩ noLast
        isNew := fun _ => ⟨rfl, rfl⟩ }⟩

/-- Whatever clusters clients were asked for, and however identities and secrets change: under a key
there is one current client at most, and every client that was given out is still for the
subscription and the credential that it was given out for. A call for one more fails only if the
identity of the cluster resolves to no credential, and then the clients are as before. Otherwise it
gives out a client for the subscription of the cluster, with the credential that the identity
resolves to now. -/
theorem clients_are_shared_by_credential (settings : AzureSettings)
    (connection : ApiConnection World) (surroundings : Surroundings World)
    {state : SessionState World} {grants : List Grant}
    (reached : Reached settings connection surroundings state grants) (cluster : Cluster) :
    let call := (clients settings connection surroundings).client cluster state
    (state.current.map (·.1)).Nodup ∧ (∀ grant ∈ grants, state.Holds grant) ∧
      (∀ error, call.1 = .error error →
        (resolve settings connection cluster state.world).1 = .error error ∧
          call.2.sessions = state.sessions ∧ call.2.current = state.current) ∧
      ∀ client, call.1 = .ok client → ∃ grant session,
        GivesOut settings connection surroundings cluster grants state call.2 client grant
          session := by
  intro call
  have accounts := reached.accountsFor
  refine ⟨accounts.nodup, accounts.holds, ?_⟩
  cases resolved : (resolve settings connection cluster state.world).1 with
  | error error =>
      have callIs : call = _ := client_run state
      rw [numberFor_of_error resolved] at callIs
      rw [callIs]
      refine ⟨fun error fails => ?_, fun _ succeeds => nomatch succeeds⟩
      cases fails
      exact ⟨rfl, rfl, rfl⟩
  | ok _ =>
      obtain ⟨client, grant, session, succeeds, givesOut⟩ :=
        exists_givesOut accounts (resolve_eq_ok_iff.mp resolved)
      refine ⟨fun error fails => ?_, fun client' succeeds' => ?_⟩
      · cases succeeds.symm.trans fails
      · cases succeeds.symm.trans succeeds'
        exact ⟨grant, session, givesOut⟩

/-! ## An identity -/

/-- An identity that the machine vouches for, for one client at first and for another one later. -/
def mainIdentity (isLater : Bool) : AzureIdentity where
  metadata := { name := some "main" }
  spec := { type := .userAssignedMsi, clientId := if isLater then "later" else "first" }

/-- An API server that has this identity. -/
def mainServer : ApiConnection Bool where
  send _ := fun isLater => (.ok ⟨200, .document (mainIdentity isLater).write⟩, isLater)

/-- A cluster that refers to it. -/
def referring : Cluster where
  metadata := { name := some "red", space := some "default" }
  spec := { subscriptionId := "subscription", identityRef := some { name := "main" } }

def referringKey : ClientKey := ⟨"subscription", ⟨"default", "main"⟩⟩

theorem referring_resolvesTo : ∀ isLater,
    ResolvesTo {} mainServer referring isLater referringKey
      (.managedIdentity (mainIdentity isLater).spec.clientId) := by
  have resolves : ∀ isLater, (resolve {} mainServer referring isLater).1 =
      .ok (referringKey, .managedIdentity (mainIdentity isLater).spec.clientId) := by
    decide +kernel
  exact fun isLater => resolve_eq_ok_iff.mp (resolves isLater)

/-- Surroundings from which no answer comes. -/
def silence : Surroundings Bool where
  send _ := pure none
  now _ := 0
  readFile path _ := .error (path ++ " is not there")

/-- The client that is given out at first. -/
def firstGrant : Grant := ⟨referringKey, .managedIdentity "first", 0⟩

/-- The clients after the first one was given out. -/
def afterFirst : SessionState Bool where
  sessions := [{ subscriptionId := "subscription", kind := .managedIdentity "first" }]
  current := [(referringKey, 0)]
  world := false

theorem reached_afterFirst : Reached {} mainServer silence afterFirst [firstGrant] := by
  have given : numberFor {} mainServer referring ({ world := false } : SessionState Bool) =
      (.ok 0, afterFirst) := by
    rw [numberFor_of_ok (resolve_eq_ok_iff.mpr (referring_resolvesTo false))]
    rfl
  exact .granted (.start false) (referring_resolvesTo false) given

/-- The cluster gets this client again as long as its identity stays, and another one once it has
changed. -/
theorem referring_gets_another_client_later :
    let call isLater :=
      (clients {} mainServer silence).client referring { afterFirst with world := isLater }
    Reached {} mainServer silence afterFirst [firstGrant] ∧
      (∃ client grant session, (call false).1 = .ok client ∧ grant.number = 0 ∧
        GivesOut {} mainServer silence referring [firstGrant] afterFirst (call false).2 client grant
          session) ∧
      ∃ client grant session, (call true).1 = .ok client ∧ grant.number = 1 ∧
        GivesOut {} mainServer silence referring [firstGrant] { afterFirst with world := true }
          (call true).2 client grant session := by
  intro call
  have gives (isLater : Bool) : ∃ client grant session, (call isLater).1 = .ok client ∧
      grant.key = referringKey ∧
      grant.kind = .managedIdentity (mainIdentity isLater).spec.clientId ∧
      GivesOut {} mainServer silence referring [firstGrant] { afterFirst with world := isLater }
        (call isLater).2 client grant session := by
    have resolved := resolve_eq_ok_iff.mpr (referring_resolvesTo isLater)
    obtain ⟨-, -, failing, succeeding⟩ := clients_are_shared_by_credential {} mainServer silence
      (reached_afterFirst.changed isLater) referring
    cases ends : (call isLater).1 with
    | error error =>
        have unresolved := (failing error ends).1
        rw [resolved] at unresolved
        cases unresolved
    | ok client =>
        obtain ⟨grant, session, givesOut⟩ := succeeding client ends
        have same := resolved.symm.trans (resolve_eq_ok_iff.mpr givesOut.resolves)
        simp only [Except.ok.injEq, Prod.mk.injEq] at same
        exact ⟨client, grant, session, rfl, same.1.symm, same.2.symm, givesOut⟩
  refine ⟨reached_afterFirst, ?_, ?_⟩
  · obtain ⟨client, grant, session, succeeds, isKey, isKind, givesOut⟩ := gives false
    have isLast : Grant.lastFor grant.key [firstGrant] = some firstGrant := by
      rw [isKey]
      exact Grant.lastFor_cons_self firstGrant []
    exact ⟨client, grant, session, succeeds, (givesOut.isLast _ isLast isKind.symm).1, givesOut⟩
  · obtain ⟨client, grant, session, succeeds, isKey, isKind, givesOut⟩ := gives true
    have notThere : { afterFirst with world := true }.sessions[grant.number]? ≠ some session := by
      rw [Ne, givesOut.isShared_iff, isKind]
      rintro ⟨last, found, sameKind⟩
      obtain ⟨member, -⟩ := Grant.lastFor_eq_some found
      cases List.mem_singleton.mp member
      revert sameKind
      decide +kernel
    exact ⟨client, grant, session, succeeds, (givesOut.isNew notThere).1, givesOut⟩

end Sessions

end ClusterLinks
