import ClusterLinks.Kubernetes.Server
import ClusterLinks.Proofs.Azure.SecretsApart
import ClusterLinks.Proofs.Azure.SharedClients

/-!
# Secrets that stay hidden

The secret of a service principal goes into the form that is posted for a token, and nowhere else.
So take two worlds that differ in nothing but what secrets hold for service principals, and use
clients in both of them in the same way. Everything that a call comes to is the same in both, texts
of failures included, and so is everything that is sent, apart from the forms.

The credentials of two clients under the same key are compared, and this comparison does look at
secrets. It comes out the same as long as identities and secrets do not change: then there is one
credential for a key in each of the worlds.
-/

namespace ClusterLinks

variable {World : Type}

/-! ## Clients -/

namespace SessionState

variable {made : ObjectKey → Except Error CredentialKind} {state : SessionState World}
variable {key : ClientKey} {kind : CredentialKind}

/-- Every current client has the credential that its identity makes. -/
def IsSettled (made : ObjectKey → Except Error CredentialKind) (state : SessionState World) :
    Prop :=
  ∀ entry ∈ state.current, ∃ kind, made entry.1.identity = .ok kind ∧
    state.sessions[entry.2]?.map (·.kind) = some kind

/-- A client is given out again whenever there is one, since it has the credential. -/
theorem IsSettled.reusable?_eq (settled : state.IsSettled made)
    (isMade : made key.identity = .ok kind) : state.reusable? key kind = state.current? key := by
  cases found : state.current? key with
  | none => rw [reusable?, found, Option.filter_none]
  | some number =>
      obtain ⟨entry, member, rfl⟩ := Option.map_eq_some_iff.mp found
      obtain ⟨kind', isMade', there⟩ := settled entry (List.mem_of_find?_eq_some member)
      have isKey : entry.1 = key := by simpa using List.find?_some member
      rw [isKey, isMade] at isMade'
      cases isMade'
      rw [reusable?, found, Option.filter_some, there, decide_eq_true rfl, if_pos rfl]

theorem IsSettled.replace (settled : state.IsSettled made)
    (isMade : made key.identity = .ok kind) : (state.replace key kind).IsSettled made := by
  intro entry member
  obtain rfl | member := List.mem_cons.mp member
  · exact ⟨kind, isMade, by simp [SessionState.replace]⟩
  · obtain ⟨kind', isMade', there⟩ := settled entry (List.mem_of_mem_filter member)
    refine ⟨kind', isMade', ?_⟩
    obtain ⟨session, found, rfl⟩ := Option.map_eq_some_iff.mp there
    have inside := (List.getElem?_eq_some_iff.mp found).1
    rw [SessionState.replace, List.getElem?_append_left inside, found]
    rfl

theorem IsSettled.acquire (settled : state.IsSettled made)
    (isMade : made key.identity = .ok kind) : (state.acquire key kind).2.IsSettled made := by
  cases reusable : state.reusable? key kind with
  | some number => rwa [acquire_of_reusable reusable]
  | none =>
      rw [acquire_of_not_reusable reusable]
      exact settled.replace isMade

theorem IsSettled.of_sameClients {after : SessionState World} (settled : state.IsSettled made)
    (same : SameClients state after) : after.IsSettled made := by
  have kinds : ∀ (state : SessionState World) (number : Nat),
      state.sessions[number]?.map (·.kind) = state.purposes[number]?.map Prod.snd := by
    intro state number
    rw [purposes, List.getElem?_map, Option.map_map]
    rfl
  intro entry member
  rw [same.current] at member
  obtain ⟨kind, isMade, there⟩ := settled entry member
  exact ⟨kind, isMade, by rw [kinds, same.purposes, ← kinds, there]⟩

end SessionState

/-- The client without the secret in its credential. -/
def Session.shown (session : Session) : Session :=
  { session with kind := session.kind.shown }

namespace Sessions

/-- A token that a client keeps can be seen. -/
theorem map_shown_modify (sessions : List Session) (number : Nat) (cached : Option CachedToken) :
    (sessions.modify number ({ · with cached := cached })).map Session.shown =
      (sessions.map Session.shown).modify number ({ · with cached := cached }) := by
  refine List.ext_getElem? fun other => ?_
  simp only [List.getElem?_map, List.getElem?_modify]
  cases sessions[other]? with
  | none => rfl
  | some session => by_cases same : number = other <;> simp [same, Session.shown]

/-- The clients of two worlds differ in nothing but the secrets in their credentials. -/
structure StatesAlike (settings : AzureSettings) (identities : ObjectKey → IdentitySpec)
    (texts texts' : ObjectKey → String) (alike : World → World → Prop)
    (state state' : SessionState (Overheard World)) : Prop where
  current : state.current = state'.current
  sessions : state.sessions.map Session.shown = state'.sessions.map Session.shown
  isSettled : state.IsSettled (credentialOf settings identities texts)
  isSettled' : state'.IsSettled (credentialOf settings identities texts')
  world : OverheardAlike alike state.world state'.world

section TwoWorlds

variable {settings : AzureSettings} {connection : ApiConnection World}
variable {surroundings : Surroundings World} {identities : ObjectKey → IdentitySpec}
variable {texts texts' : ObjectKey → String} {alike : World → World → Prop}
variable {state state' : SessionState (Overheard World)}

/-- A client under a key is given out again in both worlds, or a new one is made in both. -/
theorem StatesAlike.acquire
    (holds : StatesAlike settings identities texts texts' alike state state') {key : ClientKey}
    {kind kind' : CredentialKind}
    (pair : CredentialPair settings identities texts texts' key.identity kind kind') :
    (state.acquire key kind).1 = (state'.acquire key kind').1 ∧
      StatesAlike settings identities texts texts' alike (state.acquire key kind).2
        (state'.acquire key kind').2 := by
  have reusable := holds.isSettled.reusable?_eq pair.isMade
  have reusable' := holds.isSettled'.reusable?_eq pair.isMade'
  have current : state'.current? key = state.current? key := by
    rw [SessionState.current?, ← holds.current, SessionState.current?]
  have isSettled := holds.isSettled.acquire pair.isMade
  have isSettled' := holds.isSettled'.acquire pair.isMade'
  rw [current] at reusable'
  cases found : state.current? key with
  | some number =>
      rw [found] at reusable reusable'
      rw [SessionState.acquire_of_reusable reusable, SessionState.acquire_of_reusable reusable']
      exact ⟨rfl, holds⟩
  | none =>
      rw [found] at reusable reusable'
      rw [SessionState.acquire_of_not_reusable reusable] at isSettled ⊢
      rw [SessionState.acquire_of_not_reusable reusable'] at isSettled' ⊢
      have lengths : state.sessions.length = state'.sessions.length := by
        simpa using congrArg List.length holds.sessions
      refine ⟨lengths, ?_, ?_, isSettled, isSettled', holds.world⟩
      · simp only [SessionState.replace, holds.current, lengths]
      · simp only [SessionState.replace, List.map_append, holds.sessions, List.map_cons,
          List.map_nil, Session.shown, pair.shown]

theorem numberFor_matches
    (differ : DifferInSecrets connection surroundings identities texts texts' alike)
    (settings : AzureSettings) (cluster : Cluster) :
    let call := numberFor settings connection.overheard cluster
    call.Matches call (StatesAlike settings identities texts texts' alike) := by
  intro call state state' holds
  have agree := resolve_agrees differ settings cluster _ _ holds.world
  cases resolved : resolve settings connection.overheard cluster state.world with
  | mk result after =>
  cases resolved' : resolve settings connection.overheard cluster state'.world with
  | mk result' after' =>
    rw [resolved, resolved'] at agree
    cases agree with
    | error worlds =>
        simp only [call, numberFor_of_error (congrArg Prod.fst resolved),
          numberFor_of_error (congrArg Prod.fst resolved'), resolved, resolved']
        exact .error { holds with world := worlds }
    | @ok found found' _ _ agreed =>
        obtain ⟨key, kind⟩ := found
        obtain ⟨key', kind'⟩ := found'
        obtain ⟨⟨sameKey, pair⟩, worlds⟩ := agreed
        cases sameKey
        have during : StatesAlike settings identities texts texts' alike
            { state with world := after } { state' with world := after' } :=
          { holds with world := worlds }
        obtain ⟨numbers, states⟩ := during.acquire pair
        simp only [call, numberFor_of_ok (congrArg Prod.fst resolved),
          numberFor_of_ok (congrArg Prod.fst resolved'), resolved, resolved', numbers]
        exact .ok ⟨rfl, states⟩

/-- What is there under a number is alike in both worlds. -/
theorem StatesAlike.session
    (holds : StatesAlike settings identities texts texts' alike state state') (number : Nat) :
    state.sessions[number]?.map Session.shown = state'.sessions[number]?.map Session.shown := by
  rw [← List.getElem?_map, ← List.getElem?_map, holds.sessions]

theorem token_matches
    (differ : DifferInSecrets connection surroundings identities texts texts' alike)
    (number : Nat) {session session' : Session} (same : session.shown = session'.shown) :
    (token settings surroundings.overheard number session).Matches
      (token settings surroundings.overheard number session')
      (StatesAlike settings identities texts texts' alike) := by
  rw [Action.Matches.iff_results]
  intro state state' holds
  have cached : (state.sessions[number]?).bind (·.cached) =
      (state'.sessions[number]?).bind (·.cached) := by
    have shown := congrArg (Option.bind · Session.cached) (holds.session number)
    rwa [Option.bind_map, Option.bind_map] at shown
  let credential (session : Session) : Credential :=
    { kind := session.kind, authorityHost := settings.authorityHost }
  have credentials : (credential session).shown = (credential session').shown := by
    have kinds : session.kind.shown = session'.kind.shown := congrArg Session.kind same
    simp only [credential, Credential.shown, kinds]
  obtain ⟨results, tokens, worlds⟩ := Action.Matches.iff_results.mp
    (Credential.token_matches differ.isBlind.overheard credentials)
    ⟨(state.sessions[number]?).bind (·.cached), state.world⟩
    ⟨(state'.sessions[number]?).bind (·.cached), state'.world⟩ ⟨cached, holds.world⟩
  refine ⟨results, holds.current, ?_, ?_, ?_, worlds⟩
  · simp only [token, map_shown_modify, holds.sessions]
    exact congrArg _ (funext fun session => by rw [tokens])
  · exact holds.isSettled.of_sameClients (token_keeps number session state)
  · exact holds.isSettled'.of_sameClients (token_keeps number session' state')

theorem lookup_matches
    (differ : DifferInSecrets connection surroundings identities texts texts' alike)
    (settings : AzureSettings) (number : Nat) (resourceGroup name : String) :
    let call := lookup settings surroundings.overheard number resourceGroup name
    call.Matches call (StatesAlike settings identities texts texts' alike) := by
  have sessions : (Action.inspect fun state : SessionState (Overheard World) =>
      state.sessions[number]?).Agrees (Action.inspect (·.sessions[number]?))
      (StatesAlike settings identities texts texts' alike)
      (StatesAlike settings identities texts texts' alike)
      fun session? session?' state state' => session?.map Session.shown =
        session?'.map Session.shown ∧ StatesAlike settings identities texts texts' alike state
          state' :=
    fun _ _ holds => .ok ⟨holds.session number, holds⟩
  refine sessions.bind fun session? session?' => ?_
  rintro state state' ⟨same, holds⟩
  cases session? with
  | none =>
      cases session?' with
      | none => exact .ok ⟨rfl, holds⟩
      | some session' => cases same
  | some session =>
      cases session?' with
      | none => cases same
      | some session' =>
          have same : session.shown = session'.shown := Option.some.inj same
          have subscriptions := congrArg Session.subscriptionId same
          change session.subscriptionId = session'.subscriptionId at subscriptions
          have outside : (surroundings.overheard.within (fun state : SessionState _ => state.world)
              fun world state => { state with world }).IsBlind
              (StatesAlike settings identities texts texts' alike) :=
            differ.isBlind.overheard.within (fun _ _ holds => holds.world)
              fun _ _ holds _ _ worlds => { holds with world := worlds }
          refine Action.Matches.bind (token_matches differ number same) (fun text => ?_) _ _ holds
          rw [subscriptions]
          exact (outside.ask rfl).bind fun reply? => Action.Matches.ofExcept _

end TwoWorlds

/-! ## Runs -/

/-- What is done with clients. -/
inductive Use where
  /-- A client is asked for. -/
  | client (cluster : Cluster)
  /-- An endpoint is looked up through the client that a call has come to; calls are counted from
  zero. -/
  | lookup (call : Nat) (resourceGroup name : String)

/-- What a use comes to. -/
inductive Outcome where
  /-- Which client it is, or why there is none. -/
  | client (result : Except Error Nat)
  | lookup (result : Except Error (Option EndpointResource))
  /-- The call has come to no client, so nothing is looked up. -/
  | nothing
  deriving DecidableEq

/-- Uses clients once: `handed` says which clients the calls so far have come to. -/
def useOnce (settings : AzureSettings) (connection : ApiConnection World)
    (surroundings : Surroundings World) (handed : List (Option Nat)) (state : SessionState World) :
    Use → Outcome × List (Option Nat) × SessionState World
  | .client cluster =>
      let (result, after) := numberFor settings connection cluster state
      (.client result, handed ++ [result.toOption], after)
  | .lookup call resourceGroup name =>
      match handed[call]?.join with
      | some number =>
          let (result, after) := lookup settings surroundings number resourceGroup name state
          (.lookup result, handed, after)
      | none => (.nothing, handed, state)

/-- Uses clients one time after the other. -/
def use (settings : AzureSettings) (connection : ApiConnection World)
    (surroundings : Surroundings World) : List (Option Nat) → SessionState World → List Use →
    List Outcome × SessionState World
  | _, state, [] => ([], state)
  | handed, state, next :: rest =>
      let (outcome, handed, state) := useOnce settings connection surroundings handed state next
      let (outcomes, state) := use settings connection surroundings handed state rest
      (outcome :: outcomes, state)

/-- What a world shows of clients that are used in it: what comes out, and all that is sent but the
forms. -/
def shown (settings : AzureSettings) (connection : ApiConnection World)
    (surroundings : Surroundings World) (uses : List Use) (world : World) :
    List Outcome × List Sent :=
  let (outcomes, state) :=
    use settings connection.overheard surroundings.overheard [] { world := (world, []) } uses
  (outcomes, state.world.2.map Sent.shown)

section TwoWorlds

variable {settings : AzureSettings} {connection : ApiConnection World}
variable {surroundings : Surroundings World} {identities : ObjectKey → IdentitySpec}
variable {texts texts' : ObjectKey → String} {alike : World → World → Prop}

theorem useOnce_agrees
    (differ : DifferInSecrets connection surroundings identities texts texts' alike)
    (handed : List (Option Nat)) {state state' : SessionState (Overheard World)}
    (holds : StatesAlike settings identities texts texts' alike state state') (next : Use) :
    let once := useOnce settings connection.overheard surroundings.overheard handed state next
    let once' := useOnce settings connection.overheard surroundings.overheard handed state' next
    once.1 = once'.1 ∧ once.2.1 = once'.2.1 ∧
      StatesAlike settings identities texts texts' alike once.2.2 once'.2.2 := by
  cases next with
  | client cluster =>
      obtain ⟨results, states⟩ := Action.Matches.iff_results.mp
        (numberFor_matches differ settings cluster) state state' holds
      simp only [useOnce, results, true_and]
      exact states
  | lookup call resourceGroup name =>
      cases found : handed[call]?.join with
      | none =>
          simp only [useOnce, found, true_and]
          exact holds
      | some number =>
          obtain ⟨results, states⟩ := Action.Matches.iff_results.mp
            (lookup_matches differ settings number resourceGroup name) state state'
            holds
          simp only [useOnce, found, results, true_and]
          exact states

theorem use_agrees
    (differ : DifferInSecrets connection surroundings identities texts texts' alike)
    (handed : List (Option Nat)) {state state' : SessionState (Overheard World)}
    (holds : StatesAlike settings identities texts texts' alike state state') (uses : List Use) :
    let run := use settings connection.overheard surroundings.overheard handed state uses
    let run' := use settings connection.overheard surroundings.overheard handed state' uses
    run.1 = run'.1 ∧ StatesAlike settings identities texts texts' alike run.2 run'.2 := by
  induction uses generalizing handed state state' with
  | nil => exact ⟨rfl, holds⟩
  | cons next rest ih =>
      obtain ⟨outcome, handed', states⟩ := useOnce_agrees differ handed holds next
      obtain ⟨outcomes, states⟩ :=
        ih (useOnce settings connection.overheard surroundings.overheard handed state' next).2.1
          states
      simp only [use, outcome, handed', outcomes, true_and]
      exact states

/-- However clients are used, nobody can tell from what comes out and from what is sent which
secrets there are: in two worlds that differ only in what secrets hold for service principals every
call comes to the same, be it a client, an endpoint or the text of a failure, and the same requests
are sent to the API server and everywhere else, apart from the forms that are posted for tokens. -/
theorem shown_eq_of_differInSecrets (settings : AzureSettings)
    (differ : DifferInSecrets connection surroundings identities texts texts' alike)
    {world world' : World} (start : alike world world') (uses : List Use) :
    shown settings connection surroundings uses world =
      shown settings connection surroundings uses world' := by
  have holds : StatesAlike settings identities texts texts' alike { world := (world, []) }
      { world := (world', []) } := ⟨rfl, rfl, nofun, nofun, start, rfl⟩
  obtain ⟨outcomes, states⟩ := use_agrees differ [] holds uses
  simp only [shown, outcomes, states.world.2]

end TwoWorlds

/-! ## A vault -/

/-- A service principal with a secret. -/
def vaultIdentity : AzureIdentity where
  metadata := { name := some "main" }
  spec :=
    { type := .manualServicePrincipal, clientId := "client", tenantId := "tenant"
      clientSecret := some { name := "main-secret" } }

/-- What its secret holds: one text or another one. -/
def vaultText (isOther : Bool) : String :=
  if isOther then "beta" else "alpha"

/-- The secret, with the text in base64. -/
def vaultSecret (isOther : Bool) : Json :=
  .object [("data", .object
    [("clientSecret", .string (if isOther then "YmV0YQ==" else "YWxwaGE="))])]

/-- An API server with the service principal and its secret. -/
def vaultServer (isOther : Bool) : ApiServer :=
  (ApiServer.put {} .identity ⟨"default", "main"⟩ vaultIdentity.write).put .secret
    ⟨"default", "main-secret"⟩ (vaultSecret isOther)

/-- A connection to it in a world that is only about the text. -/
def vault : ApiConnection Bool where
  send request := fun isOther => (.ok ((vaultServer isOther).handle request).1, isOther)

/-- Surroundings in which there is always a token, and an endpoint for everybody who asks. -/
def openHouse : Surroundings Bool where
  send request :=
    match request.method with
    | .post => pure (some ⟨200, .document (.object [("access_token", .string "token"),
        ("expires_in", .integer 3600)])⟩)
    | .get => pure (some ⟨200, .document (.object [("name", .string "api-privateendpoint")])⟩)
  now _ := 0
  readFile path _ := .error (path ++ " is not there")

end Sessions

/-- The path that is read is the beginning of the text. -/
theorem RequestTarget.path_of_readPath? {text : List Char} {path : String} {query : Option String}
    (reads : readPath? text = some (path, query)) :
    path = String.ofList (text.takeWhile isPathCharacter) := by
  unfold readPath? at reads
  grind

namespace Sessions

/-- The path of a request for an object begins as the path of the object does. -/
theorem isPrefix_path {kind : ObjectKind} {key : ObjectKey} {request : ApiRequest}
    {root : List Char} (begins : '/' :: root <+: (kind.path key).toList)
    (plain : ∀ c ∈ '/' :: root, RequestTarget.isPathCharacter c = true)
    (made : ApiRequest.get? kind key = some request) : '/' :: root <+: request.path.toList := by
  obtain ⟨target, isTarget, rfl⟩ := Option.map_eq_some_iff.mp made
  obtain ⟨rest, begins⟩ := begins
  have isPath : target.path.toList =
      ('/' :: root ++ rest).takeWhile RequestTarget.isPathCharacter := by
    unfold ApiRequest.target? RequestTarget.ofText? at isTarget
    rw [String.append_empty, ← begins] at isTarget
    split at isTarget
    · cases isTarget
    · split at isTarget
      · cases isTarget
      · obtain ⟨⟨path, query⟩, reads, rfl⟩ := Option.map_eq_some_iff.mp isTarget
        rw [RequestTarget.path_of_readPath? reads, String.toList_ofList]
        rfl
  rw [ApiRequest.path, ApiRequest.target, isPath, List.takeWhile_append_of_pos plain]
  exact List.prefix_append ..

/-- The paths of identities begin with what the path of a secret does not begin with. -/
theorem identity_path_ne {key : ObjectKey} {request : ApiRequest}
    (made : ApiRequest.get? .identity key = some request) :
    request.path ≠ ObjectKind.secret.path ⟨"default", "main-secret"⟩ := by
  have begins : '/' :: "apis".toList <+: (ObjectKind.identity.path key).toList := by
    have root : '/' :: "apis".toList <+:
        "/apis/infrastructure.cluster.x-k8s.io/v1beta1/namespaces/".toList := by
      decide +kernel
    have isText : ObjectKind.identity.path key =
        "/apis/infrastructure.cluster.x-k8s.io/v1beta1/namespaces/" ++
          (key.space ++ "/azureclusteridentities" ++ "/" ++ key.name) := by
      rw [← String.append_assoc, ← String.append_assoc, ← String.append_assoc]
      rfl
    rw [isText, String.toList_append]
    exact root.trans (List.prefix_append ..)
  have isPrefix := isPrefix_path begins (List.all_eq_true.mp (by decide)) made
  intro same
  rw [same] at isPrefix
  revert isPrefix
  decide +kernel

theorem vault_send (target : RequestTarget) (isOther : Bool) :
    vault.send (.get target) isOther =
      (.ok (if target.path = ObjectKind.secret.path ⟨"default", "main-secret"⟩ then
          ApiServer.found (vaultSecret isOther)
        else if target.path = ObjectKind.identity.path ⟨"default", "main"⟩ then
          ApiServer.found vaultIdentity.write
        else ApiServer.refused 404 "NotFound" (target.path ++ " not found")), isOther) := by
  simp only [vault, ApiServer.handle, vaultServer, ApiServer.put, Dictionary.get?_insert,
    ApiRequest.path, ApiRequest.target]
  split_ifs <;> rfl

theorem openHouse_isBlind (alike : Bool → Bool → Prop) : openHouse.IsBlind alike where
  send request request' same := by
    have methods : request.method = request'.method := by
      rw [← request.shown_method, same, request'.shown_method]
    simp only [openHouse, methods]
    split <;> exact Action.Matches.pure _
  now _ _ _ := rfl
  readFile _ _ _ _ := rfl

theorem vault_differs :
    DifferInSecrets vault openHouse (fun _ => vaultIdentity.spec) (fun _ => vaultText false)
      (fun _ => vaultText true) fun isOther isOther' => isOther = false ∧ isOther' = true where
  nonempty _ := by decide
  identity key request := by
    rintro _ _ made ⟨rfl, rfl⟩
    obtain ⟨target, -, rfl⟩ := Option.map_eq_some_iff.mp made
    have isApart : target.path ≠ _ := identity_path_ne made
    rw [vault_send, vault_send, if_neg isApart, if_neg isApart]
    refine ⟨rfl, ⟨rfl, rfl⟩, fun reply identity answer reads => ?_⟩
    cases answer
    split at reads
    · have isThis : ApiConnection.readReply AzureIdentity.reader
          (ApiServer.found vaultIdentity.write) = .ok vaultIdentity := by
        decide +kernel
      cases isThis.symm.trans reads
      rfl
    · cases reads
  secret key request := by
    rintro _ _ made ⟨rfl, rfl⟩
    obtain ⟨target, -, rfl⟩ := Option.map_eq_some_iff.mp made
    refine ⟨?_, rfl, rfl⟩
    rw [vault_send, vault_send]
    split_ifs
    · let secret (isOther : Bool) : Secret :=
        ⟨some (.ofEntries [("clientSecret", (vaultText isOther).toUTF8.data.toList)])⟩
      have reads : ∀ isOther, ApiConnection.readReply Secret.reader
          (ApiServer.found (vaultSecret isOther)) = .ok (secret isOther) := by
        decide +kernel
      have holds (isOther : Bool) : (secret isOther).Holds (vaultText isOther) :=
        ⟨(vaultText isOther).toUTF8.data.toList, by cases isOther <;> decide +kernel⟩
      exact .apart (reads false) (reads true) (holds false) (holds true)
    · have isNoSecret : (ApiConnection.readReply Secret.reader
          (ApiServer.found vaultIdentity.write)).toOption = none := by
        decide +kernel
      refine .same fun reply secret answer reads => ?_
      cases answer
      rw [reads] at isNoSecret
      cases isNoSecret
    · exact .same fun reply secret answer reads => by
        cases answer
        cases reads
  isBlind := openHouse_isBlind _

def vaultSettings : AzureSettings where
  resourceManager := "http://arm"
  authorityHost := "http://login"

/-- What is seen of a client that is used once. -/
def seenOfVault (isOther : Bool) : List Outcome × List Sent :=
  shown vaultSettings vault openHouse
    [.client referring, .lookup 0 "rg" "api", .lookup 1 "rg" "api"] isOther

/-- The service principal gets its client and finds its endpoint, and nobody can tell which of two
secrets it has. -/
theorem vault_keeps_its_secret :
    seenOfVault false = seenOfVault true ∧
      (seenOfVault false).1 =
        [.client (.ok 0), .lookup (.ok (some { name := some "api-privateendpoint" })), .nothing] ∧
      ∀ isOther, (resolve vaultSettings vault referring isOther).1.map Prod.snd =
        .ok (.clientSecret "tenant" "client" (vaultText isOther)) :=
  ⟨shown_eq_of_differInSecrets vaultSettings vault_differs ⟨rfl, rfl⟩ _, by decide +kernel,
    by decide +kernel⟩

end Sessions

end ClusterLinks
