import ClusterLinks.Azure.EndpointsClient
import ClusterLinks.Proofs.Azure.KeptTokens
import ClusterLinks.Proofs.Net.BareAddresses

/-!
# What a look-up addresses

A look-up is meant for the endpoint of a name in a resource group of a subscription. Its address is
put together from these texts as they are, so the request gets that endpoint exactly if they are
plain: a text with a slash, a mark of a query or of a fragment, a line break or an escape in it, or
one that is a dot segment, makes the request one for something else. A blank at the end of the name
goes away.
-/

namespace ClusterLinks

variable {World : Type}

/-! ## Reading a request -/

/-- Reads one text of a form, in which a plus sign stands for a blank. -/
def Percent.readForm? (text : List Char) : Option String :=
  decodeText? (text.map fun c => if c = '+' then ' ' else c)

/-- Reads a pair of a form, split at the first equals sign. -/
def Percent.readPair? (text : List Char) : Option (String × String) := do
  let (key, value) := Text.splitAt (· == '=') text
  let key ← readForm? key
  let value ← readForm? (value.drop 1)
  some (key, value)

/-- The pairs of the query. -/
def Url.pairs? (url : Url) : Option (List (String × String)) :=
  match url.query with
  | none => some []
  | some query =>
      ((Text.split (· == '&') query.toList).filter (· ≠ [])).mapM Percent.readPair?

/-- The request gets what lies under a path, with pairs in the query and nothing else in it. -/
structure Http.Request.Gets (request : Http.Request) (parts : List String)
    (pairs : List (String × String)) : Prop where
  method : request.method = .get
  segments : request.url.segments? = some parts
  pairs : request.url.pairs? = some pairs

theorem Http.Request.of_make? {method : Http.Method} {address body : String}
    {pairs headers : List (String × String)} {request : Http.Request} (nonempty : pairs ≠ [])
    (made : make? method address pairs headers body = .ok request) :
    ∃ url, Url.ofText? address = some url ∧ request.method = method ∧
      request.url.path = url.path ∧ request.url.query = (url.addPairs pairs).query := by
  have isSome : pairs.isEmpty = false := by simpa using nonempty
  unfold make? at made
  cases reads : Url.ofText? address with
  | none =>
      rw [reads] at made
      cases made
  | some url =>
      rw [reads] at made
      simp only [isSome, Bool.false_eq_true, if_false] at made
      split_ifs at made
      cases made
      refine ⟨url, rfl, rfl, ?_, ?_⟩
      all_goals
        unfold Url.withoutUser
        split <;> rfl

namespace ResourceManager

variable {manager : ResourceManager} {resourceGroup name : String}

/-- The way to an endpoint. -/
def endpointParts (manager : ResourceManager) (resourceGroup name : String) : List String :=
  ["subscriptions", manager.subscriptionId, "resourceGroups", resourceGroup, "providers",
    "Microsoft.Network", "privateEndpoints", name]

/-- What is asked for beside the endpoint. -/
def endpointPairs : List (String × String) :=
  [("api-version", apiVersion), ("$expand", "NetworkInterfaces")]

theorem endpointAddress_eq (manager : ResourceManager) (resourceGroup name : String) :
    manager.endpointAddress resourceGroup name =
      String.ofList ((Text.withoutFinalSlashes manager.endpoint).toList ++ '/' ::
        Url.joined "subscriptions" (manager.endpointParts resourceGroup name).tail) := by
  have subscriptions : "/subscriptions/".toList = '/' :: "subscriptions".toList ++ ['/'] := by
    decide
  have groups : "/resourceGroups/".toList = '/' :: "resourceGroups".toList ++ ['/'] := by
    decide
  have endpoints : "/providers/Microsoft.Network/privateEndpoints/".toList =
      '/' :: "providers".toList ++ '/' :: "Microsoft.Network".toList ++
        '/' :: "privateEndpoints".toList ++ ['/'] := by
    decide
  apply String.toList_inj.mp
  rw [endpointAddress, String.toList_ofList]
  simp only [String.toList_append]
  rw [subscriptions, groups, endpoints]
  simp only [endpointParts, List.tail_cons, Url.joined_cons, Url.joined_nil, List.append_assoc,
    List.cons_append, List.nil_append]

/-- The three texts that a look-up is about stand for themselves, and the name ends visibly. -/
structure IsPlain (manager : ResourceManager) (resourceGroup name : String) : Prop where
  subscription : Url.IsPlain manager.subscriptionId
  group : Url.IsPlain resourceGroup
  endpoint : Url.IsPlain name
  ends : ∀ c ∈ name.toList.getLast?, 0x20 < c.toNat

instance (manager : ResourceManager) (resourceGroup name : String) :
    Decidable (manager.IsPlain resourceGroup name) :=
  decidable_of_iff (Url.IsPlain manager.subscriptionId ∧ Url.IsPlain resourceGroup ∧
      Url.IsPlain name ∧ name.toList.getLast?.all (fun c => 0x20 < c.toNat) = true)
    ⟨fun ⟨subscription, group, endpoint, ends⟩ =>
        ⟨subscription, group, endpoint, fun c last =>
          decide_eq_true_iff.mp ((Option.all_eq_true ..).mp ends c last)⟩,
      fun ⟨subscription, group, endpoint, ends⟩ =>
        ⟨subscription, group, endpoint, (Option.all_eq_true ..).mpr fun c last =>
          decide_eq_true (ends c last)⟩⟩

theorem isPlain_iff : manager.IsPlain resourceGroup name ↔
    (∀ part ∈ manager.endpointParts resourceGroup name, Url.IsPlain part) ∧
      ∀ c ∈ (Url.joined "subscriptions" (manager.endpointParts resourceGroup name).tail).getLast?,
        Url.isEdge c = false := by
  have fixed : ∀ part ∈ ["subscriptions", "resourceGroups", "providers", "Microsoft.Network",
      "privateEndpoints"], Url.IsPlain part := by
    decide +kernel
  have parts : (∀ part ∈ manager.endpointParts resourceGroup name, Url.IsPlain part) ↔
      Url.IsPlain manager.subscriptionId ∧ Url.IsPlain resourceGroup ∧ Url.IsPlain name := by
    simp only [endpointParts, List.forall_mem_cons] at fixed ⊢
    simp [fixed]
  have last : (∀ c ∈ (Url.joined "subscriptions"
        (manager.endpointParts resourceGroup name).tail).getLast?, Url.isEdge c = false) ↔
      ∀ c ∈ name.toList.getLast?, 0x20 < c.toNat := by
    have isLast : (manager.endpointParts resourceGroup name).tail =
        ((manager.endpointParts resourceGroup name).tail.dropLast ++ [name]) := rfl
    rw [isLast, Url.joined_concat, Url.stays_iff]
    simp [Url.isEdge]
  rw [parts, last]
  constructor
  · rintro ⟨subscription, group, endpoint, ends⟩
    exact ⟨⟨subscription, group, endpoint⟩, ends⟩
  · rintro ⟨⟨subscription, group, endpoint⟩, ends⟩
    exact ⟨subscription, group, endpoint, ends⟩

/-- Whatever the texts are, the request is a GET. -/
theorem method_of_request? {token : String} {request : Http.Request}
    (made : manager.request? token resourceGroup name = .ok request) : request.method = .get := by
  obtain ⟨url, -, isGet, -⟩ := Http.Request.of_make? (List.cons_ne_nil _ _) made
  exact isGet

/-- A request for an endpoint asks for just this endpoint if everything is plain, and only then. -/
theorem request_gets_iff {scheme authority : List Char} {token : String} {request : Http.Request}
    (bare : Url.IsBare manager.endpoint scheme authority)
    (made : manager.request? token resourceGroup name = .ok request) :
    request.Gets (manager.endpointParts resourceGroup name) endpointPairs ↔
      manager.IsPlain resourceGroup name := by
  obtain ⟨url, reads, isGet, isPath, isQuery⟩ :=
    Http.Request.of_make? (List.cons_ne_nil _ _) made
  rw [endpointAddress_eq] at reads
  obtain ⟨segments, query⟩ := bare.segments?_iff reads
  have sameSegments : request.url.segments? = url.segments? := by
    rw [Url.segments?, isPath, Url.segments?]
  rw [isPlain_iff]
  refine ⟨fun gets => segments.mp (sameSegments.symm.trans gets.segments), fun plain => ?_⟩
  have found := segments.mpr plain
  refine ⟨isGet, sameSegments.trans found, ?_⟩
  have pairs : ((Text.split (· == '&') (Percent.form endpointPairs).toList).filter
      (· ≠ [])).mapM Percent.readPair? = some endpointPairs := by
    decide +kernel
  rw [Url.pairs?, isQuery, Url.addPairs, query found]
  exact pairs

/-! ## Look-ups -/

/-- A look-up while what it sends is noted down. The token comes from elsewhere. -/
def watchedLookup (surroundings : Surroundings World) (token : Action World String)
    (manager : ResourceManager) (resourceGroup name : String) :
    Action (World × List Http.Message) (Option EndpointResource) :=
  let token := token.within (·.1) fun world noted => (world, noted.2)
  (client surroundings.noting token manager).lookup resourceGroup name

/-- A request that is made is sent, and nothing else is. -/
theorem watchedLookup_of_ok (surroundings : Surroundings World) {token : Action World String}
    {manager : ResourceManager} {resourceGroup name text : String} {world after : World}
    {request : Http.Request} (asked : token world = (.ok text, after))
    (made : manager.request? text resourceGroup name = .ok request) :
    (watchedLookup surroundings token manager resourceGroup name (world, [])).2.2 =
      [⟨request, (surroundings.send request after).1.toOption.join⟩] := by
  have runIs : watchedLookup surroundings token manager resourceGroup name (world, []) =
      (surroundings.noting.ask (manager.request? text resourceGroup name) >>=
        fun reply? => Action.ofExcept (readReply name reply?)) (after, []) :=
    Action.bind_of_ok (by rw [Action.within_run, asked]) _
  rw [runIs, Action.bind_run, Surroundings.ask_noting, made]
  cases (surroundings.ask (.ok request) after).1 <;> rfl

/-- A look-up fails and sends nothing, or it sends the request for the endpoint. -/
theorem watchedLookup_cases (surroundings : Surroundings World) (token : Action World String)
    (manager : ResourceManager) (resourceGroup name : String) (world : World) :
    let run := watchedLookup surroundings token manager resourceGroup name (world, [])
    (∃ error, run.1 = .error error ∧ run.2.2 = []) ∨
      ∃ text request reply?, manager.request? text resourceGroup name = .ok request ∧
        run.2.2 = [⟨request, reply?⟩] := by
  intro run
  cases asked : token world with
  | mk result after =>
  cases result with
  | error error =>
      have runIs : run = (.error error, after, []) :=
        Action.bind_of_error (by rw [Action.within_run, asked]) _
      exact .inl ⟨error, by rw [runIs], by rw [runIs]⟩
  | ok text =>
      cases made : manager.request? text resourceGroup name with
      | ok request =>
          exact .inr ⟨text, request, _, made, watchedLookup_of_ok surroundings asked made⟩
      | error problem =>
          have runIs : run = (surroundings.noting.ask (manager.request? text resourceGroup name) >>=
              fun reply? => Action.ofExcept (readReply name reply?)) (after, []) :=
            Action.bind_of_ok (by rw [Action.within_run, asked]) _
          rw [made] at runIs
          exact .inl ⟨_, by rw [runIs]; rfl, by rw [runIs]; rfl⟩

/-- A look-up at a bare address either fails before it sends anything, or it sends one GET, and this
request gets the endpoint that is meant exactly if the texts that it is made of are plain. Look-ups
of different endpoints never send the same request if all of these texts are plain. -/
theorem lookup_gets_the_endpoint_iff_plain (surroundings : Surroundings World)
    (token : Action World String) (manager : ResourceManager)
    (bare : ∃ scheme authority, Url.IsBare manager.endpoint scheme authority)
    (resourceGroup name : String) (world : World) :
    let run := watchedLookup surroundings token manager resourceGroup name (world, [])
    ((∃ error, run.1 = .error error ∧ run.2.2 = []) ∨
      ∃ request reply?, run.2.2 = [⟨request, reply?⟩] ∧ request.method = .get ∧
        (request.Gets (manager.endpointParts resourceGroup name) endpointPairs ↔
          manager.IsPlain resourceGroup name)) ∧
    ∀ resourceGroup' name' world', manager.IsPlain resourceGroup name →
      manager.IsPlain resourceGroup' name' → (resourceGroup, name) ≠ (resourceGroup', name') →
      let run' := watchedLookup surroundings token manager resourceGroup' name' (world', [])
      ∀ message ∈ run.2.2, ∀ message' ∈ run'.2.2, message.request.url ≠ message'.request.url := by
  obtain ⟨scheme, authority, bare⟩ := bare
  have gets {resourceGroup name : String} {world : World} {message : Http.Message}
      (sent : message ∈ (watchedLookup surroundings token manager resourceGroup name
        (world, [])).2.2) :
      message.request.Gets (manager.endpointParts resourceGroup name) endpointPairs ↔
        manager.IsPlain resourceGroup name := by
    obtain ⟨_, _, none⟩ | ⟨text, request, reply?, made, one⟩ :=
      watchedLookup_cases surroundings token manager resourceGroup name world
    · rw [none] at sent
      cases sent
    · rw [one] at sent
      cases List.mem_singleton.mp sent
      exact request_gets_iff bare made
  intro run
  refine ⟨?_, ?_⟩
  · obtain fails | ⟨text, request, reply?, made, one⟩ :=
      watchedLookup_cases surroundings token manager resourceGroup name world
    · exact .inl fails
    · exact .inr ⟨request, reply?, one, method_of_request? made, request_gets_iff bare made⟩
  · intro resourceGroup' name' world' plain plain' different run' message sent message' sent' same
    have segments := ((gets sent).mpr plain).segments
    have segments' := ((gets sent').mpr plain').segments
    rw [same, segments'] at segments
    simp only [endpointParts, Option.some.injEq, List.cons.injEq, and_true, true_and] at segments
    exact different (by rw [segments.1, segments.2])

/-- Surroundings in which every request is answered with the same endpoint. -/
def signpost : Surroundings Unit where
  send _ := pure (some ⟨200, .document (.object [("name", .string "web")])⟩)
  now _ := 0
  readFile path _ := .error (path ++ " is not there")

/-- A client for one subscription. -/
def spokeManager : ResourceManager where
  endpoint := "http://arm.test"
  subscriptionId := "spoke"

theorem spokeManager_isBare :
    Url.IsBare spokeManager.endpoint "http".toList "arm.test".toList where
  text := by decide +kernel
  isWeb := .inl rfl
  nonempty := by decide
  delimiters := List.all_iff_forall_prop.mp (by decide)

/-- The request for an endpoint of a plain name. -/
def webRequest : Http.Request where
  method := .get
  url :=
    { scheme := "http", host := some "arm.test", port := none
      path := "/subscriptions/spoke/resourceGroups/rg/providers/Microsoft.Network/" ++
        "privateEndpoints/web"
      query := some "api-version=2023-09-01&%24expand=NetworkInterfaces", fragment := none }
  headers := [("authorization", "Bearer token")]

theorem request?_web : spokeManager.request? "token" "rg" "web" = .ok webRequest := by
  decide +kernel

/-- The requests that are sent to look an endpoint up. -/
def spokeSends (name : String) : List Http.Request :=
  (watchedLookup signpost (pure "token") spokeManager "rg" name ((), [])).2.2.map (·.request)

theorem asked_token : (pure "token" : Action Unit String) () = (.ok "token", ()) := rfl

theorem spokeSends_of_ok {name : String} {request : Http.Request}
    (made : spokeManager.request? "token" "rg" name = .ok request) :
    spokeSends name = [request] := by
  rw [spokeSends, watchedLookup_of_ok signpost asked_token made, List.map_singleton]

/-- The request for a plain name gets its endpoint, and it is not sent for another plain name. -/
theorem spoke_gets_web :
    spokeSends "web" = [webRequest] ∧
      webRequest.Gets (spokeManager.endpointParts "rg" "web") endpointPairs ∧
      webRequest ∉ spokeSends "api" := by
  have plain : spokeManager.IsPlain "rg" "web" := by decide +kernel
  have sent := watchedLookup_of_ok signpost asked_token request?_web
  obtain ⟨sends, apart⟩ := lookup_gets_the_endpoint_iff_plain signpost (pure "token") spokeManager
    ⟨_, _, spokeManager_isBare⟩ "rg" "web" ()
  refine ⟨spokeSends_of_ok request?_web, ?_, fun member => ?_⟩
  · obtain ⟨_, _, none⟩ | ⟨request, reply?, one, -, gets⟩ := sends
    · rw [sent] at none
      cases none
    · rw [sent] at one
      cases one
      exact gets.mpr plain
  · obtain ⟨message, sent', same⟩ := List.mem_map.mp member
    have otherPlain : spokeManager.IsPlain "rg" "api" := by decide +kernel
    exact apart "rg" "api" () plain otherPlain (by decide) _ (sent ▸ List.mem_singleton_self _)
      message sent' (congrArg Http.Request.url same.symm)

/-- A name with dot segments in it is looked up by the very request for another endpoint. -/
theorem spoke_gets_another_endpoint :
    spokeSends "old/../web" = [webRequest] ∧ spokeSends "web" = [webRequest] ∧
      ¬ webRequest.Gets (spokeManager.endpointParts "rg" "old/../web") endpointPairs := by
  have made : spokeManager.request? "token" "rg" "old/../web" = .ok webRequest := by
    decide +kernel
  refine ⟨spokeSends_of_ok made, spokeSends_of_ok request?_web, ?_⟩
  rw [request_gets_iff spokeManager_isBare made]
  decide +kernel

end ResourceManager

end ClusterLinks
