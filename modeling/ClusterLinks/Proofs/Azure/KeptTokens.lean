import ClusterLinks.Proofs.Azure.Expiry

/-!
# Tokens that are kept

A credential is asked for tokens again and again, at whatever times, and the issuer answers as it
likes. A call that finds a token at hand which is good for longer than the margin returns it and
asks nobody. Any other call makes one attempt to exchange the credential. If the attempt succeeds,
its token is returned and at hand from then on; if it fails, what is at hand stays. So the token at
hand is always the one that the last successful attempt brought.
-/

namespace ClusterLinks

variable {World α β : Type}

/-! ## Notes -/

/-- Runs an action and notes down what it comes to. -/
def Action.noting (note : Except Error α → World → β) (action : Action World α) :
    Action (World × List β) α := fun noted =>
  let (result, after) := action noted.1
  (result, after, noted.2 ++ [note result after])

@[simp] theorem Action.noting_run (note : Except Error α → World → β) (action : Action World α)
    (noted : World × List β) :
    action.noting note noted =
      ((action noted.1).1, (action noted.1).2,
        noted.2 ++ [note (action noted.1).1 (action noted.1).2]) := rfl

/-- A request that was sent, with the answer if there was one. -/
structure Http.Message where
  request : Http.Request
  reply? : Option Http.Reply

namespace Surroundings

variable (surroundings : Surroundings World)

/-- The surroundings while all that is sent is noted down. -/
def noting : Surroundings (World × List Http.Message) where
  send request := (surroundings.send request).noting fun result _ =>
    ⟨request, result.toOption.join⟩
  now noted := surroundings.now noted.1
  readFile path noted := surroundings.readFile path noted.1

/-- What is sent for a request that may not even have been made. -/
def sent (request? : Except Http.Problem Http.Request) (world : World) : List Http.Message :=
  match request? with
  | .error _ => []
  | .ok request => [⟨request, (surroundings.send request world).1.toOption.join⟩]

theorem ask_noting (request? : Except Http.Problem Http.Request) (world : World)
    (notes : List Http.Message) :
    surroundings.noting.ask request? (world, notes) =
      ((surroundings.ask request? world).1, (surroundings.ask request? world).2,
        notes ++ surroundings.sent request? world) := by
  cases request? with
  | error problem => simp [ask, sent]
  | ok request =>
      simp only [ask, Action.bind_run, noting, Action.noting_run, sent]
      cases surroundings.send request world with
      | mk result after =>
        cases result with
        | error error => rfl
        | ok reply? => cases reply? <;> rfl

end Surroundings

/-! ## What an answer says -/

/-- The document in a body that a reader gets to see. -/
def Http.Body.visible? (reader : Reader α) : Http.Body → Option Json
  | .document value => some value
  | .text content => do
      let written ← Written.ofText? content
      let value ← Shape.admit? Written.maxDepth reader.shape written
      some value.canonical

theorem Http.Body.read?_eq (reader : Reader α) (body : Http.Body) :
    body.read? reader = (body.visible? reader).bind reader.read := by
  cases body with
  | document document => rfl
  | text text =>
      simp only [read?, visible?, Reader.ofText?, Option.bind_eq_bind, Option.bind_assoc,
        Option.bind_some]

namespace TokenAnswer

/-- The seconds from receipt to expiry, as an entry gives them. -/
inductive Lifetime : Option Json → Nat → Prop where
  | absent : Lifetime none 0
  | null : Lifetime (some .null) 0
  | number {seconds : Nat} (fits : seconds ≤ Decimal.max64) :
      Lifetime (some (.integer seconds)) seconds
  | text {text : String} {seconds : Nat}
      (denotes : Decimal.unsigned? Decimal.max64 text = some seconds) :
      Lifetime (some (.string text)) seconds
  | unparseable {text : String} (denotesNone : Decimal.unsigned? Decimal.max64 text = none) :
      Lifetime (some (.string text)) 0

theorem readLifetime_eq_some_iff {given? : Option Json} {seconds : Nat} :
    readLifetime (given?.getD .null) = some seconds ↔ Lifetime given? seconds := by
  constructor
  · intro reads
    cases given? with
    | none =>
        cases reads
        exact .absent
    | some entry =>
        rw [Option.getD_some] at reads
        cases entry with
        | null =>
            cases reads
            exact .null
        | integer number =>
            rw [readLifetime] at reads
            split at reads
            · next inside =>
                cases reads
                obtain ⟨natural, rfl⟩ := Int.eq_ofNat_of_zero_le inside.1
                exact .number (Int.ofNat_le.mp inside.2)
            · cases reads
        | string text =>
            rw [readLifetime, Option.some.injEq] at reads
            subst reads
            cases denotes : Decimal.unsigned? Decimal.max64 text with
            | none => exact .unparseable denotes
            | some number => exact .text denotes
        | bool _ | decimal _ _ | array _ | object _ => cases reads
  · intro lifetime
    cases lifetime with
    | absent | null => rfl
    | number fits => exact readLifetime_integer fits
    | text denotes | unparseable denotes =>
        rw [Option.getD_some, readLifetime, denotes]
        rfl

/-- The answer is what a document says: a token, and for how long it is good. -/
def IsSaidBy (answer : TokenAnswer) (document : Json) : Prop :=
  ∃ entries, Record.entriesOf? fieldNames document = some entries ∧
    entries.get? "access_token" = some (.string answer.token) ∧
    Lifetime (entries.get? "expires_in") answer.lifetime

theorem tokenField_of?_eq_some_iff {entries : Entries Json} {token : String} :
    tokenField.of? entries = some token ↔
      entries.get? "access_token" = some (.string token) := by
  change (entries.get? "access_token").bind Codec.string.read = some token ↔ _
  cases entries.get? "access_token" with
  | none => simp
  | some entry => cases entry <;> simp [Codec.string, Json.string?]

/-- An answer is read from the documents that say it, and from no others. -/
theorem read_eq_some_iff {answer : TokenAnswer} {document : Json} :
    read document = some answer ↔ answer.IsSaidBy document := by
  simp only [read, Option.bind_eq_bind, Option.bind_eq_some_iff, tokenField_of?_eq_some_iff,
    readLifetime_eq_some_iff, IsSaidBy]
  constructor
  · rintro ⟨entries, found, token, isToken, lifetime, isLifetime, ⟨⟩⟩
    exact ⟨entries, found, isToken, isLifetime⟩
  · rintro ⟨entries, found, isToken, isLifetime⟩
    exact ⟨entries, found, answer.token, isToken, answer.lifetime, isLifetime, rfl⟩

/-- The messages are one request that was answered with success, and the answer says this. -/
def IsReceivedIn (answer : TokenAnswer) (messages : List Http.Message) : Prop :=
  ∃ request reply document, messages = [⟨request, some reply⟩] ∧
    Http.Status.isSuccess reply.status = true ∧
    reply.content.visible? reader = some document ∧ answer.IsSaidBy document

theorem not_isReceivedIn_nil {answer : TokenAnswer} : ¬ answer.IsReceivedIn [] := by
  rintro ⟨_, _, _, ⟨⟩, _⟩

theorem not_isReceivedIn_none {answer : TokenAnswer} {request : Http.Request} :
    ¬ answer.IsReceivedIn [⟨request, none⟩] := by
  rintro ⟨_, _, _, ⟨⟩, _⟩

theorem isReceivedIn_some_iff {answer : TokenAnswer} {request : Http.Request}
    {reply : Http.Reply} :
    answer.IsReceivedIn [⟨request, some reply⟩] ↔ Http.Status.isSuccess reply.status = true ∧
      ∃ document, reply.content.visible? reader = some document ∧ answer.IsSaidBy document := by
  constructor
  · rintro ⟨_, _, document, ⟨⟩, succeeds, seen, said⟩
    exact ⟨succeeds, document, seen, said⟩
  · rintro ⟨succeeds, document, seen, said⟩
    exact ⟨request, reply, document, rfl, succeeds, seen, said⟩

end TokenAnswer

namespace Credential

variable {surroundings : Surroundings World} {credential : Credential} {world : World}

theorem readReply_eq_ok_iff {kind : CredentialKind} {reply : Http.Reply} {answer : TokenAnswer} :
    readReply kind (.ok reply) = .ok answer ↔ Http.Status.isSuccess reply.status = true ∧
      ∃ document, reply.content.visible? TokenAnswer.reader = some document ∧
        answer.IsSaidBy document := by
  have found_iff : reply.content.read? TokenAnswer.reader = some answer ↔
      ∃ document, reply.content.visible? TokenAnswer.reader = some document ∧
        answer.IsSaidBy document := by
    rw [Http.Body.read?_eq, Option.bind_eq_some_iff]
    exact exists_congr fun document => and_congr_right fun _ => TokenAnswer.read_eq_some_iff
  rw [← found_iff, readReply]
  split
  · next succeeds =>
      cases reply.content.read? TokenAnswer.reader <;> simp [succeeds]
  · next fails => simp [fails]

/-! ## Attempts -/

/-- The token file is read without anything being sent. -/
theorem assertion_noting (surroundings : Surroundings World) (credential : Credential)
    (world : World) (notes : List Http.Message) :
    assertion surroundings credential world = ((assertion surroundings credential world).1, world) ∧
      assertion surroundings.noting credential (world, notes) =
        ((assertion surroundings credential world).1, world, notes) := by
  unfold assertion
  cases credential.kind with
  | managedIdentity _ | clientSecret _ _ _ => exact ⟨rfl, rfl⟩
  | workloadIdentity _ _ path =>
      simp only [Action.bind_run, Action.inspect_run, Surroundings.noting]
      cases surroundings.readFile path world <;> exact ⟨rfl, rfl⟩

/-- What an attempt to exchange the credential sends. -/
def messages (surroundings : Surroundings World) (credential : Credential) (world : World) :
    List Http.Message :=
  match (assertion surroundings credential world).1 with
  | .error _ => []
  | .ok text => surroundings.sent (credential.request? text) world

theorem length_messages_le (surroundings : Surroundings World) (credential : Credential)
    (world : World) : (messages surroundings credential world).length ≤ 1 := by
  unfold messages Surroundings.sent
  split
  · exact Nat.zero_le _
  · split <;> simp

theorem fetch_noting (surroundings : Surroundings World) (credential : Credential) (world : World)
    (notes : List Http.Message) :
    fetch surroundings.noting credential (world, notes) =
      ((fetch surroundings credential world).1, (fetch surroundings credential world).2,
        notes ++ messages surroundings credential world) := by
  obtain ⟨plain, noted⟩ := assertion_noting surroundings credential world notes
  unfold messages
  cases read : (assertion surroundings credential world).1 with
  | error error =>
      rw [read] at plain noted
      rw [fetch, fetch, Action.bind_of_error plain, Action.bind_of_error noted, List.append_nil]
  | ok text =>
      rw [read] at plain noted
      rw [fetch, fetch, Action.bind_of_ok plain, Action.bind_of_ok noted, Action.bind_run,
        Action.bind_run, Surroundings.ask_noting]
      cases surroundings.ask (credential.request? text) world with
      | mk result after => cases result <;> rfl

/-- An attempt brings what was received in its messages, and fails if nothing was. -/
theorem fetch_eq_ok_iff {answer : TokenAnswer} :
    (fetch surroundings credential world).1 = .ok answer ↔
      answer.IsReceivedIn (messages surroundings credential world) := by
  obtain ⟨plain, -⟩ := assertion_noting surroundings credential world []
  unfold messages
  cases read : (assertion surroundings credential world).1 with
  | error error =>
      rw [read] at plain
      rw [fetch, Action.bind_of_error plain]
      exact iff_of_false (by rintro ⟨⟩) TokenAnswer.not_isReceivedIn_nil
  | ok text =>
      rw [read] at plain
      rw [fetch, Action.bind_of_ok plain]
      change _ ↔ answer.IsReceivedIn (surroundings.sent (credential.request? text) world)
      cases credential.request? text with
      | error problem =>
          exact iff_of_false (by rintro ⟨⟩) TokenAnswer.not_isReceivedIn_nil
      | ok request =>
          simp only [Surroundings.ask, Action.bind_run, Surroundings.sent]
          cases surroundings.send request world with
          | mk result after =>
            cases result with
            | error error =>
                exact iff_of_false (by rintro ⟨⟩) TokenAnswer.not_isReceivedIn_none
            | ok reply? =>
                cases reply? with
                | none => exact iff_of_false (by rintro ⟨⟩) TokenAnswer.not_isReceivedIn_none
                | some reply =>
                    exact readReply_eq_ok_iff.trans TokenAnswer.isReceivedIn_some_iff.symm

/-- An attempt to exchange a credential: what it came to and when it was over. -/
structure Attempt where
  outcome : Except Error TokenAnswer
  receipt : Int

/-- The token that an attempt brings, to be kept until it expires. -/
def Attempt.brought? (attempt : Attempt) : Option CachedToken :=
  match attempt.outcome with
  | .ok answer => some ⟨answer.token, attempt.receipt + answer.lifetime⟩
  | .error _ => none

/-! ## Calls -/

/-- A token that can be used now: the one at hand or else one from an exchange. -/
def tokenBy (surroundings : Surroundings World) (exchange : Action World TokenAnswer) :
    Action (TokenState World) String := do
  let usable? ← usable? surroundings
  match usable? with
  | some token => pure token
  | none => renewBy surroundings exchange

theorem token_eq_tokenBy (surroundings : Surroundings World) (credential : Credential) :
    token surroundings credential = tokenBy surroundings (fetch surroundings credential) := rfl

section Cases

variable {state : TokenState World} (exchange : Action World TokenAnswer)

theorem tokenBy_of_fresh {cached : CachedToken} (atHand : state.cached = some cached)
    (inside : ¬ Clock.IsBeyond (surroundings.now state.world) CachedToken.margin)
    (fresh : surroundings.now state.world + CachedToken.margin < cached.expiresAt) :
    tokenBy surroundings exchange state = (.ok cached.token, state) := by
  have usable := usable?_of_some surroundings atHand
  rw [CachedToken.isFresh_of_not_isBeyond inside, decide_eq_true fresh] at usable
  exact Action.bind_of_ok usable _

theorem tokenBy_of_needsToken
    (inside : state.cached ≠ none →
      ¬ Clock.IsBeyond (surroundings.now state.world) CachedToken.margin)
    (needs : NeedsToken state (surroundings.now state.world)) :
    tokenBy surroundings exchange state = renewBy surroundings exchange state :=
  Action.bind_of_ok (usable?_of_needsToken inside needs) _

end Cases

/-- A world in which everything that is sent and every attempt is noted down. -/
abbrev Watched (World : Type) : Type :=
  (World × List Http.Message) × List Attempt

/-- A call for a token under observation. -/
def watchedToken (surroundings : Surroundings World) (credential : Credential) :
    Action (TokenState (Watched World)) String :=
  tokenBy (surroundings.noting.within Prod.fst fun noted watched => (noted, watched.2))
    ((fetch surroundings.noting credential).noting fun outcome noted =>
      ⟨outcome, surroundings.now noted.1⟩)

/-- A call for a token, as it was observed. -/
structure TokenCall (World : Type) where
  /-- The world in which it was made. -/
  world : World
  /-- The token that was at hand. -/
  cached : Option CachedToken
  messages : List Http.Message
  attempts : List Attempt
  result : Except Error String
  /-- The token that was at hand afterwards. -/
  kept : Option CachedToken

/-- A call in some world with some token at hand. -/
def call (surroundings : Surroundings World) (credential : Credential)
    (cached? : Option CachedToken) (world : World) : TokenCall World :=
  let (result, after) := watchedToken surroundings credential ⟨cached?, ((world, []), [])⟩
  { world, cached := cached?, messages := after.world.1.2, attempts := after.world.2, result,
    kept := after.cached }

/-- One call after the other, each in a world of its own and with the token that the one before has
left at hand. -/
def calls (surroundings : Surroundings World) (credential : Credential) :
    Option CachedToken → List World → List (TokenCall World)
  | _, [] => []
  | cached?, world :: rest =>
      let call := call surroundings credential cached? world
      call :: calls surroundings credential call.kept rest

namespace TokenCall

/-- The clock goes as far as the margin if a token is at hand, and as far as the expiry of a token
that the call brings. -/
def IsInRange (surroundings : Surroundings World) (call : TokenCall World) : Prop :=
  (call.cached ≠ none → surroundings.now call.world + CachedToken.margin ≤ Clock.lastSecond) ∧
    ∀ attempt ∈ call.attempts, ∀ brought ∈ attempt.brought?, brought.expiresAt ≤ Clock.lastSecond

instance (surroundings : Surroundings World) (call : TokenCall World) :
    Decidable (call.IsInRange surroundings) :=
  inferInstanceAs (Decidable (_ ∧ _))

/-- The token that the last successful attempt of some calls brought. -/
def lastBrought (calls : List (TokenCall World)) : Option CachedToken :=
  ((calls.flatMap (·.attempts)).filterMap (·.brought?)).getLast?

theorem lastBrought_cons (first : TokenCall World) (rest : List (TokenCall World)) :
    lastBrought (first :: rest) = (lastBrought rest).or (lastBrought [first]) := by
  simp [lastBrought, List.getLast?_append]

/-- What holds of a call for a token. -/
structure FollowsRules (surroundings : Surroundings World) (credential : Credential)
    (call : TokenCall World) : Prop where
  /-- Observing the call has changed nothing about it. -/
  isCall : ∃ after, token surroundings credential ⟨call.cached, call.world⟩ =
    (call.result, ⟨call.kept, after⟩)
  /-- No attempt is made exactly if the token at hand is good for longer than the margin. -/
  skips_iff : call.attempts = [] ↔ ∃ cached, call.cached = some cached ∧
    surroundings.now call.world + CachedToken.margin < cached.expiresAt
  /-- Without an attempt nothing is sent, and the token at hand is returned and stays. -/
  skips : call.attempts = [] → call.messages = [] ∧ call.kept = call.cached ∧
    ∃ cached, call.cached = some cached ∧ call.result = .ok cached.token
  /-- There is one attempt at most, with one request at most, and it succeeds exactly if an answer
  is received. It brings the token that is returned and kept, or it fails and changes nothing. -/
  attempts : call.attempts ≠ [] → ∃ attempt, call.attempts = [attempt] ∧
    call.messages.length ≤ 1 ∧
    (∀ answer, attempt.outcome = .ok answer ↔ answer.IsReceivedIn call.messages) ∧
    ((∃ answer, attempt.outcome = .ok answer ∧ answer.IsReceivedIn call.messages ∧
        call.result = .ok answer.token ∧
        call.kept = some ⟨answer.token, attempt.receipt + answer.lifetime⟩) ∨
      ∃ message, attempt.outcome = .error (.credentials message) ∧
        call.result = .error (.credentials message) ∧ call.kept = call.cached)

/-- What is at hand after a call is what it brought, or else what was at hand before. -/
theorem FollowsRules.kept_eq {call : TokenCall World}
    (rules : call.FollowsRules surroundings credential) :
    call.kept = (lastBrought [call]).or call.cached := by
  by_cases none : call.attempts = []
  · simp [lastBrought, none, (rules.skips none).2.1]
  · obtain ⟨attempt, only, -, -, made⟩ := rules.attempts none
    obtain ⟨answer, succeeds, -, -, kept⟩ | ⟨message, fails, -, kept⟩ := made
    · simp [lastBrought, only, Attempt.brought?, succeeds, kept]
    · simp [lastBrought, only, Attempt.brought?, fails, kept]

end TokenCall

section Rules

variable {world : World} {cached? : Option CachedToken}

theorem call_of_fresh (credential : Credential) {cached : CachedToken}
    (inside : ¬ Clock.IsBeyond (surroundings.now world) CachedToken.margin)
    (fresh : surroundings.now world + CachedToken.margin < cached.expiresAt) :
    call surroundings credential (some cached) world =
      { world, cached := some cached, messages := [], attempts := [],
        result := .ok cached.token, kept := some cached } := by
  have observed : watchedToken surroundings credential ⟨some cached, ((world, []), [])⟩ =
      (.ok cached.token, ⟨some cached, ((world, []), [])⟩) :=
    tokenBy_of_fresh _ rfl inside fresh
  rw [call, observed]

/-- What is returned and kept depends on nothing but the outcome of the exchange and the time of
receipt. -/
theorem renewBy_congr {Other : Type} (surroundings : Surroundings World)
    {surroundings' : Surroundings Other} (exchange : Action World TokenAnswer)
    {exchange' : Action Other TokenAnswer} (cached? : Option CachedToken) (world : World)
    {other : Other}
    (outcome : (exchange' other).1 = (exchange world).1)
    (receipt : surroundings'.now (exchange' other).2 = surroundings.now (exchange world).2) :
    let renewed := renewBy surroundings exchange ⟨cached?, world⟩
    renewBy surroundings' exchange' ⟨cached?, other⟩ =
      (renewed.1, ⟨renewed.2.cached, (exchange' other).2⟩) := by
  simp only [renewBy_run, outcome, receipt]
  cases (exchange world).1 with
  | error error => rfl
  | ok answer =>
      by_cases beyond : Clock.IsBeyond (surroundings.now (exchange world).2) answer.lifetime
      · simp only [if_pos beyond]
      · simp only [if_neg beyond]

theorem call_of_needsToken (credential : Credential)
    (inside : cached? ≠ none → ¬ Clock.IsBeyond (surroundings.now world) CachedToken.margin)
    (needs : NeedsToken (⟨cached?, world⟩ : TokenState World) (surroundings.now world)) :
    let fetched := fetch surroundings credential world
    let renewed := renew surroundings credential ⟨cached?, world⟩
    call surroundings credential cached? world =
      { world, cached := cached?, messages := messages surroundings credential world,
        attempts := [⟨fetched.1, surroundings.now fetched.2⟩], result := renewed.1,
        kept := renewed.2.cached } := by
  intro fetched renewed
  have isRenewal : watchedToken surroundings credential ⟨cached?, ((world, []), [])⟩ =
      renewBy _ _ ⟨cached?, ((world, []), [])⟩ :=
    tokenBy_of_needsToken _ inside needs
  have observed : watchedToken surroundings credential ⟨cached?, ((world, []), [])⟩ =
      (renewed.1, ⟨renewed.2.cached, ((fetched.2, messages surroundings credential world),
        [⟨fetched.1, surroundings.now fetched.2⟩])⟩) := by
    rw [isRenewal, renewBy_congr surroundings (fetch surroundings credential) cached? world]
    · simp only [Action.noting_run, fetch_noting, List.nil_append, renewed, renew, fetched]
    · simp only [Action.noting_run, fetch_noting]
    · simp only [Action.noting_run, fetch_noting]
      rfl
  rw [call, observed]

/-- A renewal fails as the exchange does, or it brings the token of the answer if the token expires
while the clock goes. -/
theorem renew_cases (returns : surroundings.Returns) (credential : Credential)
    (state : TokenState World) :
    let fetched := fetch surroundings credential state.world
    let renewed := renew surroundings credential state
    (∃ message, fetched.1 = .error (.credentials message) ∧
      renewed = (.error (.credentials message), { state with world := fetched.2 })) ∨
    ∃ answer, fetched.1 = .ok answer ∧
      (¬ Clock.IsBeyond (surroundings.now fetched.2) answer.lifetime →
        renewed = (.ok answer.token,
          ⟨some ⟨answer.token, surroundings.now fetched.2 + answer.lifetime⟩, fetched.2⟩)) := by
  intro fetched renewed
  have renewedIs : renewed = _ := renew_run surroundings credential state
  obtain ⟨answer, found, -⟩ | ⟨message, failed⟩ := fetch_comesTo returns credential state.world
  · refine .inr ⟨answer, found, fun inside => ?_⟩
    simp only [found] at renewedIs
    rw [renewedIs, if_neg inside]
  · refine .inl ⟨message, failed, ?_⟩
    simp only [failed] at renewedIs
    exact renewedIs

/-- Every call follows the rules if everything comes back and all times are on the clock. -/
theorem call_followsRules (returns : surroundings.Returns) (credential : Credential)
    (inRange : (call surroundings credential cached? world).IsInRange surroundings) :
    (call surroundings credential cached? world).FollowsRules surroundings credential := by
  have inside : cached? ≠ none → ¬ Clock.IsBeyond (surroundings.now world) CachedToken.margin :=
    fun atHand => Int.not_lt.mpr (inRange.1 atHand)
  by_cases needs : NeedsToken (⟨cached?, world⟩ : TokenState World) (surroundings.now world)
  · have isRenewal : token surroundings credential ⟨cached?, world⟩ =
        renew surroundings credential ⟨cached?, world⟩ := by
      rw [token_eq_tokenBy]
      exact tokenBy_of_needsToken _ inside needs
    have expires := inRange.2
    rw [call_of_needsToken credential inside needs] at expires ⊢
    simp only [List.forall_mem_singleton] at expires
    refine {
      isCall := ⟨_, isRenewal⟩
      skips_iff := iff_of_false (List.cons_ne_nil _ _) ?_
      skips := fun none => absurd none (List.cons_ne_nil _ _)
      attempts := fun _ => ⟨_, rfl, length_messages_le surroundings credential world,
        fun _ => fetch_eq_ok_iff, ?_⟩ }
    · rintro ⟨cached, atHand, fresh⟩
      exact absurd (needs cached atHand) (Int.not_le.mpr fresh)
    · obtain ⟨message, failed, renewal⟩ | ⟨answer, found, renewal⟩ :=
        renew_cases returns credential ⟨cached?, world⟩
      · rw [renewal]
        exact .inr ⟨message, failed, rfl, rfl⟩
      · have expires : ¬ Clock.IsBeyond
            (surroundings.now (fetch surroundings credential world).2) answer.lifetime := by
          simpa [Attempt.brought?, found, Clock.IsBeyond] using expires
        rw [renewal expires]
        exact .inl ⟨answer, found, fetch_eq_ok_iff.mp found, rfl, rfl⟩
  · have fresh : ∃ cached, cached? = some cached ∧
        surroundings.now world + CachedToken.margin < cached.expiresAt := by
      simpa [NeedsToken] using needs
    obtain ⟨cached, rfl, fresh⟩ := fresh
    have inside := inside (Option.some_ne_none _)
    have isCached : token surroundings credential ⟨some cached, world⟩ =
        (.ok cached.token, ⟨some cached, world⟩) := by
      rw [token_eq_tokenBy]
      exact tokenBy_of_fresh _ rfl inside fresh
    rw [call_of_fresh credential inside fresh]
    exact {
      isCall := ⟨world, isCached⟩
      skips_iff := iff_of_true rfl ⟨cached, rfl, fresh⟩
      skips := fun _ => ⟨rfl, rfl, cached, rfl, rfl⟩
      attempts := fun some => absurd rfl some }

end Rules

/-! ## Runs -/

open TokenCall

/-- What is at hand for a call is what the calls before it have brought, or else what was at hand
before them. -/
theorem cached_of_calls (returns : surroundings.Returns) {credential : Credential}
    {earlier later : List (TokenCall World)} {call : TokenCall World} {worlds : List World}
    {cached? : Option CachedToken}
    (inRange : ∀ call ∈ calls surroundings credential cached? worlds, call.IsInRange surroundings)
    (during : calls surroundings credential cached? worlds = earlier ++ call :: later) :
    call.FollowsRules surroundings credential ∧
      call.cached = (lastBrought earlier).or cached? := by
  -- The induction is on the calls before this one, for whatever was at hand when they began.
  induction earlier generalizing worlds cached? with
  | nil =>
      cases worlds with
      | nil => cases during
      | cons world worlds =>
          cases during
          exact ⟨call_followsRules returns credential (inRange _ (List.mem_cons_self ..)), rfl⟩
  | cons first earlier ih =>
      cases worlds with
      | nil => cases during
      | cons world worlds =>
          rw [calls, List.cons_append, List.cons.injEq] at during
          obtain ⟨rfl, rest⟩ := during
          rw [calls, List.forall_mem_cons] at inRange
          have first := call_followsRules returns credential inRange.1
          obtain ⟨rules, cached⟩ := ih inRange.2 rest
          refine ⟨rules, cached.trans ?_⟩
          rw [lastBrought_cons, Option.or_assoc, first.kept_eq]
          rfl

/-- However often and whenever a credential is asked for a token, and whatever the issuer answers:
every call follows the rules, and what is at hand for it is the token that the last successful
attempt before it has brought. So a call that makes no attempt returns this token, and the token is
good for longer than the margin. The times need not be in order. They only have to be on the clock,
with the margin and with the lifetimes of the tokens that are brought. -/
theorem calls_keep_the_last_token (surroundings : Surroundings World)
    (returns : surroundings.Returns) (credential : Credential) (worlds : List World)
    (inRange : ∀ call ∈ calls surroundings credential none worlds, call.IsInRange surroundings)
    (earlier later : List (TokenCall World)) (call : TokenCall World)
    (during : calls surroundings credential none worlds = earlier ++ call :: later) :
    call.FollowsRules surroundings credential ∧ call.cached = lastBrought earlier ∧
      (call.attempts = [] → ∃ token, lastBrought earlier = some token ∧
        call.result = .ok token.token ∧
        surroundings.now call.world + CachedToken.margin < token.expiresAt) := by
  obtain ⟨rules, cached⟩ := cached_of_calls returns inRange during
  rw [Option.or_none] at cached
  refine ⟨rules, cached, fun none => ?_⟩
  obtain ⟨-, -, token, atHand, result⟩ := rules.skips none
  obtain ⟨_, atHand', fresh⟩ := rules.skips_iff.mp none
  cases atHand.symm.trans atHand'
  exact ⟨token, cached.symm.trans atHand, result, fresh⟩

/-- Surroundings in which a world is a time and the answers to come. -/
def scripted : Surroundings (Int × List Http.Reply) where
  send _ world :=
    match world.2 with
    | [] => (.ok none, world)
    | reply :: rest => (.ok (some reply), (world.1, rest))
  now world := world.1
  readFile path _ := .error (path ++ " is not there")

theorem scripted_returns : scripted.Returns := by
  rintro _ ⟨_, replies⟩
  cases replies <;> exact ⟨_, rfl⟩

/-- A token for an hour is still good enough after 3299 seconds. It is not a second later, and it is
kept when the issuer has no new one. -/
theorem principal_keeps_a_token_for_an_hour :
    let hour := issued (.string "3600")
    let worlds := [(0, [hour]), (3299, [hour]), (3300, [⟨503, .text "busy"⟩]), (3400, [hour])]
    let made := calls scripted principal none worlds
    (∀ call ∈ made, call.IsInRange scripted) ∧
      made.map (·.messages.length) = [1, 0, 1, 1] ∧
      made.map (·.kept.map (·.expiresAt)) = [some 3600, some 3600, some 3600, some 7000] ∧
      ∃ first second later, made = [first] ++ second :: later ∧
        ∃ token, lastBrought [first] = some token ∧ second.result = .ok token.token ∧
          scripted.now second.world + CachedToken.margin < token.expiresAt := by
  intro hour worlds made
  have inRange : ∀ call ∈ made, call.IsInRange scripted := by decide +kernel
  have skips : ∀ call ∈ made[1]?, call.attempts.isEmpty := by decide +kernel
  refine ⟨inRange, by decide +kernel, by decide +kernel, _, _, _, rfl, ?_⟩
  have rules := calls_keep_the_last_token scripted scripted_returns principal worlds inRange
    [_] _ _ rfl
  exact rules.2.2 (List.isEmpty_iff.mp (skips _ rfl))

end Credential

end ClusterLinks
