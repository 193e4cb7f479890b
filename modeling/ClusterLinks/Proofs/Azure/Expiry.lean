import ClusterLinks.Azure.Token
import ClusterLinks.Proofs.Kubernetes.Filing
import ClusterLinks.Proofs.Store.Failures

/-!
# When tokens expire

A token expires some seconds after its receipt, and the issuer says how many. The sum is a time on
the clock, and nobody looks whether the clock goes that far. So there are three ways in which a call
for a token ends: with a token, with a failure that says what was wrong with the credential or the
answer, or with a clock that has run over. The last one happens exactly if the lifetime in the
answer, or the margin for the token at hand, reaches beyond the last second of the clock.
-/

namespace ClusterLinks

variable {World : Type}

/-- Every request comes back, with an answer or without one. -/
def Surroundings.Returns (surroundings : Surroundings World) : Prop :=
  ∀ request world, ∃ reply?, (surroundings.send request world).1 = .ok reply?

theorem Surroundings.Returns.ask {surroundings : Surroundings World}
    (returns : surroundings.Returns) (request? : Except Http.Problem Http.Request)
    (world : World) : ∃ result, (surroundings.ask request? world).1 = .ok result := by
  cases request? with
  | error problem => exact ⟨_, rfl⟩
  | ok request =>
      obtain ⟨reply?, replied⟩ := returns request world
      rw [Surroundings.ask, Action.bind_run]
      cases sent : surroundings.send request world with
      | mk result after =>
        rw [sent] at replied
        subst replied
        cases reply? <;> exact ⟨_, rfl⟩

/-! ## The end of the clock -/

namespace Clock

variable {time : Int} {seconds : Nat}

/-- The clock cannot represent the time so many seconds later. -/
def IsBeyond (time : Int) (seconds : Nat) : Prop :=
  lastSecond < time + seconds

instance (time : Int) (seconds : Nat) : Decidable (IsBeyond time seconds) :=
  inferInstanceAs (Decidable (_ < _))

theorem after_of_isBeyond (beyond : IsBeyond time seconds) :
    after time seconds = .error .clockOverflow :=
  if_neg (Int.not_le.mpr beyond)

theorem after_of_not_isBeyond (inside : ¬ IsBeyond time seconds) :
    after time seconds = .ok (time + seconds) :=
  if_pos (Int.not_lt.mp inside)

end Clock

namespace CachedToken

variable {cached : CachedToken} {now : Int}

/-- A token cannot even be compared with a time if the margin leads too far. -/
theorem isFresh_of_isBeyond (beyond : Clock.IsBeyond now margin) :
    cached.isFresh now = .error .clockOverflow := by
  rw [isFresh, Clock.after_of_isBeyond beyond]
  rfl

theorem isFresh_of_not_isBeyond (inside : ¬ Clock.IsBeyond now margin) :
    cached.isFresh now = .ok (decide (now + margin < cached.expiresAt)) := by
  rw [isFresh, Clock.after_of_not_isBeyond inside]
  rfl

end CachedToken

/-! ## Lifetimes -/

namespace TokenAnswer

/-- No answer gives a token more seconds than a number of 64 bits can hold. -/
theorem readLifetime_le {document : Json} {seconds : Nat}
    (reads : readLifetime document = some seconds) : seconds ≤ Decimal.max64 := by
  cases document with
  | null =>
      cases reads
      exact Nat.zero_le _
  | integer number =>
      rw [readLifetime] at reads
      split at reads
      · next inside =>
          cases reads
          exact Int.toNat_le.mpr inside.2
      · cases reads
  | string text =>
      rw [readLifetime, Option.some.injEq] at reads
      subst reads
      cases denotes : Decimal.unsigned? Decimal.max64 text with
      | none => exact Nat.zero_le _
      | some number =>
          rw [Decimal.unsigned?, Option.filter_eq_some_iff] at denotes
          simpa using denotes.2
  | bool _ | decimal _ _ | array _ | object _ => cases reads

/-- Any number of seconds that 64 bits can hold may be given as a number. -/
theorem readLifetime_integer {seconds : Nat} (fits : seconds ≤ Decimal.max64) :
    readLifetime (.integer seconds) = some seconds := by
  have inside : 0 ≤ (seconds : Int) ∧ (seconds : Int) ≤ Decimal.max64 := by omega
  rw [readLifetime, if_pos inside, Int.toNat_natCast]

/-- It may be given as a text as well. -/
theorem readLifetime_string {seconds : Nat} (fits : seconds ≤ Decimal.max64) :
    readLifetime (.string (toString seconds)) = some seconds := by
  rw [readLifetime, Decimal.unsigned?_of_natural? (Decimal.natural?_toString seconds) fits,
    Option.getD_some]

theorem read_of_readLifetime {lifetime : Json} {seconds : Nat} {token : String}
    (reads : readLifetime lifetime = some seconds) :
    read (.object [("access_token", .string token), ("expires_in", lifetime)]) =
      some ⟨token, seconds⟩ := by
  let entries : Entries Json := [("access_token", .string token), ("expires_in", lifetime)]
  have isToken : tokenField.of? entries = some token := rfl
  have isLifetime : (entries.get? "expires_in").getD .null = lifetime := rfl
  change (do
    let token ← tokenField.of? entries
    let lifetime ← readLifetime ((entries.get? "expires_in").getD .null)
    some { token, lifetime : TokenAnswer }) = _
  rw [isToken, isLifetime, reads]
  rfl

theorem lifetime_le {document : Json} {answer : TokenAnswer} (reads : read document = some answer) :
    answer.lifetime ≤ Decimal.max64 := by
  simp only [read, Option.bind_eq_bind, Option.bind_eq_some_iff] at reads
  obtain ⟨entries, -, token, -, lifetime, readsLifetime, made⟩ := reads
  cases made
  exact readLifetime_le readsLifetime

end TokenAnswer

/-- What is read from a body is read from some document. -/
theorem Http.Body.exists_of_read? {α : Type} {reader : Reader α} {body : Http.Body} {value : α}
    (reads : body.read? reader = some value) : ∃ document, reader.read document = some value := by
  cases body with
  | document document => exact ⟨document, reads⟩
  | text text =>
      change reader.ofText? text = some value at reads
      simp only [Reader.ofText?, Option.bind_eq_bind, Option.bind_eq_some_iff] at reads
      obtain ⟨written, -, document, -, read⟩ := reads
      exact ⟨_, read⟩

/-! ## Answers -/

/-- The action comes to a value with the property, or something is wrong with the credentials. -/
def Action.ComesTo {α : Type} (action : Action World α) (property : α → Prop) : Prop :=
  ∀ world, (∃ value, (action world).1 = .ok value ∧ property value) ∨
    ∃ message, (action world).1 = .error (.credentials message)

theorem Action.ComesTo.bind {α β : Type} {action : Action World α} {next : α → Action World β}
    {property : α → Prop} {property' : β → Prop} (first : action.ComesTo property)
    (rest : ∀ value, property value → (next value).ComesTo property') :
    (action >>= next).ComesTo property' := by
  intro world
  obtain ⟨error, fails, run⟩ | ⟨value, succeeds, run⟩ := Action.bind_cases action next world
  · obtain ⟨value, succeeds, -⟩ | ⟨message, fails'⟩ := first world
    · cases succeeds.symm.trans fails
    · cases fails'.symm.trans fails
      rw [run]
      exact .inr ⟨message, rfl⟩
  · obtain ⟨value', succeeds', holds⟩ | ⟨message, fails⟩ := first world
    · cases succeeds'.symm.trans succeeds
      rw [run]
      exact rest value holds _
    · cases fails.symm.trans succeeds

namespace Credential

variable {surroundings : Surroundings World} {state : TokenState World}

theorem assertion_comesTo (surroundings : Surroundings World) (credential : Credential) :
    (assertion surroundings credential).ComesTo fun _ => True := by
  intro world
  unfold assertion
  cases credential.kind with
  | managedIdentity _ | clientSecret _ _ _ => exact .inl ⟨_, rfl, trivial⟩
  | workloadIdentity _ _ path =>
      simp only [Action.bind_run, Action.inspect_run]
      cases surroundings.readFile path world with
      | ok text => exact .inl ⟨text, rfl, trivial⟩
      | error reason => exact .inr ⟨_, rfl⟩

/-- An answer is a token with a lifetime of 64 bits; everything else is a failure. -/
theorem readReply_cases (kind : CredentialKind) (reply? : Except Http.Problem Http.Reply) :
    (∃ answer, readReply kind reply? = .ok answer ∧ answer.lifetime ≤ Decimal.max64) ∨
      ∃ message, readReply kind reply? = .error (.credentials message) := by
  cases reply? with
  | error problem => exact .inr ⟨_, rfl⟩
  | ok reply =>
      rw [readReply]
      split
      · cases reads : reply.content.read? TokenAnswer.reader with
        | none => exact .inr ⟨_, rfl⟩
        | some answer =>
            obtain ⟨document, read⟩ := Http.Body.exists_of_read? reads
            exact .inl ⟨answer, rfl, TokenAnswer.lifetime_le read⟩
      · exact .inr ⟨_, rfl⟩

/-- What is fetched is read from the answer to the request. -/
theorem fetch_of_reply {credential : Credential} {text : String} {request : Http.Request}
    {reply : Http.Reply} {world after : World}
    (asserts : assertion surroundings credential world = (.ok text, world))
    (makes : credential.request? text = .ok request)
    (sends : surroundings.send request world = (.ok (some reply), after)) :
    fetch surroundings credential world = (readReply credential.kind (.ok reply), after) := by
  have asks : surroundings.ask (credential.request? text) world = (.ok (.ok reply), after) := by
    rw [makes]
    exact Action.bind_of_ok sends _
  rw [fetch, Action.bind_of_ok asserts, Action.bind_of_ok asks, Action.ofExcept_run]

theorem fetch_comesTo (returns : surroundings.Returns) (credential : Credential) :
    (fetch surroundings credential).ComesTo fun answer => answer.lifetime ≤ Decimal.max64 := by
  refine (assertion_comesTo surroundings credential).bind fun text _ => ?_
  have asks : (surroundings.ask (credential.request? text)).ComesTo fun _ => True := by
    intro world
    obtain ⟨result, asked⟩ := returns.ask (credential.request? text) world
    exact .inl ⟨result, asked, trivial⟩
  exact asks.bind fun reply? _ _ => readReply_cases credential.kind reply?

/-! ## Calls for a token -/

/-- Nothing is at hand that can be used for long enough at a time. -/
def NeedsToken (state : TokenState World) (now : Int) : Prop :=
  ∀ cached, state.cached = some cached → cached.expiresAt ≤ now + CachedToken.margin

theorem usable?_of_none (surroundings : Surroundings World) (nothing : state.cached = none) :
    usable? surroundings state = (.ok none, state) := by
  simp only [usable?, Action.bind_run, Action.inspect_run, nothing, Action.pure_run]

theorem usable?_of_some {cached : CachedToken} (surroundings : Surroundings World)
    (atHand : state.cached = some cached) :
    usable? surroundings state =
      ((cached.isFresh (surroundings.now state.world)).map fun fresh =>
        if fresh then some cached.token else none, state) := by
  obtain ⟨cached?, world⟩ := state
  subst atHand
  simp only [usable?, Action.bind_run, Action.inspect_run, outside, Action.within_run,
    Action.ofExcept_run]
  cases cached.isFresh (surroundings.now world) <;> rfl

theorem usable?_of_needsToken (inside : state.cached ≠ none →
      ¬ Clock.IsBeyond (surroundings.now state.world) CachedToken.margin)
    (needs : NeedsToken state (surroundings.now state.world)) :
    usable? surroundings state = (.ok none, state) := by
  cases atHand : state.cached with
  | none => exact usable?_of_none surroundings atHand
  | some cached =>
      rw [usable?_of_some surroundings atHand,
        CachedToken.isFresh_of_not_isBeyond (inside (by simp [atHand])),
        decide_eq_false (Int.not_lt.mpr (needs cached atHand))]
      rfl

/-- Gets a token in an exchange and keeps it. -/
def renewBy (surroundings : Surroundings World) (exchange : Action World TokenAnswer) :
    Action (TokenState World) String := do
  let answer ← outside exchange
  let now ← outside (Action.inspect surroundings.now)
  let expiresAt ← Action.ofExcept (Clock.after now answer.lifetime)
  Action.modify fun state => { state with cached := some ⟨answer.token, expiresAt⟩ }
  pure answer.token

/-- A new token is kept until its time has come, if the clock goes that far. -/
theorem renewBy_run (surroundings : Surroundings World) (exchange : Action World TokenAnswer)
    (state : TokenState World) :
    renewBy surroundings exchange state =
      let fetched := exchange state.world
      match fetched.1 with
      | .error error => (.error error, { state with world := fetched.2 })
      | .ok answer =>
          let receipt := surroundings.now fetched.2
          if Clock.IsBeyond receipt answer.lifetime then
            (.error .clockOverflow, { state with world := fetched.2 })
          else (.ok answer.token, ⟨some ⟨answer.token, receipt + answer.lifetime⟩, fetched.2⟩) := by
  simp only [renewBy, Action.bind_run, outside, Action.within_run, Action.inspect_run]
  cases (exchange state.world).1 with
  | error error => rfl
  | ok answer =>
      by_cases beyond : Clock.IsBeyond (surroundings.now (exchange state.world).2) answer.lifetime
      · simp only [Clock.after_of_isBeyond beyond, Action.ofExcept_run, if_pos beyond]
      · simp only [Clock.after_of_not_isBeyond beyond, Action.ofExcept_run, if_neg beyond]
        rfl

/-- Gets a token for a credential and keeps it. -/
def renew (surroundings : Surroundings World) (credential : Credential) :
    Action (TokenState World) String :=
  renewBy surroundings (fetch surroundings credential)

theorem token_eq (surroundings : Surroundings World) (credential : Credential) :
    token surroundings credential = usable? surroundings >>= fun usable? =>
      match usable? with
      | some token => pure token
      | none => renew surroundings credential := rfl

theorem renew_run (surroundings : Surroundings World) (credential : Credential)
    (state : TokenState World) :
    renew surroundings credential state =
      let fetched := fetch surroundings credential state.world
      match fetched.1 with
      | .error error => (.error error, { state with world := fetched.2 })
      | .ok answer =>
          let receipt := surroundings.now fetched.2
          if Clock.IsBeyond receipt answer.lifetime then
            (.error .clockOverflow, { state with world := fetched.2 })
          else (.ok answer.token, ⟨some ⟨answer.token, receipt + answer.lifetime⟩, fetched.2⟩) :=
  renewBy_run surroundings _ state

/-- What a call for a token may come to: a token, a failure that says what was wrong, or a clock
that has run over. -/
def IsOutcome (result : Except Error String) : Prop :=
  (∃ token, result = .ok token) ∨ (∃ message, result = .error (.credentials message)) ∨
    result = .error .clockOverflow

/-- Getting a new token runs over the clock exactly if the lifetime leads beyond it. -/
theorem renew_overflows_iff (returns : surroundings.Returns) (credential : Credential)
    (state : TokenState World) :
    let call := renew surroundings credential state
    let fetched := fetch surroundings credential state.world
    IsOutcome call.1 ∧
      (call.1 = .error .clockOverflow ↔ ∃ answer, fetched.1 = .ok answer ∧
        Clock.IsBeyond (surroundings.now fetched.2) answer.lifetime) ∧
      ∀ error, call.1 = .error error → call.2.cached = state.cached := by
  intro call fetched
  have callIs : call = _ := renew_run surroundings credential state
  obtain ⟨answer, found, -⟩ | ⟨message, failed⟩ := fetch_comesTo returns credential state.world
  · simp only [found] at callIs
    split at callIs
    · next beyond =>
        rw [callIs]
        exact ⟨.inr (.inr rfl), iff_of_true rfl ⟨answer, found, beyond⟩, fun _ _ => rfl⟩
    · next inside =>
        have never : ¬ ∃ answer, fetched.1 = .ok answer ∧
            Clock.IsBeyond (surroundings.now fetched.2) answer.lifetime := by
          rintro ⟨other, found', beyond⟩
          cases found.symm.trans found'
          exact inside beyond
        rw [callIs]
        exact ⟨.inl ⟨_, rfl⟩, iff_of_false (by simp) never, fun _ failed => nomatch failed⟩
  · simp only [failed] at callIs
    have never : ¬ ∃ answer, fetched.1 = .ok answer ∧
        Clock.IsBeyond (surroundings.now fetched.2) answer.lifetime := by
      rintro ⟨answer, found, -⟩
      cases found.symm.trans failed
    rw [callIs]
    exact ⟨.inr (.inl ⟨message, rfl⟩), iff_of_false (by simp) never, fun _ _ => rfl⟩

/-- A call for a token ends with a token, or with a failure that says what was wrong, or with a
clock that has run over. It is the clock exactly if there is a token at hand and the margin leads
beyond the last second, or if a new token is needed and its lifetime leads there from the time of
receipt. The token at hand is kept if the call does not come to a new one. -/
theorem token_overflows_iff (surroundings : Surroundings World) (returns : surroundings.Returns)
    (credential : Credential) (state : TokenState World) :
    let call := token surroundings credential state
    let now := surroundings.now state.world
    let fetched := fetch surroundings credential state.world
    IsOutcome call.1 ∧
      (call.1 = .error .clockOverflow ↔
        (state.cached ≠ none ∧ Clock.IsBeyond now CachedToken.margin) ∨
          (NeedsToken state now ∧ ∃ answer, fetched.1 = .ok answer ∧
            Clock.IsBeyond (surroundings.now fetched.2) answer.lifetime)) ∧
      ∀ error, call.1 = .error error → call.2.cached = state.cached := by
  intro call now fetched
  by_cases beyond : state.cached ≠ none ∧ Clock.IsBeyond now CachedToken.margin
  · obtain ⟨cached, atHand⟩ := Option.ne_none_iff_exists'.mp beyond.1
    have callIs : call = (.error .clockOverflow, state) := by
      apply Action.bind_of_error
      rw [usable?_of_some surroundings atHand, CachedToken.isFresh_of_isBeyond beyond.2]
      rfl
    rw [callIs]
    exact ⟨.inr (.inr rfl), iff_of_true rfl (.inl beyond), fun _ _ => rfl⟩
  · rw [not_and] at beyond
    by_cases needs : NeedsToken state now
    · have callIs : call = renew surroundings credential state := by
        simp only [call, token_eq, Action.bind_of_ok (usable?_of_needsToken beyond needs)]
      obtain ⟨ends, overflows, keeps⟩ := renew_overflows_iff returns credential state
      rw [callIs]
      refine ⟨ends, overflows.trans ?_, keeps⟩
      simp only [needs, true_and, not_and.mpr beyond, false_or, fetched]
    · have fresh : ∃ cached, state.cached = some cached ∧
          now + CachedToken.margin < cached.expiresAt := by
        simpa [NeedsToken] using needs
      obtain ⟨cached, atHand, fresh⟩ := fresh
      have callIs : call = (.ok cached.token, state) := by
        have usable := usable?_of_some surroundings atHand
        rw [CachedToken.isFresh_of_not_isBeyond (beyond (by simp [atHand])),
          decide_eq_true fresh] at usable
        exact Action.bind_of_ok usable _
      rw [callIs]
      refine ⟨.inl ⟨_, rfl⟩, iff_of_false (by simp) ?_, fun _ failed => nomatch failed⟩
      simp only [needs, false_and, or_false, not_and]
      exact beyond

/-! ## An issuer -/

/-- An answer with a token and a lifetime. -/
def issued (lifetime : Json) : Http.Reply where
  status := 200
  body := .document (.object [("access_token", .string "token"), ("expires_in", lifetime)])

theorem readReply_issued {lifetime : Json} {seconds : Nat} (kind : CredentialKind)
    (reads : TokenAnswer.readLifetime lifetime = some seconds) :
    readReply kind (.ok (issued lifetime)) = .ok ⟨"token", seconds⟩ := by
  have succeeds : Http.Status.isSuccess (issued lifetime).status = true := rfl
  have holds : (issued lifetime).content.read? TokenAnswer.reader = some ⟨"token", seconds⟩ :=
    TokenAnswer.read_of_readLifetime reads
  rw [readReply, if_pos succeeds, holds]

/-- Surroundings in which it is always the same time and every request is answered with a token. -/
def issuer (now : Int) (lifetime : Json) : Surroundings Unit where
  send _ := pure (some (issued lifetime))
  now _ := now
  readFile path _ := .error (path ++ " is not there")

theorem issuer_returns (now : Int) (lifetime : Json) : (issuer now lifetime).Returns :=
  fun _ _ => ⟨_, rfl⟩

/-- A service that shows a secret. -/
def principal : Credential where
  kind := .clientSecret "tenant" "client" "secret"
  authorityHost := "http://login"

theorem fetch_principal {lifetime : Json} {seconds : Nat}
    (reads : TokenAnswer.readLifetime lifetime = some seconds) (now : Int) :
    fetch (issuer now lifetime) principal () = (.ok ⟨"token", seconds⟩, ()) := by
  have isMade : (principal.request? "").isOk = true := by decide +kernel
  cases made : principal.request? "" with
  | error problem =>
      rw [made] at isMade
      cases isMade
  | ok request => rw [fetch_of_reply rfl made rfl, readReply_issued _ reads]

/-- What the service gets if it needs a token. -/
theorem token_principal {lifetime : Json} {seconds : Nat} {now : Int} {cached? : Option CachedToken}
    (reads : TokenAnswer.readLifetime lifetime = some seconds)
    (inside : cached? ≠ none → ¬ Clock.IsBeyond now CachedToken.margin)
    (needs : NeedsToken (⟨cached?, ()⟩ : TokenState Unit) now) :
    token (issuer now lifetime) principal ⟨cached?, ()⟩ =
      if Clock.IsBeyond now seconds then (.error .clockOverflow, ⟨cached?, ()⟩)
      else (.ok "token", ⟨some ⟨"token", now + seconds⟩, ()⟩) := by
  have usable : usable? (issuer now lifetime) ⟨cached?, ()⟩ = (.ok none, ⟨cached?, ()⟩) :=
    usable?_of_needsToken inside needs
  rw [token_eq, Action.bind_of_ok usable]
  dsimp only
  rw [renew_run, fetch_principal reads]
  rfl

/-- Every lifetime that leads beyond the end of the clock can be given to a service, as a number or
as a text, and then the clock has run over. -/
theorem principal_overflows {now : Int} {seconds : Nat} (fits : seconds ≤ Decimal.max64)
    (beyond : Clock.IsBeyond now seconds) {lifetime : Json}
    (form : lifetime = .integer seconds ∨ lifetime = .string (toString seconds)) :
    token (issuer now lifetime) principal ⟨none, ()⟩ = (.error .clockOverflow, ⟨none, ()⟩) := by
  have reads : TokenAnswer.readLifetime lifetime = some seconds := by
    obtain rfl | rfl := form
    · exact TokenAnswer.readLifetime_integer fits
    · exact TokenAnswer.readLifetime_string fits
  rw [token_principal reads (fun atHand => absurd rfl atHand) (fun _ atHand => nomatch atHand),
    if_pos beyond]

/-- A token for an hour takes the place of one that is about to expire. -/
theorem principal_gets_a_token_for_an_hour :
    let surroundings := issuer 1700000000 (.string "3600")
    let call := token surroundings principal ⟨some ⟨"old", 1700000100⟩, ()⟩
    surroundings.Returns ∧ call.1 ≠ .error .clockOverflow ∧
      call = (.ok "token", ⟨some ⟨"token", 1700003600⟩, ()⟩) := by
  intro surroundings call
  have returns : surroundings.Returns := issuer_returns _ _
  have anHour : TokenAnswer.readLifetime (.string "3600") = some 3600 := by decide +kernel
  have overflows := (token_overflows_iff surroundings returns principal
    ⟨some ⟨"old", 1700000100⟩, ()⟩).2.1
  refine ⟨returns, ?_, ?_⟩
  · intro fails
    obtain ⟨-, beyond⟩ | ⟨-, answer, found, beyond⟩ := overflows.mp fails
    · exact absurd beyond (by decide)
    · rw [fetch_principal anHour 1700000000] at found
      cases found
      exact absurd beyond (by decide)
  · apply token_principal anHour (fun _ => by decide)
    rintro cached ⟨⟩
    decide

/-- The longest lifetime of all brings neither a token nor a failure that says what was wrong. -/
theorem principal_gets_no_token_for_ever :
    let call := token (issuer 1700000000 (.integer 18446744073709551615)) principal ⟨none, ()⟩
    (∀ token, call.1 ≠ .ok token) ∧ (∀ message, call.1 ≠ .error (.credentials message)) ∧
      call.1 = .error .clockOverflow := by
  intro call
  have overflows : call = (.error .clockOverflow, ⟨none, ()⟩) := by
    have fits : 18446744073709551615 ≤ Decimal.max64 := by decide
    exact principal_overflows fits (by decide) (.inl rfl)
  rw [overflows]
  exact ⟨fun _ => nofun, fun _ => nofun, rfl⟩

end Credential

end ClusterLinks
