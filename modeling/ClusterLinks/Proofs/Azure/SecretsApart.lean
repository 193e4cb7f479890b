import ClusterLinks.Azure.Sessions
import ClusterLinks.Proofs.Azure.Traffic

/-!
# Worlds apart in secrets

Take two worlds that differ in nothing but what secrets hold for service principals. Whatever is
read of identities and of secrets is the same in both, up to these texts, and so a cluster resolves
to two credentials that differ in nothing but the secret, or in both worlds to the same failure.
-/

namespace ClusterLinks

variable {World : Type}

/-! ## Worlds apart in secrets -/

/-- The secret holds this text for a service principal. -/
def Secret.Holds (secret : Secret) (text : String) : Prop :=
  ∃ bytes, secret.value? Conventions.clientSecretKey = some bytes ∧
    String.fromUTF8? (ByteArray.mk bytes.toArray) = some text

/-- What comes back for a secret in two worlds in which it holds these texts: either the same, and
then nothing for a service principal is in it, or two secrets that hold the texts. -/
inductive SecretsAlike (text text' : String) :
    Except Error Http.Reply → Except Error Http.Reply → Prop where
  | same {result : Except Error Http.Reply}
      (holdsNone : ∀ reply secret, result = .ok reply →
        ApiConnection.readReply Secret.reader reply = .ok secret →
        secret.value? Conventions.clientSecretKey = none) :
      SecretsAlike text text' result result
  | apart {reply reply' : Http.Reply} {secret secret' : Secret}
      (reads : ApiConnection.readReply Secret.reader reply = .ok secret)
      (reads' : ApiConnection.readReply Secret.reader reply' = .ok secret')
      (holds : secret.Holds text) (holds' : secret'.Holds text') :
      SecretsAlike text text' (.ok reply) (.ok reply')

/-- Worlds that are alike differ in nothing but what secrets hold for service principals. Neither
identities nor secrets change: whenever an identity is read it is the same one in both worlds, and
whenever a secret is read that holds something, it holds the text that it has in its world. -/
structure DifferInSecrets (connection : ApiConnection World) (surroundings : Surroundings World)
    (identities : ObjectKey → IdentitySpec) (texts texts' : ObjectKey → String)
    (alike : World → World → Prop) : Prop where
  nonempty : ∀ key, texts key ≠ "" ∧ texts' key ≠ ""
  identity : ∀ key request world world', ApiRequest.get? .identity key = some request →
    alike world world' →
    let run := connection.send request world
    let run' := connection.send request world'
    run.1 = run'.1 ∧ alike run.2 run'.2 ∧ ∀ reply identity, run.1 = .ok reply →
      ApiConnection.readReply AzureIdentity.reader reply = .ok identity →
      identity.spec = identities key
  secret : ∀ key request world world', ApiRequest.get? .secret key = some request →
    alike world world' →
    let run := connection.send request world
    let run' := connection.send request world'
    SecretsAlike (texts key) (texts' key) run.1 run'.1 ∧ alike run.2 run'.2
  isBlind : surroundings.IsBlind alike

/-! ## Reading objects -/

namespace ApiConnection

theorem overheard_send (connection : ApiConnection World) (request : ApiRequest)
    (heard : Overheard World) :
    connection.overheard.send request heard =
      ((connection.send request heard.1).1, (connection.send request heard.1).2,
        heard.2 ++ [.kubernetes request]) := rfl

variable {connection : ApiConnection World} {α : Type} {reader : Reader α} {kind : ObjectKind}
variable {key : ObjectKey} {alike : World → World → Prop} {post : α → α → World → World → Prop}

theorem get_agrees
    (sends : ∀ request, ApiRequest.get? kind key = some request →
      (connection.send request).Agrees (connection.send request) alike alike
        fun reply reply' world world' =>
          Agree alike post (readReply reader reply, world) (readReply reader reply', world')) :
    (connection.get reader kind key).Agrees (connection.get reader kind key) alike alike post := by
  unfold get ask
  cases made : ApiRequest.get? kind key with
  | none => exact fun _ _ holds => .error holds
  | some request =>
      simp only [Action.ofOption, pure_bind]
      exact (sends request made).bind fun _ _ _ _ agree => agree

/-- What is found under a key, if nothing is known but what is got under it. -/
theorem find?_agrees (isMissing : KubernetesError → Bool)
    (gets : (connection.get reader kind key).Agrees (connection.get reader kind key) alike alike
      post) :
    (connection.find? isMissing reader kind key).Agrees
      (connection.find? isMissing reader kind key) alike alike fun found? found?' world world' =>
        (found? = none ∧ found?' = none ∧ alike world world') ∨
          ∃ found found', found? = some found ∧ found?' = some found' ∧
            post found found' world world' := by
  have attempts : (connection.get reader kind key).attempt.Agrees
      (connection.get reader kind key).attempt alike alike fun result result' world world' =>
        Agree alike post (result, world) (result', world') :=
    gets.attempt (fun _ _ _ _ holds => .ok holds) fun _ _ _ holds => .error holds
  refine attempts.bind fun result result' world world' agree => ?_
  cases agree with
  | ok holds => exact .ok (.inr ⟨_, _, rfl, rfl, holds⟩)
  | @error error _ _ holds =>
      cases error with
      | kubernetes cause =>
          by_cases missing : isMissing cause = true
          · simp only [if_pos missing]
            exact .ok (.inl ⟨rfl, rfl, holds⟩)
          · simp only [if_neg missing]
            exact .error holds
      | _ => exact .error holds

end ApiConnection

namespace DifferInSecrets

variable {connection : ApiConnection World} {surroundings : Surroundings World}
variable {identities : ObjectKey → IdentitySpec} {texts texts' : ObjectKey → String}
variable {alike : World → World → Prop}

/-- The same identity is found in both worlds, and it is the one that is known. -/
theorem find?_identity
    (differ : DifferInSecrets connection surroundings identities texts texts' alike)
    (isMissing : KubernetesError → Bool) (key : ObjectKey) :
    let find := connection.overheard.find? isMissing AzureIdentity.reader .identity key
    find.Agrees find (OverheardAlike alike) (OverheardAlike alike)
      fun found? found?' heard heard' => found? = found?' ∧
        (∀ identity ∈ found?, identity.spec = identities key) ∧
          OverheardAlike alike heard heard' := by
  have gets : (connection.overheard.get AzureIdentity.reader .identity key).Agrees
      (connection.overheard.get AzureIdentity.reader .identity key) (OverheardAlike alike)
      (OverheardAlike alike) fun identity identity' heard heard' => identity = identity' ∧
        identity.spec = identities key ∧ OverheardAlike alike heard heard' := by
    refine ApiConnection.get_agrees fun request made heard heard' holds => ?_
    obtain ⟨same, worlds, known⟩ := differ.identity key request _ _ made holds.1
    have afterwards := holds.after worlds (rfl : (Sent.kubernetes request).shown = _)
    rw [ApiConnection.overheard_send, ApiConnection.overheard_send, ← same]
    cases answer : (connection.send request heard.1).1 with
    | error error => exact .error afterwards
    | ok reply =>
        refine .ok ?_
        cases reads : ApiConnection.readReply AzureIdentity.reader reply with
        | error error => exact .error afterwards
        | ok identity => exact .ok ⟨rfl, known reply identity answer reads, afterwards⟩
  refine (ApiConnection.find?_agrees isMissing gets).imp fun found? found?' heard heard' => ?_
  rintro (⟨rfl, rfl, holds⟩ | ⟨identity, _, rfl, rfl, rfl, isKnown, holds⟩)
  · exact ⟨rfl, by simp, holds⟩
  · exact ⟨rfl, by simpa using isKnown, holds⟩

/-- Two secrets that are found in the two worlds: both hold nothing, or each the text of its
world. -/
def SecretPair (text text' : String) (secret secret' : Secret) : Prop :=
  (secret.value? Conventions.clientSecretKey = none ∧
      secret'.value? Conventions.clientSecretKey = none) ∨
    secret.Holds text ∧ secret'.Holds text'

theorem get_secret
    (differ : DifferInSecrets connection surroundings identities texts texts' alike)
    (key : ObjectKey) :
    let get := connection.overheard.get Secret.reader .secret key
    get.Agrees get (OverheardAlike alike) (OverheardAlike alike) fun secret secret' heard heard' =>
      SecretPair (texts key) (texts' key) secret secret' ∧ OverheardAlike alike heard heard' := by
  refine ApiConnection.get_agrees fun request made heard heard' holds => ?_
  obtain ⟨answers, worlds⟩ := differ.secret key request _ _ made holds.1
  have afterwards := holds.after worlds (rfl : (Sent.kubernetes request).shown = _)
  rw [ApiConnection.overheard_send, ApiConnection.overheard_send]
  revert answers afterwards
  generalize connection.send request heard.1 = run
  generalize connection.send request heard'.1 = run'
  obtain ⟨answer, after⟩ := run
  obtain ⟨answer', after'⟩ := run'
  intro answers afterwards
  cases answers with
  | apart reads reads' holds holds' =>
      refine .ok ?_
      rw [reads, reads']
      exact .ok ⟨.inr ⟨holds, holds'⟩, afterwards⟩
  | same holdsNone =>
      cases answer with
      | error error => exact .error afterwards
      | ok reply =>
          refine .ok ?_
          cases reads : ApiConnection.readReply Secret.reader reply with
          | error error => exact .error afterwards
          | ok secret =>
              have none := holdsNone reply secret rfl reads
              exact .ok ⟨.inl ⟨none, none⟩, afterwards⟩

/-- What is read of secrets: nothing in both worlds, or the text of each of them. -/
theorem readSecret_agrees
    (differ : DifferInSecrets connection surroundings identities texts texts' alike)
    (key : ObjectKey) :
    let read := Sessions.readSecret connection.overheard key
    read.Agrees read (OverheardAlike alike) (OverheardAlike alike) fun text? text?' heard heard' =>
      ((text? = none ∧ text?' = none) ∨ text? = some (texts key) ∧ text?' = some (texts' key)) ∧
        OverheardAlike alike heard heard' := by
  refine (ApiConnection.find?_agrees _ (differ.get_secret key)).bind fun found? found?' => ?_
  rintro heard heard' (⟨rfl, rfl, holds⟩ | ⟨secret, secret', rfl, rfl, pair, holds⟩)
  · exact .error holds
  · obtain ⟨none, none'⟩ | ⟨⟨bytes, there, isText⟩, bytes', there', isText'⟩ := pair
    · simp only [none, none']
      exact .ok ⟨.inl ⟨rfl, rfl⟩, holds⟩
    · simp only [there, isText, there', isText']
      exact .ok ⟨.inr ⟨rfl, rfl⟩, holds⟩

end DifferInSecrets

/-! ## Credentials -/

namespace CredentialKind

/-- An identity that needs no secret does not look at one. -/
theorem ofIdentity_of_none {identity : IdentitySpec} {tokenFile : String} {kind : CredentialKind}
    (makes : ofIdentity identity none tokenFile = .ok kind) (secret? : Option String) :
    ofIdentity identity secret? tokenFile = .ok kind := by
  unfold ofIdentity at makes ⊢
  split at makes
  · cases makes
  · next named =>
      rw [if_neg named]
      cases isType : identity.type with
      | manualServicePrincipal =>
          simp only [isType] at makes
          cases tenant : tenantOf identity <;> simp [tenant, bind, Except.bind] at makes
      | _ => simpa only [isType] using makes

/-- Which secret it is makes no difference to what can be seen. -/
theorem ofIdentity_shown (identity : IdentitySpec) (tokenFile : String) {text text' : String}
    (nonempty : text ≠ "" ∧ text' ≠ "") :
    (ofIdentity identity (some text) tokenFile).map shown =
      (ofIdentity identity (some text') tokenFile).map shown := by
  unfold ofIdentity
  split
  · rfl
  · cases identity.type with
    | manualServicePrincipal =>
        cases tenantOf identity with
        | error error => rfl
        | ok tenant => simp [Option.filter, nonempty, bind, Except.bind, Except.map, shown]
    | _ => rfl

end CredentialKind

namespace Sessions

/-- The secret that an identity in a namespace refers to. -/
def secretKey (space : String) (reference : SecretReference) : ObjectKey :=
  ⟨if reference.space = "" then space else reference.space, reference.name⟩

/-- The text that the secret of an identity holds. -/
def textOf (texts : ObjectKey → String) (space : String) (identity : IdentitySpec) :
    Option String :=
  identity.clientSecret.map fun reference => texts (secretKey space reference)

/-- The credential that an identity makes with its secret. -/
def credentialOf (settings : AzureSettings) (identities : ObjectKey → IdentitySpec)
    (texts : ObjectKey → String) (place : ObjectKey) : Except Error CredentialKind :=
  CredentialKind.ofIdentity (identities place) (textOf texts place.space (identities place))
    settings.tokenFile

/-- Two credentials that the same identity makes with the secrets of two worlds. -/
structure CredentialPair (settings : AzureSettings) (identities : ObjectKey → IdentitySpec)
    (texts texts' : ObjectKey → String) (place : ObjectKey) (kind kind' : CredentialKind) :
    Prop where
  shown : kind.shown = kind'.shown
  isMade : credentialOf settings identities texts place = .ok kind
  isMade' : credentialOf settings identities texts' place = .ok kind'

section TwoWorlds

variable {settings : AzureSettings} {connection : ApiConnection World}
variable {surroundings : Surroundings World} {identities : ObjectKey → IdentitySpec}
variable {texts texts' : ObjectKey → String} {alike : World → World → Prop}
variable (differ : DifferInSecrets connection surroundings identities texts texts' alike)

include differ

theorem secretOf_agrees (space : String) (identity : IdentitySpec) :
    let secret := secretOf connection.overheard space identity
    secret.Agrees secret (OverheardAlike alike) (OverheardAlike alike)
      fun text? text?' heard heard' =>
        ((text? = none ∧ text?' = none) ∨
            text? = textOf texts space identity ∧ text?' = textOf texts' space identity) ∧
          OverheardAlike alike heard heard' := by
  intro secret
  by_cases needs : ∃ reference, identity.type = .manualServicePrincipal ∧
      identity.clientSecret = some reference
  · obtain ⟨reference, isPrincipal, refers⟩ := needs
    have isRead : secret = readSecret connection.overheard (secretKey space reference) := by
      simp only [secret, secretOf, isPrincipal, refers]
      rfl
    rw [isRead, textOf, textOf, refers]
    exact differ.readSecret_agrees (secretKey space reference)
  · have isNone : secret = pure none := by
      simp only [secret, secretOf]
      split
      · next isPrincipal refers => exact absurd ⟨_, isPrincipal, refers⟩ needs
      · rfl
    rw [isNone]
    exact Action.Agrees.pure fun _ _ holds => ⟨.inl ⟨rfl, rfl⟩, holds⟩

/-- The two worlds make credentials of an identity that differ in the secret only, or neither makes
one and the failure is the same. -/
theorem ofIdentity_pair (settings : AzureSettings) (place : ObjectKey)
    {text? text?' : Option String}
    (holds : (text? = none ∧ text?' = none) ∨
      text? = textOf texts place.space (identities place) ∧
        text?' = textOf texts' place.space (identities place)) :
    let made := CredentialKind.ofIdentity (identities place) text? settings.tokenFile
    let made' := CredentialKind.ofIdentity (identities place) text?' settings.tokenFile
    (∃ error, made = .error error ∧ made' = .error error) ∨
      ∃ kind kind', made = .ok kind ∧ made' = .ok kind' ∧
        CredentialPair settings identities texts texts' place kind kind' := by
  intro made made'
  have shown : made.map CredentialKind.shown = made'.map CredentialKind.shown := by
    obtain ⟨rfl, rfl⟩ | ⟨rfl, rfl⟩ := holds
    · rfl
    · simp only [made, made', textOf]
      cases (identities place).clientSecret with
      | none => rfl
      | some reference => exact CredentialKind.ofIdentity_shown _ _ (differ.nonempty _)
  cases makes : made with
  | error error =>
      cases makes' : made' with
      | error error' =>
          rw [makes, makes'] at shown
          cases shown
          exact .inl ⟨error, rfl, rfl⟩
      | ok kind' =>
          rw [makes, makes'] at shown
          cases shown
  | ok kind =>
      cases makes' : made' with
      | error error' =>
          rw [makes, makes'] at shown
          cases shown
      | ok kind' =>
          rw [makes, makes'] at shown
          refine .inr ⟨kind, kind', rfl, rfl, Except.ok.inj shown, ?_, ?_⟩
          · obtain ⟨rfl, -⟩ | ⟨rfl, -⟩ := holds
            · exact CredentialKind.ofIdentity_of_none makes _
            · exact makes
          · obtain ⟨-, rfl⟩ | ⟨-, rfl⟩ := holds
            · exact CredentialKind.ofIdentity_of_none makes' _
            · exact makes'

/-- A cluster resolves to the same key in both worlds, and to credentials that differ in the secret
only. -/
theorem resolve_agrees (settings : AzureSettings) (cluster : Cluster) :
    let resolved := resolve settings connection.overheard cluster
    resolved.Agrees resolved (OverheardAlike alike) (OverheardAlike alike)
      fun found found' heard heard' =>
        (found.1 = found'.1 ∧
          CredentialPair settings identities texts texts' found.1.identity found.2 found'.2) ∧
        OverheardAlike alike heard heard' := by
  refine (Action.Matches.ofExcept (identityKey cluster)).bind fun place => ?_
  refine (differ.find?_identity _ place).bind fun identity? identity?' => ?_
  rintro heard heard' ⟨rfl, isKnown, holds⟩
  cases identity? with
  | none => exact .error holds
  | some identity =>
      have isKnown : identity.spec = identities place := isKnown identity rfl
      simp only [Action.ofOption, pure_bind]
      refine (secretOf_agrees differ place.space identity.spec).bind ?_ heard heard' holds
      rintro text? text?' heard heard' ⟨texts, holds⟩
      rw [isKnown] at texts ⊢
      obtain ⟨error, makes, makes'⟩ | ⟨kind, kind', makes, makes', pair⟩ :=
        ofIdentity_pair differ settings place texts
      · rw [makes, makes']
        exact .error holds
      · rw [makes, makes']
        exact .ok ⟨⟨rfl, pair⟩, holds⟩

end TwoWorlds

end Sessions

end ClusterLinks
