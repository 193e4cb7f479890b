import ClusterLinks.Proofs.Action.Agreement
import ClusterLinks.Proofs.Azure.KeptTokens

/-!
# What can be seen of traffic

The form that is posted for a token holds the secret of a service principal; everything else that
is sent can be seen. Surroundings are blind if their answers do not depend on such forms. In blind
surroundings two credentials that differ in their secrets only come to the same tokens and to the
same failures, and what is sent for them differs in the forms only.
-/

namespace ClusterLinks

variable {World : Type}

/-! ## What can be seen of requests and credentials -/

/-- The request without the form that it posts. -/
def Http.Request.shown (request : Http.Request) : Http.Request :=
  match request.method with
  | .get => request
  | .post => { request with body := "" }

/-- The credential without its secret. -/
def CredentialKind.shown : CredentialKind → CredentialKind
  | .clientSecret tenantId clientId _ => .clientSecret tenantId clientId ""
  | kind => kind

def Credential.shown (credential : Credential) : Credential :=
  { credential with kind := credential.kind.shown }

theorem Http.Request.shown_url (request : Http.Request) : request.shown.url = request.url := by
  unfold shown
  split <;> rfl

theorem Http.Request.shown_method (request : Http.Request) :
    request.shown.method = request.method := by
  unfold shown
  split <;> rfl

theorem Http.Request.url_eq_of_shown_eq {request request' : Http.Request}
    (same : request.shown = request'.shown) : request.url = request'.url := by
  rw [← request.shown_url, same, request'.shown_url]

/-- Whether a request can be made does not depend on its body. -/
theorem Http.Request.form?_shown (address : String) (pairs pairs' : List (String × String)) :
    (form? address pairs).map shown = (form? address pairs').map shown := by
  unfold form? make?
  cases Url.ofText? address with
  | none => rfl
  | some url => grind [Except.map, shown]

theorem CredentialKind.name_shown (kind : CredentialKind) : kind.shown.name = kind.name := by
  cases kind <;> rfl

/-- The request for a token shows all of the credential but its secret. -/
theorem Credential.request?_shown (credential : Credential) (assertion : String) :
    (credential.request? assertion).map Http.Request.shown =
      (credential.shown.request? assertion).map Http.Request.shown := by
  obtain ⟨kind, _, _, _⟩ := credential
  cases kind with
  | managedIdentity _ | workloadIdentity _ _ _ => rfl
  | clientSecret _ _ _ => exact Http.Request.form?_shown ..

theorem Credential.readReply_shown (kind : CredentialKind) :
    Credential.readReply kind.shown = Credential.readReply kind := by
  funext reply?
  unfold Credential.readReply
  rw [kind.name_shown]

/-! ## Surroundings that do not look at forms -/

/-- In worlds that are alike the same time is read and the same files, and requests that differ in
their forms at most get the same answer. -/
structure Surroundings.IsBlind (surroundings : Surroundings World) (alike : World → World → Prop) :
    Prop where
  send : ∀ request request' : Http.Request, request.shown = request'.shown →
    (surroundings.send request).Matches (surroundings.send request') alike
  now : ∀ world world', alike world world' → surroundings.now world = surroundings.now world'
  readFile : ∀ path world world', alike world world' →
    surroundings.readFile path world = surroundings.readFile path world'

namespace Surroundings.IsBlind

variable {surroundings : Surroundings World} {alike : World → World → Prop}

theorem within {Outer : Type} {alike' : Outer → Outer → Prop} {part : Outer → World}
    {put : World → Outer → Outer} (blind : surroundings.IsBlind alike)
    (parts : ∀ outer outer', alike' outer outer' → alike (part outer) (part outer'))
    (puts : ∀ outer outer', alike' outer outer' → ∀ world world', alike world world' →
      alike' (put world outer) (put world' outer')) :
    (surroundings.within part put).IsBlind alike' where
  send request request' same := (blind.send request request' same).within parts puts
  now outer outer' holds := blind.now _ _ (parts outer outer' holds)
  readFile path outer outer' holds := blind.readFile path _ _ (parts outer outer' holds)

theorem ask (blind : surroundings.IsBlind alike)
    {request? request?' : Except Http.Problem Http.Request}
    (same : request?.map Http.Request.shown = request?'.map Http.Request.shown) :
    (surroundings.ask request?).Matches (surroundings.ask request?') alike := by
  cases request? with
  | error problem =>
      cases request?' with
      | error problem' =>
          cases same
          exact Action.Matches.pure _
      | ok request' => cases same
  | ok request =>
      cases request?' with
      | error problem' => cases same
      | ok request' =>
          have shown : request.shown = request'.shown := Except.ok.inj same
          refine (blind.send request request' shown).bind fun reply? => ?_
          cases reply? with
          | some reply => exact Action.Matches.pure _
          | none =>
              rw [Http.Request.url_eq_of_shown_eq shown]
              exact Action.Matches.pure _

end Surroundings.IsBlind

namespace Credential

variable {surroundings : Surroundings World} {alike : World → World → Prop}
variable {credential credential' : Credential}

/-- The tokens at hand are the same, in worlds that are alike. -/
def StatesAlike (alike : World → World → Prop) (state state' : TokenState World) : Prop :=
  state.cached = state'.cached ∧ alike state.world state'.world

theorem outside_matches {α : Type} {action action' : Action World α}
    (first : action.Matches action' alike) :
    (outside action).Matches (outside action') (StatesAlike alike) :=
  first.within (fun _ _ holds => holds.2) fun _ _ holds _ _ worlds => ⟨holds.1, worlds⟩

theorem assertion_matches (blind : surroundings.IsBlind alike)
    (same : credential.shown = credential'.shown) :
    (assertion surroundings credential).Matches (assertion surroundings credential') alike := by
  obtain ⟨kind, _, _, _⟩ := credential
  obtain ⟨kind', _, _, _⟩ := credential'
  have kinds : kind.shown = kind'.shown := congrArg Credential.kind same
  cases kind <;> cases kind' <;> cases kinds
  case managedIdentity | clientSecret => exact Action.Matches.pure _
  case workloadIdentity _ _ path =>
    refine (Action.Matches.inspect (blind.readFile path)).bind fun text => ?_
    cases text with
    | ok text => exact Action.Matches.pure _
    | error reason => exact Action.Matches.ofExcept (.error _)

theorem fetch_matches (blind : surroundings.IsBlind alike)
    (same : credential.shown = credential'.shown) :
    (fetch surroundings credential).Matches (fetch surroundings credential') alike := by
  refine (assertion_matches blind same).bind fun text => ?_
  have requests : (credential.request? text).map Http.Request.shown =
      (credential'.request? text).map Http.Request.shown := by
    rw [request?_shown, same, ← request?_shown]
  refine (blind.ask requests).bind fun reply? => ?_
  have kinds : credential.kind.shown = credential'.kind.shown := congrArg Credential.kind same
  rw [← readReply_shown, kinds, readReply_shown]
  exact Action.Matches.ofExcept _

theorem usable?_matches (blind : surroundings.IsBlind alike) :
    (usable? surroundings).Matches (usable? surroundings) (StatesAlike alike) := by
  refine (Action.Matches.inspect fun _ _ holds => holds.1).bind fun cached? => ?_
  cases cached? with
  | none => exact Action.Matches.pure _
  | some cached =>
      refine (outside_matches (.inspect blind.now)).bind fun now => ?_
      exact (Action.Matches.ofExcept _).bind fun fresh => Action.Matches.pure _

theorem token_matches (blind : surroundings.IsBlind alike)
    (same : credential.shown = credential'.shown) :
    (token surroundings credential).Matches (token surroundings credential')
      (StatesAlike alike) := by
  refine (usable?_matches blind).bind fun usable? => ?_
  cases usable? with
  | some token => exact Action.Matches.pure _
  | none =>
      refine (outside_matches (fetch_matches blind same)).bind fun answer => ?_
      refine (outside_matches (.inspect blind.now)).bind fun now => ?_
      refine (Action.Matches.ofExcept _).bind fun expiresAt => ?_
      have keeps : (Action.modify fun state : TokenState World =>
          { state with cached := some ⟨answer.token, expiresAt⟩ }).Matches
          (Action.modify fun state => { state with cached := some ⟨answer.token, expiresAt⟩ })
          (StatesAlike alike) :=
        fun _ _ holds => .ok ⟨rfl, rfl, holds.2⟩
      exact keeps.bind fun _ => Action.Matches.pure _

end Credential

/-! ## Traffic -/

/-- Something that is sent: to the API server, or anywhere else. -/
inductive Sent where
  | kubernetes (request : ApiRequest)
  | http (request : Http.Request)

/-- What is sent, without the forms that are posted. -/
def Sent.shown : Sent → Sent
  | kubernetes request => kubernetes request
  | http request => http request.shown

/-- A world with a list of all that is sent in it. -/
abbrev Overheard (World : Type) : Type := World × List Sent

def ApiConnection.overheard (connection : ApiConnection World) :
    ApiConnection (Overheard World) where
  send request := (connection.send request).noting fun _ _ => .kubernetes request

def Surroundings.overheard (surroundings : Surroundings World) :
    Surroundings (Overheard World) where
  send request := (surroundings.send request).noting fun _ _ => .http request
  now heard := surroundings.now heard.1
  readFile path heard := surroundings.readFile path heard.1

/-- The worlds are alike, and apart from forms the same was sent in both. -/
def OverheardAlike (alike : World → World → Prop) (heard heard' : Overheard World) : Prop :=
  alike heard.1 heard'.1 ∧ heard.2.map Sent.shown = heard'.2.map Sent.shown

/-- What is sent next is noted down. -/
theorem OverheardAlike.after {alike : World → World → Prop} {heard heard' : Overheard World}
    (holds : OverheardAlike alike heard heard') {world world' : World} (worlds : alike world world')
    {sent sent' : Sent} (same : sent.shown = sent'.shown) :
    OverheardAlike alike (world, heard.2 ++ [sent]) (world', heard'.2 ++ [sent']) :=
  ⟨worlds, by simp only [List.map_append, holds.2, List.map_cons, List.map_nil, same]⟩

/-- Runs that agree still agree if what they send is noted down. -/
theorem Action.Matches.noting {α : Type} {action action' : Action World α}
    {alike : World → World → Prop} (first : action.Matches action' alike) {sent sent' : Sent}
    (same : sent.shown = sent'.shown) :
    (action.noting fun _ _ => sent).Matches (action'.noting fun _ _ => sent')
      (OverheardAlike alike) := by
  rw [iff_results] at first ⊢
  intro heard heard' holds
  obtain ⟨results, worlds⟩ := first _ _ holds.1
  exact ⟨results, holds.after worlds same⟩

theorem Surroundings.IsBlind.overheard {surroundings : Surroundings World}
    {alike : World → World → Prop} (blind : surroundings.IsBlind alike) :
    surroundings.overheard.IsBlind (OverheardAlike alike) where
  send request request' same := (blind.send request request' same).noting (congrArg Sent.http same)
  now _ _ holds := blind.now _ _ holds.1
  readFile path _ _ holds := blind.readFile path _ _ holds.1

end ClusterLinks
