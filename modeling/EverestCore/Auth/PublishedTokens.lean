import EverestCore.Auth.TokenThreads
import EverestCore.Machine.Runs

/-! The tokens that an EVSE manager publishes for the car at its connector, from the MAC
address or the EVCC id of the car, or from its contract, and the connectors to which the
authorization handler can give them. -/
namespace EverestCore.Auth
open EverestCore.Machine

/-- `trim_colons_from_string`. -/
def trimColonsFromString (text : String) : String :=
  String.ofList (text.toList.filter (· ≠ ':'))

/-- `create_autocharge_token`. The list is constructed with a length and a value. -/
def createAutochargeToken (token : String) (connectorId : ℤ) : ProvidedIdToken where
  type := .autocharge
  idToken := "VID:" ++ trimColonsFromString token
  connectors := some (List.replicate connectorId.toNat 1)

/-- The part of an EVSE manager that provides tokens. -/
structure TokenProvider where
  connectorId : ℤ
  autochargeUseSlacInsteadOfHlc : Bool
  slacEnabled : Bool
  hlcEnabled : Bool
  autochargeToken : ProvidedIdToken
  deriving DecidableEq, Repr

/-- What makes the manager keep or publish a token. -/
inductive TokenTrigger where
  | evMacAddress (token : String)
  | evccid (token : String)
  | requireAuthEim
  | requireAuthPnc (token : ProvidedIdToken)
  deriving DecidableEq, Repr

namespace TokenProvider

/-- The manager after its start. The token has no connectors, and nobody set its type. -/
def start (connectorId : ℤ) (useSlac slacEnabled hlcEnabled : Bool) (type : TokenType) :
    TokenProvider where
  connectorId := connectorId
  autochargeUseSlacInsteadOfHlc := useSlac
  slacEnabled := slacEnabled
  hlcEnabled := hlcEnabled
  autochargeToken := { idToken := "", type := type }

variable (provider : TokenProvider)

/-- What is published. The handlers of the HLC are there only if it is enabled. -/
def publish : TokenTrigger → Option ProvidedIdToken
  | .evMacAddress token =>
      if provider.autochargeUseSlacInsteadOfHlc && provider.slacEnabled then
        some (createAutochargeToken token provider.connectorId)
      else none
  | .evccid _ => none
  | .requireAuthEim => if provider.hlcEnabled then some provider.autochargeToken else none
  | .requireAuthPnc token =>
      if provider.hlcEnabled then some { token with connectors := some [provider.connectorId] }
      else none

/-- What is kept. -/
def step : TokenTrigger → TokenProvider
  | .evccid token =>
      if provider.hlcEnabled && !provider.autochargeUseSlacInsteadOfHlc then
        { provider with
          autochargeToken := createAutochargeToken token provider.connectorId }
      else provider
  | _ => provider

/-- Nothing but the token that is kept ever changes. -/
theorem run_eq (triggers : List TokenTrigger) :
    run step provider triggers =
      { provider with autochargeToken := (run step provider triggers).autochargeToken } := by
  induction triggers using List.reverseRecOn with
  | nil => rfl
  | append_singleton triggers trigger ih =>
      rw [run_snoc]
      generalize run step provider triggers = now at ih
      rw [ih]
      cases trigger with
      | evccid token =>
          dsimp only [step]
          split <;> rfl
      | evMacAddress | requireAuthEim | requireAuthPnc => rfl

/-- An EVCC id came in, and is looked at. -/
def TookEvccid (triggers : List TokenTrigger) : Prop :=
  provider.autochargeUseSlacInsteadOfHlc = false ∧ ∃ token, .evccid token ∈ triggers

/-- The token that is kept: that of the start as long as no EVCC id was taken, and one
for the connector afterwards. -/
theorem autochargeToken_run (hHlc : provider.hlcEnabled = true) (triggers : List TokenTrigger) :
    (provider.TookEvccid triggers ∧ ∃ token, (run step provider triggers).autochargeToken =
        createAutochargeToken token provider.connectorId) ∨
      ¬ provider.TookEvccid triggers ∧
        (run step provider triggers).autochargeToken = provider.autochargeToken := by
  induction triggers using List.reverseRecOn with
  | nil =>
      right
      simp [TookEvccid]
  | append_singleton triggers trigger ih =>
      rw [run_snoc, run_eq]
      generalize (run step provider triggers).autochargeToken = kept at ih
      cases trigger with
      | evccid token =>
          by_cases hUseSlac : provider.autochargeUseSlacInsteadOfHlc = false
          · left
            exact ⟨⟨hUseSlac, token, by simp⟩, token, by simp [step, hHlc, hUseSlac]⟩
          · right
            rcases ih with ⟨⟨hNot, -⟩, -⟩ | ⟨-, hKept⟩
            · exact absurd hNot hUseSlac
            · exact ⟨fun hTook => hUseSlac hTook.1, by simp [step, hUseSlac, hKept]⟩
      | evMacAddress | requireAuthEim | requireAuthPnc => simpa [step, TookEvccid] using ih

end TokenProvider

/-- A token that can authorize this connector only: its list names it and no other, all
connectors that it refers to are this one, and it is accepted at no other in any run of
the handler. -/
structure OnlyFor (connectorId : ℤ) (token : ProvidedIdToken) : Prop where
  names : ∃ connectors, token.connectors = some connectors ∧ connectorId ∈ connectors ∧
    ∀ connector ∈ connectors, connector = connectorId
  referenced : ∀ (handler : AuthHandler), ∀ connector ∈ handler.getReferencedConnectors token,
    connector = connectorId
  notified : ∀ (config : AuthConfig) (prioritize : Bool) (inputs : List AuthInput)
    (connector : ℤ) (context : ConnectorContext) (result : ValidationResult),
    .notifyEvse connector context token result ∈
      (run AuthModule.step (AuthModule.start config prioritize) inputs).shared.log →
    result.authorizationStatus = .accepted → connector = connectorId

/-- The connector is one of those that the token names, if it names any. -/
def ProvidedIdToken.Names (token : ProvidedIdToken) (connector : ℤ) : Prop :=
  ∀ connectors, token.connectors = some connectors → connector ∈ connectors

theorem AuthHandler.names_of_mem_referenced {handler : AuthHandler} {token : ProvidedIdToken}
    {connector : ℤ} (h : connector ∈ handler.getReferencedConnectors token) :
    token.Names connector := by
  intro connectors hConnectors
  simp only [getReferencedConnectors, hConnectors] at h
  exact List.mem_of_mem_filter h

theorem AuthHandler.mem_of_getLatestPlugin {handler : AuthHandler} {connectors : List ℤ}
    (h : handler.getLatestPlugin connectors ≠ -1) :
    handler.getLatestPlugin connectors ∈ connectors := by
  unfold getLatestPlugin at h ⊢
  cases hFound : handler.plugInQueue.find? fun connector => connectors.contains connector with
  | none =>
      rw [hFound] at h
      exact absurd rfl h
  | some connector => simpa using List.find?_some hFound

/-- A notification goes to a connector that its token names. -/
def AuthOutput.NotifiesNamed : AuthOutput → Prop
  | .notifyEvse connector _ token _ => token.Names connector
  | .stopTransaction _ _ _ _ | .withdrawAuthorization _ => True

namespace TokenThread

/-- The connector that is going to be notified. -/
def notifiedConnector (thread : TokenThread) : Option ℤ :=
  match thread.stage with
  | .notifying connector _ | .arming connector _ => some connector
  | _ => none

/-- The thread only looks at connectors that its token names. -/
structure Keeps (thread : TokenThread) : Prop where
  inner : ∀ connector ∈ thread.inner, thread.token.Names connector
  selected : ∀ connector, thread.stage = .selected connector → connector ≠ -1 →
    thread.token.Names connector
  notified : ∀ connector ∈ thread.notifiedConnector, thread.token.Names connector

variable {handler handler' : AuthHandler} {thread thread' : TokenThread}

theorem Step.keeps (h : Step handler thread handler' thread') (hKeeps : thread.Keeps) :
    thread'.Keeps := by
  cases h with
  | idle => exact hKeeps
  | stopsOwn | prevalidates | asks =>
      exact ⟨fun _ => AuthHandler.names_of_mem_referenced, nofun, nofun⟩
  | selectsFirst connector hStage hFirst =>
      refine ⟨hKeeps.inner, ?_, nofun⟩
      rintro _ ⟨⟩ _
      exact hKeeps.inner connector (List.mem_of_mem_head? hFirst)
  | picks hStage =>
      refine ⟨hKeeps.inner, ?_, nofun⟩
      rintro _ ⟨⟩ hFound
      exact hKeeps.inner _ (AuthHandler.mem_of_getLatestPlugin hFound)
  | timesOut =>
      refine ⟨hKeeps.inner, ?_, nofun⟩
      rintro _ ⟨⟩ hFound
      exact absurd rfl hFound
  | decides connector result results inner hStage hFound hResults hInner =>
      refine ⟨fun other hOther => hKeeps.inner other (hInner.mem_iff.mp hOther), nofun, ?_⟩
      rintro _ ⟨⟩
      exact hKeeps.selected connector hStage hFound
  | places connector result hStage =>
      refine ⟨hKeeps.inner, nofun, ?_⟩
      rintro _ ⟨⟩
      exact hKeeps.notified connector (by simp [notifiedConnector, hStage])
  | skips result results hStage =>
      refine ⟨hKeeps.inner, ?_, ?_⟩
      · simp [hStage]
      · simp [notifiedConnector, hStage]
  | _ => exact ⟨hKeeps.inner, nofun, nofun⟩

/-- A step of such a thread notifies a connector that its token names. -/
theorem Step.notifiesNamed (h : Step handler thread handler' thread') (hKeeps : thread.Keeps)
    (hLog : ∀ output ∈ handler.log, output.NotifiesNamed) :
    ∀ output ∈ handler'.log, output.NotifiesNamed := by
  have hNotify : ∀ connector context result,
      thread.stage = .notifying connector result ∨ thread.stage = .arming connector result →
      (AuthOutput.notifyEvse connector context thread.token result).NotifiesNamed := by
    intro connector context result hStage
    apply hKeeps.notified connector
    rcases hStage with hStage | hStage <;> simp [notifiedConnector, hStage]
  exact h.forall_log AuthOutput.NotifiesNamed (fun _ _ _ => trivial)
    (fun connector context result hStage _ => hNotify connector context result (.inl hStage))
    (fun connector context result hStage => hNotify connector context result (.inr hStage)) hLog

end TokenThread

namespace AuthModule

/-- In every run a token is given to connectors that it names only. -/
theorem run_notifiesNamed (config : AuthConfig) (prioritize : Bool) (inputs : List AuthInput) :
    ∀ output ∈ (run step (start config prioritize) inputs).shared.log, output.NotifiesNamed := by
  have hInvariant : (∀ thread ∈ (run step (start config prioritize) inputs).parties,
        thread.Keeps) ∧
      ∀ output ∈ (run step (start config prioritize) inputs).shared.log, output.NotifiesNamed := by
    apply run_invariant (fun s : AuthModule => (∀ thread ∈ s.parties, thread.Keeps) ∧
      ∀ output ∈ s.shared.log, output.NotifiesNamed)
    · constructor
      · intro thread hThread
        cases hThread
      · intro output hOutput
        cases hOutput
    · rintro s (token | ⟨i, move⟩ | event) ⟨hThreads, hLog⟩
      · refine ⟨Parties.forall_join hThreads ?_, hLog⟩
        exact ⟨by simp, by simp, by simp [TokenThread.notifiedConnector]⟩
      · constructor
        · apply Parties.forall_turn hThreads
          intro thread hThread
          exact (TokenThread.step_act s.shared thread move).keeps
            (hThreads thread (List.mem_of_getElem? hThread))
        · apply Parties.turn_invariant
            (fun s : AuthModule => ∀ output ∈ s.shared.log, output.NotifiesNamed) hLog
          intro thread hThread
          rw [Parties.shared_turn hThread]
          exact (TokenThread.step_act s.shared thread move).notifiesNamed
            (hThreads thread (List.mem_of_getElem? hThread)) hLog
      · exact ⟨hThreads, AuthHandler.handleEvent_forall_log event
          AuthOutput.NotifiesNamed (fun _ => trivial) hLog⟩
  exact hInvariant.2

end AuthModule

/-- A token that names this connector and no other can authorize no other. -/
theorem onlyFor_of_connectors {connectorId : ℤ} {token : ProvidedIdToken} {connectors : List ℤ}
    (hConnectors : token.connectors = some connectors) (hMem : connectorId ∈ connectors)
    (hOnly : ∀ connector ∈ connectors, connector = connectorId) : OnlyFor connectorId token := by
  refine ⟨⟨connectors, hConnectors, hMem, hOnly⟩, ?_, ?_⟩
  · intro handler connector hReferenced
    exact hOnly connector (AuthHandler.names_of_mem_referenced hReferenced connectors hConnectors)
  · intro config prioritize inputs connector context result hOutput _
    exact hOnly connector
      (AuthModule.run_notifiesNamed config prioritize inputs _ hOutput connectors hConnectors)

/-- The list of an autocharge token has the right length for its connector, and the
right entries only for connector 1. -/
theorem onlyFor_createAutochargeToken_iff {connectorId : ℤ} (hConnector : 1 ≤ connectorId)
    (token : String) :
    OnlyFor connectorId (createAutochargeToken token connectorId) ↔ connectorId = 1 := by
  constructor
  · intro hOnly
    obtain ⟨connectors, hConnectors, hMem, -⟩ := hOnly.names
    cases hConnectors
    exact List.eq_of_mem_replicate hMem
  · rintro rfl
    exact onlyFor_of_connectors rfl (List.mem_singleton_self 1) fun connector hMem =>
      List.mem_singleton.mp hMem

theorem not_onlyFor_of_connectors_none (connectorId : ℤ) {token : ProvidedIdToken}
    (hNone : token.connectors = none) : ¬ OnlyFor connectorId token := by
  intro hOnly
  obtain ⟨connectors, hConnectors, -⟩ := hOnly.names
  rw [hNone] at hConnectors
  cases hConnectors

/-- A published token can authorize the connector of its manager only, exactly if it is
the one of a contract, or if the connector is the first one and the token was made from
the car's MAC address or EVCC id. -/
theorem published_token_onlyFor_iff (connectorId : ℤ) (hConnector : 1 ≤ connectorId)
    (useSlac slacEnabled hlcEnabled : Bool) (type : TokenType) (triggers : List TokenTrigger)
    (trigger : TokenTrigger) (token : ProvidedIdToken)
    (hPublished : (run TokenProvider.step
      (TokenProvider.start connectorId useSlac slacEnabled hlcEnabled type) triggers).publish
        trigger = some token) :
    OnlyFor connectorId token ↔
      (∃ contract, trigger = .requireAuthPnc contract) ∨
      connectorId = 1 ∧ ((∃ mac, trigger = .evMacAddress mac) ∨
        useSlac = false ∧ ∃ evccid, .evccid evccid ∈ triggers) := by
  rw [TokenProvider.run_eq] at hPublished
  cases trigger with
  | evMacAddress mac =>
      simp only [TokenProvider.publish, Option.ite_none_right_eq_some, Option.some.injEq]
        at hPublished
      rw [← hPublished.2]
      simpa [TokenProvider.start] using onlyFor_createAutochargeToken_iff hConnector mac
  | evccid evccid => cases hPublished
  | requireAuthEim =>
      simp only [TokenProvider.publish, Option.ite_none_right_eq_some, Option.some.injEq]
        at hPublished
      obtain ⟨hHlc, rfl⟩ := hPublished
      rcases TokenProvider.autochargeToken_run _ hHlc triggers with
        ⟨hTook, evccid, hToken⟩ | ⟨hNot, hToken⟩
      · rw [hToken]
        have hTaken : useSlac = false ∧ ∃ evccid, .evccid evccid ∈ triggers := hTook
        simpa [hTaken, TokenProvider.start] using onlyFor_createAutochargeToken_iff hConnector evccid
      · rw [hToken]
        have hUntaken : ¬ (useSlac = false ∧ ∃ evccid, .evccid evccid ∈ triggers) := hNot
        refine iff_of_false (not_onlyFor_of_connectors_none connectorId rfl) ?_
        rintro (⟨_, ⟨⟩⟩ | ⟨-, ⟨_, ⟨⟩⟩ | hTaken⟩)
        exact hUntaken hTaken
  | requireAuthPnc contract =>
      simp only [TokenProvider.publish, Option.ite_none_right_eq_some, Option.some.injEq]
        at hPublished
      rw [← hPublished.2]
      refine iff_of_true ?_ (.inl ⟨contract, rfl⟩)
      exact onlyFor_of_connectors rfl (List.mem_singleton_self _) fun connector hMem =>
        List.mem_singleton.mp hMem

/-- The token of a contract at the second connector. -/
theorem published_token_onlyFor_contract :
    OnlyFor 2 { idToken := "DE-CONTRACT", type := .plugAndCharge, connectors := some [2] } :=
  (published_token_onlyFor_iff 2 (by decide) false true true .rfid []
    (.requireAuthPnc { idToken := "DE-CONTRACT", type := .plugAndCharge }) _ rfl).mpr
    (.inl ⟨_, rfl⟩)

/-- The car at the second connector is identified by its MAC address, and the token that
is published for it is accepted at the first one. -/
theorem autocharge_token_accepted_elsewhere :
    ∃ token, (TokenProvider.start 2 true true true .rfid).publish
        (.evMacAddress "00:11:22:33:44:55") = some token ∧
      (∃ context, .notifyEvse 1 context token { authorizationStatus := .accepted } ∈
        (run AuthModule.step
          (AuthModule.start { AuthConfig.twoConnectors with selectionAlgorithm := .userInput } false)
          (AuthModule.handleToken 0 token [{ authorizationStatus := .accepted }] 8)).shared.log) ∧
      ¬ OnlyFor 2 token := by
  refine ⟨_, rfl, ?_, ?_⟩
  · let identifier : Identifier :=
      { idToken := "VID:001122334455", type := .autocharge, authorizationStatus := some .accepted }
    refine ⟨{ identifier := some identifier, timeoutTimer := some .authorization }, ?_⟩
    decide
  · intro hOnly
    exact absurd ((onlyFor_createAutochargeToken_iff (by decide) _).mp hOnly) (by decide)

end EverestCore.Auth
