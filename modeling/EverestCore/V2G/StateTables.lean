import EverestCore.V2G.Authorization
import EverestCore.V2G.FailedResponses

/-! The lookups in the two tables of the ISO 15118-2 server. One number is the index
into both, most handlers write the number of the DC state, and the table is chosen by a
flag that a command can change at any time. -/
namespace EverestCore.V2G
open Machine

/-- An access to one of the two tables. -/
structure Lookup where
  isDcCharger : Bool
  index : ℕ
  deriving DecidableEq, Repr

def Lookup.InBounds (lookup : Lookup) : Prop :=
  lookup.index < (isoStates lookup.isDcCharger).length

instance (lookup : Lookup) : Decidable lookup.InBounds := inferInstanceAs (Decidable (_ < _))

/-- The handler of the body calls `iso_validate_state`. -/
def V2gContext.isoChecks (around : Surroundings) (ctx : V2gContext) : IsoBody → Bool
  | .certificateUpdate | .notFound => false
  | .certificateInstallation =>
      !ctx.isConnectionTerminated && !(around.allocates && ctx.certInstallRes = some true)
  | _ => !ctx.isConnectionTerminated

/-- The accesses of `iso_handle_request`: the check, with the state in which the request
arrived, and the log of the state at the end. No handler changes the kind of charging
after its check. -/
def Exchange.lookups : Exchange → List Lookup
  | ⟨.iso request, around, before, handling⟩ =>
      if request.v2gMessageIsUsed then
        (if before.isoChecks around request.body then [⟨handling.ctx.isDcCharger, before.state⟩]
          else []) ++
          [⟨handling.ctx.isDcCharger, handling.ctx.state⟩]
      else []
  | ⟨.din _, _, _, _⟩ => []

def Entry.looksInBounds : Entry → Prop
  | .exchanged exchange => ∀ lookup ∈ exchange.lookups, lookup.InBounds
  | _ => True

instance (entry : Entry) : Decidable entry.looksInBounds :=
  match entry with
  | .exchanged _ => inferInstanceAs (Decidable (∀ lookup ∈ _, _))
  | .connected | .refused _ | .commanded _ | .closed _ _ => inferInstanceAs (Decidable True)

/-- The messages that lead to a state which only the DC table has. -/
def IsoBody.leavesAcTable : IsoBody → Bool
  | .weldingDetection | .sessionStop _ => true
  | _ => false

/-- The charger is a DC charger when the request is checked, or the request finds a state
that both tables have and leads to one. -/
def Exchange.keepsTable (exchange : Exchange) : Prop :=
  match exchange.request with
  | .iso request => request.v2gMessageIsUsed = true →
      (exchange.before.commands exchange.meanwhile).isDcCharger = true ∨
        (exchange.before.state < isoAcStates.length ∧ request.body.leavesAcTable = false)
  | .din _ => True

namespace V2gContext

variable {around : Surroundings} {ctx : V2gContext}

/-- Only a command of the EVSE changes the kind of the charger. -/
theorem handleIsoCertificateInstallation_isDcCharger (around : Surroundings) (ctx : V2gContext) :
    ((ctx.withMsg .certificateInstallation).handleIsoCertificateInstallation around).ctx.isDcCharger =
      (ctx.commands (if around.allocates then around.meanwhile else [])).isDcCharger := by
  have hAwaited : ((ctx.withMsg .certificateInstallation).awaitCertificate
      around.meanwhile).isDcCharger = (ctx.commands around.meanwhile).isDcCharger := by
    rw [← commands_isDcCharger (ctx.withMsg .certificateInstallation) ctx rfl]
    unfold awaitCertificate
    dsimp only
    split <;> rfl
  unfold handleIsoCertificateInstallation
  dsimp only
  cases around.allocates with
  | false => rfl
  | true =>
      rw [if_neg (by decide), if_pos rfl, ← hAwaited]
      split <;> rfl

/-- The commands that arrive meanwhile are all that changes the kind of charging. -/
theorem isoDispatch_isDcCharger (isTlsConnection : Bool) (body : IsoBody) :
    (ctx.isoDispatch around isTlsConnection body).ctx.isDcCharger =
      match body with
      | .powerDelivery _ _ => (ctx.commands around.meanwhile).isDcCharger
      | .certificateInstallation =>
          (ctx.commands (if around.allocates then around.meanwhile else [])).isDcCharger
      | _ => ctx.isDcCharger := by
  cases body with
  | currentDemand voltage current =>
      rw [isoDispatch, Handling.after_ctx]
      show (publishTargets _ _ _).1.isDcCharger = _
      rw [publishTargets_isDcCharger]
      show (if _ then _ else _ : V2gContext).isDcCharger = _
      split <;> rfl
  | sessionSetup evccid =>
      show (ensureSessionId _ _).isDcCharger = _
      unfold ensureSessionId
      split <;> rfl
  | serviceDiscovery =>
      show (withholdContract _ _).isDcCharger = _
      unfold withholdContract
      split <;> rfl
  | paymentServiceSelection option services => cases option <;> rfl
  | paymentDetails check =>
      show (checkContract _ _).1.isDcCharger = _
      unfold checkContract
      dsimp only
      split
      · rfl
      · split <;> rfl
  | powerDelivery progress tupleId =>
      obtain ⟨hChecked, -, -, -⟩ := handleIsoPowerDelivery_checked around
        (ctx.withMsg .powerDelivery) progress tupleId
      rw [isoDispatch, hChecked.watch.isDcCharger, duringDelivery_isDcCharger]
      exact commands_isDcCharger (ctx.withMsg .powerDelivery) ctx rfl around.meanwhile
  | certificateInstallation => exact handleIsoCertificateInstallation_isDcCharger around ctx
  | preCharge voltage current => exact publishTargets_isDcCharger _ voltage current
  | _ => rfl

/-- A state of both tables is within each of them. -/
theorem inBothTables {body : IsoBody} {next : ℕ} (kind : Prop) (hNext : next < isoAcStates.length)
    (hBody : body.leavesAcTable = false) :
    next < isoDcStates.length ∧
      (kind → (next < isoAcStates.length ↔ body.leavesAcTable = false)) :=
  ⟨hNext.trans (by decide), fun _ => iff_of_true hNext hBody⟩

/-- A state of the DC table alone is outside of the other one. -/
theorem inDcTable {body : IsoBody} {next : ℕ} (kind : Prop)
    (hNext : next < isoDcStates.length ∧ ¬ next < isoAcStates.length)
    (hBody : body.leavesAcTable = true) :
    next < isoDcStates.length ∧
      (kind → (next < isoAcStates.length ↔ body.leavesAcTable = false)) := by
  refine ⟨hNext.1, fun _ => iff_of_false hNext.2 ?_⟩
  rw [hBody]
  decide

/-- Every state that a request leads to is one of the DC table. Of the AC table it is
one as well, with the exception of two messages, as long as the charger is one of AC. -/
theorem isoNext_lt {body : IsoBody} {next : ℕ} (isTlsConnection : Bool)
    (hNext : ctx.isoNext around body = some next) :
    next < isoDcStates.length ∧
      ((ctx.isoDispatch around isTlsConnection body).ctx.isDcCharger = false →
        (next < isoAcStates.length ↔ body.leavesAcTable = false)) := by
  cases body with
  | powerDelivery progress tupleId =>
      rw [isoDispatch_isDcCharger]
      cases hNext
      dsimp only
      cases (ctx.commands around.meanwhile).isDcCharger with
      | true =>
          refine ⟨?_, fun h => by cases h⟩
          split
          · decide
          · split <;> decide
      | false =>
          refine inBothTables _ ?_ rfl
          split
          · decide
          · split <;> decide
  | paymentServiceSelection option services =>
      cases option with
      | contract =>
          cases hNext
          exact inBothTables _ (by decide) rfl
      | externalPayment =>
          cases hNext
          exact inBothTables _ (by decide) rfl
  | currentDemand voltage current =>
      cases hNext
      refine inBothTables _ ?_ rfl
      split <;> decide
  | authorization req =>
      cases hNext
      refine inBothTables _ ?_ rfl
      split <;> decide
  | chargeParameterDiscovery requestedMode acParameterIsUsed dcParameterIsUsed =>
      cases hNext
      refine inBothTables _ ?_ rfl
      split
      · split <;> decide
      · decide
  | chargingStatus =>
      cases hNext
      refine inBothTables _ ?_ rfl
      split <;> decide
  | meteringReceipt =>
      cases hNext
      refine inBothTables _ ?_ rfl
      split <;> decide
  | cableCheck =>
      cases hNext
      refine inBothTables _ ?_ rfl
      split <;> decide
  | weldingDetection =>
      cases hNext
      exact inDcTable _ (by decide) rfl
  | sessionStop chargingSession =>
      cases hNext
      exact inDcTable _ (by decide) rfl
  | certificateUpdate => cases hNext
  | notFound => cases hNext
  | _ =>
      cases hNext
      exact inBothTables _ (by decide) rfl

/-- The state after a request, beside the two ends of the tables. -/
theorem isoDispatch_state_lt (around : Surroundings) (ctx : V2gContext) (isTlsConnection : Bool)
    (body : IsoBody) (hState : ctx.state < isoDcStates.length) :
    (ctx.isoDispatch around isTlsConnection body).ctx.state < isoDcStates.length ∧
      ((ctx.isoDispatch around isTlsConnection body).ctx.isDcCharger = false →
        ctx.state < isoAcStates.length →
        ((ctx.isoDispatch around isTlsConnection body).ctx.state < isoAcStates.length ↔
          body.leavesAcTable = false)) := by
  cases hNext : ctx.isoNext around body with
  | none =>
      rw [(isoDispatch_of_isoNext_eq_none hNext).1]
      refine ⟨hState, fun _ hAc => iff_of_true hAc ?_⟩
      cases body with
      | weldingDetection => cases hNext
      | sessionStop chargingSession => cases hNext
      | _ => rfl
  | some next =>
      rw [isoDispatch_next around ctx isTlsConnection hNext]
      obtain ⟨hDc, hAc⟩ := isoNext_lt isTlsConnection hNext
      exact ⟨hDc, fun hKind _ => hAc hKind⟩

end V2gContext

section Exchange

variable (around : Surroundings) (isTlsConnection : Bool) (request : IsoRequest) (ctx : V2gContext)

/-- The kind of charging at the end of a request is the one at its check. -/
theorem isoHandleRequest_isDcCharger (hUsed : request.v2gMessageIsUsed = true)
    (handling : Handling) :
    (isoHandleRequest around isTlsConnection request ctx).ctx.isDcCharger =
      (ctx.commands (Exchange.meanwhile ⟨.iso request, around, ctx, handling⟩)).isDcCharger := by
  rw [isoHandleRequest_used around isTlsConnection ctx hUsed, Handling.noteLastMsg_ctx]
  dsimp only
  rw [V2gContext.isoDispatch_isDcCharger]
  obtain ⟨used, sessionId, body⟩ := request
  cases hUsed
  have hReceived := V2gContext.commands_isDcCharger { ctx with
    receivedSessionId := v2gSessionIdFromExi sessionId } ctx rfl
  cases body with
  | powerDelivery progress tupleId => exact hReceived around.meanwhile
  | certificateInstallation =>
      exact hReceived (if around.allocates then around.meanwhile else [])
  | _ => rfl

variable {ctx}

/-- After any request the state is within the longer table, and within the shorter one unless the
request is one of those that leave it. -/
theorem isoHandleRequest_state_lt (hState : ctx.state < isoDcStates.length) :
    (isoHandleRequest around isTlsConnection request ctx).ctx.state < isoDcStates.length ∧
      ((isoHandleRequest around isTlsConnection request ctx).ctx.isDcCharger = false →
        request.v2gMessageIsUsed = true → ctx.state < isoAcStates.length →
        ((isoHandleRequest around isTlsConnection request ctx).ctx.state < isoAcStates.length ↔
          request.body.leavesAcTable = false)) := by
  cases hUsed : request.v2gMessageIsUsed with
  | false =>
      rw [isoHandleRequest_unused around isTlsConnection ctx hUsed]
      exact ⟨hState, fun _ h => by cases h⟩
  | true =>
      rw [isoHandleRequest_used around isTlsConnection ctx hUsed, Handling.noteLastMsg_ctx]
      obtain ⟨hDc, hAc⟩ := V2gContext.isoDispatch_state_lt around { ctx with
        receivedSessionId := v2gSessionIdFromExi request.sessionId } isTlsConnection request.body hState
      exact ⟨hDc, fun hKind _ => hAc hKind⟩

/-- A request that is not checked leaves the state as it is. -/
theorem isoHandleRequest_state_of_unchecked (hOpen : ctx.isConnectionTerminated = false)
    (hCertificate : ctx.certInstallRes = none)
    (hChecks : ctx.isoChecks around request.body = false) :
    (isoHandleRequest around isTlsConnection request ctx).ctx.state = ctx.state := by
  cases hUsed : request.v2gMessageIsUsed with
  | false => rw [isoHandleRequest_unused around isTlsConnection ctx hUsed]
  | true =>
      rw [isoHandleRequest_used around isTlsConnection ctx hUsed, Handling.noteLastMsg_ctx]
      dsimp only
      generalize request.body = body at hChecks
      cases body with
      | certificateUpdate => rfl
      | notFound => rfl
      | certificateInstallation => simp [V2gContext.isoChecks, hOpen, hCertificate] at hChecks
      | _ => simp [V2gContext.isoChecks, hOpen] at hChecks

/-- The accesses of a request stay inside of the tables exactly if it keeps to its table. -/
theorem isoHandleRequest_looksInBounds_iff (hOpen : ctx.isConnectionTerminated = false)
    (hCertificate : ctx.certInstallRes = none) (hState : ctx.state < isoDcStates.length)
    {exchange : Exchange} (hExchange : exchange = ⟨.iso request, around, ctx,
      isoHandleRequest around isTlsConnection request ctx⟩) :
    (∀ lookup ∈ exchange.lookups, lookup.InBounds) ↔ exchange.keepsTable := by
  subst hExchange
  cases hUsed : request.v2gMessageIsUsed with
  | false => simp [Exchange.lookups, Exchange.keepsTable, hUsed]
  | true =>
      have hKind := isoHandleRequest_isDcCharger around isTlsConnection request ctx hUsed
        (isoHandleRequest around isTlsConnection request ctx)
      obtain ⟨hAfterDc, hAfterAc⟩ := isoHandleRequest_state_lt around isTlsConnection request hState
      have hUnchecked := isoHandleRequest_state_of_unchecked around isTlsConnection request hOpen
        hCertificate
      have hLookups : (∀ lookup ∈ Exchange.lookups ⟨.iso request, around, ctx,
          isoHandleRequest around isTlsConnection request ctx⟩, lookup.InBounds) ↔
          (ctx.isoChecks around request.body = true → ctx.state < (isoStates
            (isoHandleRequest around isTlsConnection request ctx).ctx.isDcCharger).length) ∧
          (isoHandleRequest around isTlsConnection request ctx).ctx.state < (isoStates
            (isoHandleRequest around isTlsConnection request ctx).ctx.isDcCharger).length := by
        rw [Exchange.lookups, if_pos hUsed]
        cases ctx.isoChecks around request.body <;> simp [Lookup.InBounds]
      have hKeeps : Exchange.keepsTable ⟨.iso request, around, ctx,
          isoHandleRequest around isTlsConnection request ctx⟩ ↔
          (isoHandleRequest around isTlsConnection request ctx).ctx.isDcCharger = true ∨
            (ctx.state < isoAcStates.length ∧ request.body.leavesAcTable = false) := by
        rw [hKind]
        exact ⟨fun h => h hUsed, fun h _ => h⟩
      rw [hLookups, hKeeps]
      cases hDc : (isoHandleRequest around isTlsConnection request ctx).ctx.isDcCharger with
      | true => exact iff_of_true ⟨fun _ => hState, hAfterDc⟩ (Or.inl rfl)
      | false =>
          rw [hDc] at hAfterAc
          by_cases hBefore : ctx.state < isoAcStates.length
          · simp [isoStates, hBefore, hAfterAc rfl hUsed hBefore]
          · refine iff_of_false ?_ (by simp [hBefore])
            rintro ⟨hCheck, hAfter⟩
            cases hChecks : ctx.isoChecks around request.body with
            | true => exact hBefore (hCheck hChecks)
            | false =>
                rw [hUnchecked hChecks] at hAfter
                exact hBefore hAfter

end Exchange

/-- The states of DIN 70121 are within the tables. -/
theorem DinStateId.id_lt (state : DinStateId) : state.id < isoDcStates.length := by
  cases state <;> decide

/-- A request of DIN 70121 keeps the state within the tables. -/
theorem dinHandleRequest_state_lt (around : Surroundings) (request : DinRequest) {ctx : V2gContext}
    (hState : ctx.state < isoDcStates.length) :
    (dinHandleRequest around request ctx).ctx.state < isoDcStates.length := by
  by_cases hIgnored : request.v2gMessageIsUsed = false ∨ request.body.msg = none
  · rw [(dinHandleRequest_ignored around ctx hIgnored).2.2.1]
    exact hState
  · rw [not_or, Bool.not_eq_false] at hIgnored
    obtain ⟨msg, hMsg⟩ := Option.ne_none_iff_exists'.mp hIgnored.2
    obtain ⟨next, hNext, -⟩ := V2gContext.dinNext_of_msg ctx hMsg
    rw [dinHandleRequest_state around hIgnored.1 hNext]
    exact next.id_lt

/-- The request found a state of the DC table. -/
def Entry.startsInRange : Entry → Prop
  | .exchanged exchange => exchange.before.state < isoDcStates.length
  | _ => True

def Entry.keepsTable : Entry → Prop
  | .exchanged exchange => exchange.keepsTable
  | _ => True

namespace Server

/-- The state is one of the DC table, now and at every request so far. -/
structure InRange (s : Server) : Prop where
  state : s.ctx.state < isoDcStates.length
  history : EachAfter (fun _ entry => entry.startsInRange) s.history

/-- An entry in the history keeps the range if it started in it. -/
theorem InRange.note {s : Server} {ctx : V2gContext} {stage : Stage} {isTlsConnection : Bool}
    {entry : Entry} (h : s.InRange) (hState : ctx.state < isoDcStates.length)
    (hEntry : entry.startsInRange) :
    InRange ⟨ctx, stage, isTlsConnection, s.history ++ [entry]⟩ :=
  ⟨hState, eachAfter_snoc.mpr ⟨h.history, hEntry⟩⟩

/-- The step lemma, for the state and the histories. -/
theorem step_inRange (s : Server) (input : Input) (h : s.InRange) : (s.step input).InRange := by
  have hZero : 0 < isoDcStates.length := by decide
  have hEffect := step_effect s input
  generalize s.step input = next at hEffect ⊢
  cases hEffect with
  | unchanged => exact h
  | refused hStage => exact h.note hZero trivial
  | opened hStage hState isTls => exact h.note hZero trivial
  | openedInVain hStage hState isTls =>
      have hOpened : (s.opened isTls).InRange := h.note hZero trivial
      exact hOpened.note hZero trivial
  | agreed hStage protocol => exact ⟨h.state, h.history⟩
  | disagreed hStage protocol => exact h.note hZero trivial
  | left hStage => exact h.note hZero trivial
  | exchanged request around delivered hStage hInput =>
      have hAnswered : (s.answer request around).InRange := by
        refine h.note ?_ h.state
        cases request with
        | din request => exact dinHandleRequest_state_lt around request h.state
        | iso request => exact (isoHandleRequest_state_lt around _ request h.state).1
      unfold exchange
      dsimp only
      split
      · exact hAnswered
      · exact hAnswered.note hZero trivial
  | commanded command hInput =>
      refine h.note ?_ trivial
      rw [(V2gContext.command_sameCourse s.ctx command).state]
      exact h.state

/-- In every run, the accesses of a request stay inside of the tables exactly if it keeps
to its table. -/
theorem lookups_inBounds_iff (config : Config) (inputs : List Input) :
    EachAfter (fun _ entry => entry.looksInBounds ↔ entry.keepsTable)
      (run step (start config) inputs).history := by
  have hZero : 0 < isoDcStates.length := by decide
  have hStart : (start config).InRange := ⟨hZero, eachAfter_nil _⟩
  have hRange := (run_invariant InRange hStart step_inRange inputs).history
  have hExchanges : EachAfter
      (fun _ entry => entry.startsInRange → (entry.looksInBounds ↔ entry.keepsTable))
      (run step (start config) inputs).history := by
    refine run_eachExchange config inputs ?_ ?_
    · intro request around isTlsConnection before hOpen hCertificate _ hState
      cases request with
      | din request => exact iff_of_true (fun _ h => absurd h List.not_mem_nil) trivial
      | iso request =>
          exact isoHandleRequest_looksInBounds_iff around isTlsConnection request hOpen hCertificate
            hState rfl
    · intro entry hOther _
      cases entry with
      | exchanged exchange => exact absurd rfl (hOther exchange)
      | _ => exact iff_of_true trivial trivial
  exact fun before entry hBefore => hExchanges before entry hBefore (hRange before entry hBefore)

/-- A car stops its session with an AC charger. -/
theorem lookup_behind_ac_table :
    ¬ EachAfter (fun _ entry => entry.looksInBounds)
      (run step (start strictConfig)
        (.command (.setSupportedEnergyTransferMode [.acThreePhaseCore]) ::
          openConnection .iso15118_2013 ++
          [isoInput (.sessionSetup []), isoInput (.sessionStop .terminate)])).history := by
  decide

end Server

end EverestCore.V2G
