import Mathlib.Data.BitVec
import Mathlib.Data.List.Lookmap

/-! The matching of the SLAC module: the sessions of the cars, what the messages of the
cars do to them, and what a timeout does. Time is counted in nanoseconds, and does not
pass while one event is handled. -/
namespace EverestCore.Slac

abbrev MacAddress := BitVec 48

abbrev RunId := BitVec 64

/-- The constants of the SLAC library that the module uses. -/
structure SlacDefs where
  aagListLen : ℕ
  cmSlacParmCnfNumSounds : ℕ
  cEvMatchRetry : ℕ
  ttEvseSlacInitMs : ℤ
  ttMatchSequenceMs : ℤ
  ttEvseMatchMnbcMs : ℤ
  ttMatchResponseMs : ℤ
  ttEvseMatchSessionMs : ℤ
  deriving DecidableEq, Repr

/-- The constants of the standard. -/
def SlacDefs.standard : SlacDefs where
  aagListLen := 58
  cmSlacParmCnfNumSounds := 10
  cEvMatchRetry := 2
  ttEvseSlacInitMs := 40000
  ttMatchSequenceMs := 400
  ttEvseMatchMnbcMs := 600
  ttMatchResponseMs := 200
  ttEvseMatchSessionMs := 10000

inductive MatchingSubState where
  | waitForStartAttenChar
  | sounding
  | waitForAttenCharRsp
  | waitForSlacMatch
  | receivedSlacMatch
  | matchComplete
  | failed
  deriving DecidableEq, Repr

/-- `MatchingSession`. -/
structure MatchingSession where
  state : MatchingSubState := .waitForStartAttenChar
  evMac : MacAddress
  runId : RunId
  nextTimeout : ℤ := 0
  timeoutActive : Bool := false
  capturedSounds : ℕ := 0
  capturedAags : List ℕ
  receivedMnbcSound : Bool := false
  deriving DecidableEq, Repr

/-- `cm_slac_match_req`. -/
structure CmSlacMatchReq where
  pevId : ℕ := 0
  pevMac : MacAddress := 0
  evseId : ℕ := 0
  evseMac : MacAddress := 0
  runId : RunId
  deriving DecidableEq, Repr

/-- A message that is received, with the fields of it that are read. -/
inductive ReceivedMessage where
  | cmSlacParmReq (runId : RunId)
  | cmStartAttenCharInd (runId : RunId)
  | cmMnbcSoundInd (runId : RunId)
  | cmAttenProfileInd (pevMac : MacAddress) (numGroups : ℕ) (aag : List ℕ)
  | cmAttenCharRsp (runId : RunId)
  | cmSlacMatchReq (request : CmSlacMatchReq)
  | cmValidateReq
  | cmSetKeyCnf
  | other (mmtype : ℕ)
  deriving DecidableEq, Repr

/-- A message that is sent, without the fields that are the same in all of its kind. A
network key is known by the number of the call that generated it; the network id is
computed from the key. -/
inductive SentMessage where
  | cmSlacParmCnf (forwardingSta : MacAddress) (runId : RunId)
  | cmAttenCharInd (sourceAddress : MacAddress) (runId : RunId) (numSounds : ℕ) (aag : List ℕ)
  | cmSlacMatchCnf (request : CmSlacMatchReq) (nmk : ℕ)
  | cmValidateCnf
  | cmSetKeyReq (newKey : ℕ)
  deriving DecidableEq, Repr

inductive SlacStateName where
  | reset
  | idle
  | matching
  | matched
  | failed
  deriving DecidableEq, Repr

/-- What the module does to its surroundings. Of the log, the states that are entered
and the timeouts of the sessions are kept. -/
inductive SlacOutput where
  | send (destination : MacAddress) (message : SentMessage)
  | signalCmSlacParmReq (mac : MacAddress)
  | signalCmSlacMatchCnf (mac : MacAddress)
  | signalState (state : String)
  | signalDlinkReady (value : Bool)
  | signalErrorRoutineRequest
  | entered (name : SlacStateName)
  | timedOut (evMac : MacAddress) (runId : RunId) (state : MatchingSubState)
  deriving DecidableEq, Repr

/-- `MatchingState`. -/
structure MatchingState where
  sessions : List MatchingSession := []
  timeoutSlacParmReq : ℤ
  seenSlacParmReq : Bool := false
  numRetries : ℕ := 0
  deriving DecidableEq, Repr

/-- `std::chrono::milliseconds`. -/
def milliseconds (ms : ℤ) : ℤ := ms * 1000000

/-- `remaining_milliseconds`. The cast rounds towards zero. -/
def remainingMilliseconds (timeout now : ℤ) : ℤ := (timeout - now).tdiv 1000000

namespace MatchingSession

def setNextTimeout (now delayMs : ℤ) (session : MatchingSession) : MatchingSession :=
  { session with nextTimeout := now + milliseconds delayMs, timeoutActive := true }

def ackTimeout (session : MatchingSession) : MatchingSession :=
  { session with timeoutActive := false }

def isIdentifiedBy (evMac : MacAddress) (runId : RunId) (session : MatchingSession) : Bool :=
  session.runId == runId && session.evMac == evMac

/-- `create_cm_atten_char_ind`. Without any sounds the groups are filled with ones. -/
def createCmAttenCharInd (defs : SlacDefs) (session : MatchingSession) : SentMessage :=
  .cmAttenCharInd session.evMac session.runId session.capturedSounds
    (if session.capturedSounds ≠ 0 then session.capturedAags.map (· / session.capturedSounds)
      else List.replicate defs.aagListLen 1)

/-- `MatchingState::finalize_sounding`, with what it sends. -/
def finalizeSounding (defs : SlacDefs) (now : ℤ) (session : MatchingSession) :
    MatchingSession × List SlacOutput :=
  ({ session with state := .waitForAttenCharRsp }.setNextTimeout now defs.ttMatchResponseMs,
    [.send session.evMac (session.createCmAttenCharInd defs)])

/-- The timeout of a session is over: what the callback does to it. -/
def handleTimeout (defs : SlacDefs) (now : ℤ) (session : MatchingSession) :
    MatchingSession × List SlacOutput :=
  let acked := session.ackTimeout
  match session.state with
  | .waitForStartAttenChar | .waitForAttenCharRsp | .waitForSlacMatch =>
      ({ acked with state := .failed }, [.timedOut session.evMac session.runId session.state])
  | .sounding =>
      let (finalized, sent) := acked.finalizeSounding defs now
      (finalized, .timedOut session.evMac session.runId session.state :: sent)
  | .receivedSlacMatch | .matchComplete | .failed => (acked, [])

end MatchingSession

namespace MatchingState

variable (defs : SlacDefs) (matching : MatchingState)

/-- `MatchingState::enter`, for its data. -/
def enter (now : ℤ) : MatchingState where
  timeoutSlacParmReq := now + milliseconds defs.ttEvseSlacInitMs

/-- `find_session`. -/
def findSession (evMac : MacAddress) (runId : RunId) : Option MatchingSession :=
  matching.sessions.find? (·.isIdentifiedBy evMac runId)

/-- Replaces the session that `find_session` finds. -/
def replaceSession (evMac : MacAddress) (runId : RunId) (session : MatchingSession) :
    MatchingState :=
  { matching with
    sessions := matching.sessions.lookmap fun other =>
      if other.isIdentifiedBy evMac runId then some session else none }

def handleCmSlacParmReq (now : ℤ) (evMac : MacAddress) (runId : RunId) :
    MatchingState × List SlacOutput :=
  let matching := { matching with seenSlacParmReq := true }
  let session : MatchingSession :=
    { evMac := evMac, runId := runId, capturedAags := List.replicate defs.aagListLen 0 }
  let session := session.setNextTimeout now defs.ttMatchSequenceMs
  let outputs := [.send session.evMac (.cmSlacParmCnf session.evMac session.runId),
    .signalCmSlacParmReq evMac]
  match matching.findSession evMac runId with
  | some _ => (matching.replaceSession evMac runId session, outputs)
  | none => ({ matching with sessions := matching.sessions ++ [session] }, outputs)

/-- The handlers of messages that belong to one session and are expected in one state of
it. In all other cases the message is ignored. -/
def handleInState (evMac : MacAddress) (runId : RunId) (expected : MatchingSubState)
    (handle : MatchingSession → MatchingSession × List SlacOutput) :
    MatchingState × List SlacOutput :=
  match matching.findSession evMac runId with
  | none => (matching, [])
  | some session =>
      if session.state ≠ expected then (matching, [])
      else (matching.replaceSession evMac runId (handle session).1, (handle session).2)

def handleCmStartAttenCharInd (now : ℤ) (evMac : MacAddress) (runId : RunId) :
    MatchingState × List SlacOutput :=
  matching.handleInState evMac runId .waitForStartAttenChar fun session =>
    ({ session with state := .sounding }.setNextTimeout now defs.ttEvseMatchMnbcMs, [])

def handleCmMnbcSoundInd (evMac : MacAddress) (runId : RunId) :
    MatchingState × List SlacOutput :=
  matching.handleInState evMac runId .sounding fun session =>
    ({ session with receivedMnbcSound := true }, [])

/-- The message has no run id. It is taken for the last session with the address. -/
def handleCmAttenProfileInd (now : ℤ) (pevMac : MacAddress) (numGroups : ℕ) (aag : List ℕ) :
    MatchingState × List SlacOutput :=
  match matching.sessions.reverse.find? (·.evMac == pevMac) with
  | none => (matching, [])
  | some session =>
      if session.state ≠ .sounding then (matching, [])
      else if numGroups ≠ defs.aagListLen then (matching, [])
      else
        let session := { session with
          capturedAags := List.zipWith (· + ·) session.capturedAags aag
          capturedSounds := session.capturedSounds + 1 }
        let (session, outputs) :=
          if session.capturedSounds < defs.cmSlacParmCnfNumSounds then (session, [])
          else session.finalizeSounding defs now
        ({ matching with
           sessions := (matching.sessions.reverse.lookmap fun other =>
             if other.evMac == pevMac then some session else none).reverse }, outputs)

def handleCmAttenCharRsp (now : ℤ) (evMac : MacAddress) (runId : RunId) :
    MatchingState × List SlacOutput :=
  matching.handleInState evMac runId .waitForAttenCharRsp fun session =>
    ({ session with state := .waitForSlacMatch }.setNextTimeout now defs.ttEvseMatchSessionMs, [])

def handleCmSlacMatchReq (now : ℤ) (sessionNmk : ℕ) (evMac : MacAddress)
    (request : CmSlacMatchReq) : MatchingState × List SlacOutput :=
  matching.handleInState evMac request.runId .waitForSlacMatch fun session =>
    ({ session with state := .matchComplete }.setNextTimeout now 0,
      [.send evMac (.cmSlacMatchCnf request sessionNmk), .signalCmSlacMatchCnf evMac])

/-- `MatchingState::handle_slac_message`. -/
def handleSlacMessage (now : ℤ) (sessionNmk : ℕ) (evMac : MacAddress) :
    ReceivedMessage → MatchingState × List SlacOutput
  | .cmSlacParmReq runId => matching.handleCmSlacParmReq defs now evMac runId
  | .cmStartAttenCharInd runId => matching.handleCmStartAttenCharInd defs now evMac runId
  | .cmMnbcSoundInd runId => matching.handleCmMnbcSoundInd evMac runId
  | .cmAttenProfileInd pevMac numGroups aag =>
      matching.handleCmAttenProfileInd defs now pevMac numGroups aag
  | .cmAttenCharRsp runId => matching.handleCmAttenCharRsp defs now evMac runId
  | .cmSlacMatchReq request => matching.handleCmSlacMatchReq now sessionNmk evMac request
  | .cmValidateReq => (matching, [.send evMac .cmValidateCnf])
  | .cmSetKeyCnf | .other _ => (matching, [])

end MatchingState

section FirstMatch

variable {α : Type*} {p : α → Bool} {sessions : List α} {old : α}

/-- Replacing the entry that is found leaves those before and behind it alone. -/
theorem lookmap_of_find? (h : sessions.find? p = some old) (new : α) :
    ∃ before after, sessions = before ++ old :: after ∧
      (sessions.lookmap fun other => if p other then some new else none) =
        before ++ new :: after := by
  induction sessions with
  | nil => cases h
  | cons first rest ih =>
      by_cases hFirst : p first = true
      · rw [List.find?_cons_of_pos hFirst] at h
        cases h
        exact ⟨[], rest, rfl, by simp [hFirst]⟩
      · rw [List.find?_cons_of_neg hFirst] at h
        obtain ⟨before, after, rfl, hReplaced⟩ := ih h
        exact ⟨first :: before, after, rfl, by simp [hFirst, hReplaced]⟩

/-- The entries of a list with an entry in the middle are that one and the others. -/
theorem mem_middle {before after : List α} {new other : α} :
    other ∈ before ++ new :: after ↔ other = new ∨ other ∈ before ++ after := by
  rw [List.perm_middle.mem_iff, List.mem_cons]

end FirstMatch

namespace MatchingSession

variable (now delayMs : ℤ) (session : MatchingSession)

@[simp] theorem setNextTimeout_state :
    (session.setNextTimeout now delayMs).state = session.state := rfl

@[simp] theorem setNextTimeout_evMac :
    (session.setNextTimeout now delayMs).evMac = session.evMac := rfl

@[simp] theorem setNextTimeout_runId :
    (session.setNextTimeout now delayMs).runId = session.runId := rfl

@[simp] theorem setNextTimeout_timeoutActive :
    (session.setNextTimeout now delayMs).timeoutActive = true := rfl

@[simp] theorem ackTimeout_state : session.ackTimeout.state = session.state := rfl

@[simp] theorem ackTimeout_evMac : session.ackTimeout.evMac = session.evMac := rfl

@[simp] theorem ackTimeout_runId : session.ackTimeout.runId = session.runId := rfl

@[simp] theorem ackTimeout_timeoutActive : session.ackTimeout.timeoutActive = false := rfl

end MatchingSession

/-- What the messages do to a session. -/
inductive MatchingSession.Changes (defs : SlacDefs) (now : ℤ) (sessionNmk : ℕ)
    (source : MacAddress) (old : MatchingSession) :
    ReceivedMessage → MatchingSession → List SlacOutput → Prop
  | startsSounding (hMac : old.evMac = source) (hState : old.state = .waitForStartAttenChar) :
      Changes defs now sessionNmk source old (.cmStartAttenCharInd old.runId)
        ({ old with state := .sounding }.setNextTimeout now defs.ttEvseMatchMnbcMs) []
  | hearsSound (hMac : old.evMac = source) (hState : old.state = .sounding) :
      Changes defs now sessionNmk source old (.cmMnbcSoundInd old.runId)
        { old with receivedMnbcSound := true } []
  | captures (numGroups : ℕ) (aag capturedAags : List ℕ) (hState : old.state = .sounding) :
      Changes defs now sessionNmk source old (.cmAttenProfileInd old.evMac numGroups aag)
        { old with capturedAags := capturedAags, capturedSounds := old.capturedSounds + 1 } []
  | capturesLast (numGroups : ℕ) (aag capturedAags : List ℕ) (hState : old.state = .sounding)
      (captured : MatchingSession)
      (hCaptured : captured = { old with
        capturedAags := capturedAags, capturedSounds := old.capturedSounds + 1 }) :
      Changes defs now sessionNmk source old (.cmAttenProfileInd old.evMac numGroups aag)
        (captured.finalizeSounding defs now).1 (captured.finalizeSounding defs now).2
  | getsResponse (hMac : old.evMac = source) (hState : old.state = .waitForAttenCharRsp) :
      Changes defs now sessionNmk source old (.cmAttenCharRsp old.runId)
        ({ old with state := .waitForSlacMatch }.setNextTimeout now defs.ttEvseMatchSessionMs) []
  | completes (request : CmSlacMatchReq) (hMac : old.evMac = source)
      (hRun : old.runId = request.runId) (hState : old.state = .waitForSlacMatch) :
      Changes defs now sessionNmk source old (.cmSlacMatchReq request)
        ({ old with state := .matchComplete }.setNextTimeout now 0)
        [.send source (.cmSlacMatchCnf request sessionNmk), .signalCmSlacMatchCnf source]

/-- A session as `CM_SLAC_PARM_REQ` makes it. -/
def MatchingSession.created (defs : SlacDefs) (now : ℤ) (evMac : MacAddress) (runId : RunId) :
    MatchingSession :=
  { evMac := evMac, runId := runId
    capturedAags := List.replicate defs.aagListLen 0 : MatchingSession }.setNextTimeout now
      defs.ttMatchSequenceMs

namespace MatchingState

/-- Everything that a message can do to the state. -/
inductive Handled (defs : SlacDefs) (now : ℤ) (sessionNmk : ℕ) (source : MacAddress)
    (matching : MatchingState) : ReceivedMessage → MatchingState → List SlacOutput → Prop
  | ignored (message : ReceivedMessage) (hParm : ∀ runId, message ≠ .cmSlacParmReq runId) :
      Handled defs now sessionNmk source matching message matching []
  | validated : Handled defs now sessionNmk source matching .cmValidateReq matching
      [.send source .cmValidateCnf]
  | created (runId : RunId) (hNew : ∀ other ∈ matching.sessions,
      other.isIdentifiedBy source runId = false) :
      Handled defs now sessionNmk source matching (.cmSlacParmReq runId)
        { matching with
          seenSlacParmReq := true
          sessions := matching.sessions ++ [.created defs now source runId] }
        [.send source (.cmSlacParmCnf source runId), .signalCmSlacParmReq source]
  | restarted (runId : RunId) (before after : List MatchingSession) (old : MatchingSession)
      (hSessions : matching.sessions = before ++ old :: after)
      (hOld : old.isIdentifiedBy source runId = true) :
      Handled defs now sessionNmk source matching (.cmSlacParmReq runId)
        { matching with
          seenSlacParmReq := true
          sessions := before ++ .created defs now source runId :: after }
        [.send source (.cmSlacParmCnf source runId), .signalCmSlacParmReq source]
  | changed (message : ReceivedMessage) (before after : List MatchingSession)
      (old new : MatchingSession) (outputs : List SlacOutput)
      (hSessions : matching.sessions = before ++ old :: after)
      (hChange : old.Changes defs now sessionNmk source message new outputs) :
      Handled defs now sessionNmk source matching message
        { matching with sessions := before ++ new :: after } outputs

variable {defs : SlacDefs} {now : ℤ} {sessionNmk : ℕ} {source : MacAddress}
  {matching : MatchingState}

/-- A message of a session that its handler accepts in one state only is handled as `Handled` says,
if the handler changes the session it finds as `Changes` allows. -/
theorem handled_inState {runId : RunId} {expected : MatchingSubState}
    {handle : MatchingSession → MatchingSession × List SlacOutput} {message : ReceivedMessage}
    (hParm : ∀ runId, message ≠ .cmSlacParmReq runId)
    (hChange : ∀ old : MatchingSession, old.evMac = source → old.runId = runId → old.state = expected →
      old.Changes defs now sessionNmk source message (handle old).1 (handle old).2) :
    Handled defs now sessionNmk source matching message
      (matching.handleInState source runId expected handle).1
      (matching.handleInState source runId expected handle).2 := by
  unfold handleInState
  cases hFound : matching.findSession source runId with
  | none => exact .ignored message hParm
  | some old =>
      dsimp only
      split
      · exact .ignored message hParm
      · next hState =>
        rw [not_not] at hState
        have hId := List.find?_some hFound
        simp only [MatchingSession.isIdentifiedBy, Bool.and_eq_true, beq_iff_eq] at hId
        obtain ⟨before, after, hSessions, hReplaced⟩ := lookmap_of_find? hFound (handle old).1
        have hHandled := Handled.changed message before after old _ _ hSessions
          (hChange old hId.2 hId.1 hState)
        rw [replaceSession, hReplaced]
        exact hHandled

/-- CM_SLAC_PARM.REQ opens a session, or opens the one of the same car and run anew. -/
theorem handled_cmSlacParmReq (runId : RunId) :
    Handled defs now sessionNmk source matching (.cmSlacParmReq runId)
      (matching.handleCmSlacParmReq defs now source runId).1
      (matching.handleCmSlacParmReq defs now source runId).2 := by
  unfold handleCmSlacParmReq
  dsimp only
  cases hFound : findSession { matching with seenSlacParmReq := true } source runId with
  | none =>
      apply Handled.created
      simpa using List.find?_eq_none.mp hFound
  | some old =>
      obtain ⟨before, after, hSessions, hReplaced⟩ :=
        lookmap_of_find? hFound (.created defs now source runId)
      have hRestarted := @Handled.restarted defs now sessionNmk source matching runId before after
        old hSessions (List.find?_some hFound)
      rw [← hReplaced] at hRestarted
      exact hRestarted

/-- CM_ATTEN_PROFILE.IND is handled by the last session of its car. -/
theorem handled_cmAttenProfileInd (pevMac : MacAddress) (numGroups : ℕ) (aag : List ℕ) :
    Handled defs now sessionNmk source matching (.cmAttenProfileInd pevMac numGroups aag)
      (matching.handleCmAttenProfileInd defs now pevMac numGroups aag).1
      (matching.handleCmAttenProfileInd defs now pevMac numGroups aag).2 := by
  unfold handleCmAttenProfileInd
  cases hFound : matching.sessions.reverse.find? (·.evMac == pevMac) with
  | none => exact .ignored _ nofun
  | some old =>
      dsimp only
      split
      · exact .ignored _ nofun
      · split
        · exact .ignored _ nofun
        · next hState _ =>
          rw [not_not] at hState
          obtain rfl : old.evMac = pevMac := by simpa using List.find?_some hFound
          -- the search goes backwards, so what it leaves before the session stands behind it
          have hChanged (new : MatchingSession) (outputs : List SlacOutput)
              (hChange : old.Changes defs now sessionNmk source
                (.cmAttenProfileInd old.evMac numGroups aag) new outputs) :
              Handled defs now sessionNmk source matching
                (.cmAttenProfileInd old.evMac numGroups aag)
                { matching with
                  sessions := (matching.sessions.reverse.lookmap fun other =>
                    if other.evMac == old.evMac then some new else none).reverse } outputs := by
            obtain ⟨after, before, hSessions, hReplaced⟩ := lookmap_of_find? hFound new
            have hSplit : matching.sessions = before.reverse ++ old :: after.reverse := by
              rw [← List.reverse_reverse matching.sessions, hSessions]
              simp
            have hHandled := Handled.changed _ before.reverse after.reverse old new outputs hSplit
              hChange
            rw [hReplaced]
            simpa using hHandled
          split
          · exact hChanged _ _ (.captures numGroups aag _ hState)
          · exact hChanged _ _ (.capturesLast numGroups aag _ hState _ rfl)

/-- Every message is handled as `Handled` says. One case for each message. -/
theorem handled_handleSlacMessage (message : ReceivedMessage) :
    Handled defs now sessionNmk source matching message
      (matching.handleSlacMessage defs now sessionNmk source message).1
      (matching.handleSlacMessage defs now sessionNmk source message).2 := by
  cases message with
  | cmSlacParmReq runId => exact handled_cmSlacParmReq runId
  | cmStartAttenCharInd runId =>
      apply handled_inState (by nofun)
      rintro old hMac rfl hState
      exact .startsSounding hMac hState
  | cmMnbcSoundInd runId =>
      apply handled_inState (by nofun)
      rintro old hMac rfl hState
      exact .hearsSound hMac hState
  | cmAttenProfileInd pevMac numGroups aag =>
      exact handled_cmAttenProfileInd pevMac numGroups aag
  | cmAttenCharRsp runId =>
      apply handled_inState (by nofun)
      rintro old hMac rfl hState
      exact .getsResponse hMac hState
  | cmSlacMatchReq request =>
      apply handled_inState (by nofun)
      intro old hMac hRun hState
      exact .completes request hMac hRun hState
  | cmValidateReq => exact .validated
  | cmSetKeyCnf => exact .ignored _ nofun
  | other mmtype => exact .ignored _ nofun

end MatchingState

end EverestCore.Slac
