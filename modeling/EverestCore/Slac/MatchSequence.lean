import EverestCore.Machine.Milestones
import EverestCore.Slac.Timeouts

/-! The matching sequence of a car. A network key is handed out at its end only: the
parameters were requested, the sounding was announced, its result was sent and confirmed,
and no timeout beside that of the sounding ended it. The key is the one that the modem
has got last. -/
namespace EverestCore.Slac
open Machine

namespace SlacEntry

variable (evMac : MacAddress) (runId : RunId)

/-- The car requests the parameters, which begins its sequence. -/
def isParmReq : SlacEntry → Bool
  | .input (.slacMessage source (.cmSlacParmReq run)) => source = evMac && run = runId
  | _ => false

/-- A state is entered, or a timeout beside that of the sounding ends the session. -/
def endsSequence : SlacEntry → Bool
  | .output (.entered _) => true
  | .output (.timedOut mac run state) => mac = evMac && run = runId && state ≠ .sounding
  | _ => false

def isStartAttenCharInd : SlacEntry → Bool
  | .input (.slacMessage source (.cmStartAttenCharInd run)) => source = evMac && run = runId
  | _ => false

def isAttenCharInd : SlacEntry → Bool
  | .output (.send destination (.cmAttenCharInd _ run _ _)) =>
      destination = evMac && run = runId
  | _ => false

def isAttenCharRsp : SlacEntry → Bool
  | .input (.slacMessage source (.cmAttenCharRsp run)) => source = evMac && run = runId
  | _ => false

/-- The key that is given to the modem. -/
def setsKey : SlacEntry → Option ℕ
  | .output (.send _ (.cmSetKeyReq newKey)) => some newKey
  | _ => none

/-- The sequence of the car has come so far since its last beginning. -/
abbrev Sequence (milestones : List (SlacEntry → Bool)) (history : List SlacEntry) : Prop :=
  InOrderSince (isParmReq evMac runId) (endsSequence evMac runId) milestones history

/-- The key of the last `CM_SET_KEY_REQ`. -/
def lastKey (history : List SlacEntry) : Option ℕ :=
  (history.filterMap setsKey).getLast?

/-- A `CM_SLAC_MATCH_CNF` is the reply to a request at the end of a complete sequence, and
carries the key that the modem has. -/
def AnswersMatch (before : List SlacEntry) : SlacEntry → Prop
  | .output (.send destination (.cmSlacMatchCnf request nmk)) =>
      (∃ earlier, before =
          earlier ++ [.input (.slacMessage destination (.cmSlacMatchReq request))] ∧
        Sequence destination request.runId
          [isStartAttenCharInd destination request.runId, isAttenCharInd destination request.runId,
            isAttenCharRsp destination request.runId] earlier) ∧
      lastKey before = some nmk
  | _ => True

end SlacEntry

open SlacEntry

namespace MatchingSession

variable (session : MatchingSession)

/-- How far the sequence of a session has come, for the states in which it goes on. -/
def milestones : Option (List (SlacEntry → Bool)) :=
  match session.state with
  | .waitForStartAttenChar => some []
  | .sounding => some [isStartAttenCharInd session.evMac session.runId]
  | .waitForAttenCharRsp =>
      some [isStartAttenCharInd session.evMac session.runId,
        isAttenCharInd session.evMac session.runId]
  | .waitForSlacMatch =>
      some [isStartAttenCharInd session.evMac session.runId,
        isAttenCharInd session.evMac session.runId, isAttenCharRsp session.evMac session.runId]
  | .receivedSlacMatch | .matchComplete | .failed => none

/-- The history has the sequence that the state of the session stands for. -/
def Recorded (history : List SlacEntry) : Prop :=
  ∀ milestones ∈ session.milestones, Sequence session.evMac session.runId milestones history

/-- Entries that say nothing about the session. -/
def Ignores (entries : List SlacEntry) : Prop :=
  ∀ entry ∈ entries, isParmReq session.evMac session.runId entry = false ∧
    endsSequence session.evMac session.runId entry = false

variable {session}

theorem Recorded.append {history entries : List SlacEntry} (h : session.Recorded history)
    (hEntries : session.Ignores entries) : session.Recorded (history ++ entries) :=
  fun milestones hMilestones => (h milestones hMilestones).append hEntries

variable {defs : SlacDefs} {now : ℤ} {sessionNmk : ℕ} {source : MacAddress}
  {old new other : MatchingSession} {message : ReceivedMessage} {outputs : List SlacOutput}

/-- What a message does to a session is recorded. -/
theorem Changes.recorded (h : old.Changes defs now sessionNmk source message new outputs)
    {history : List SlacEntry} (hOld : old.Recorded history) :
    new.Recorded
      (history ++ [.input (.slacMessage source message)] ++ outputs.map .output) := by
  cases h with
  | startsSounding hMac hState =>
      rintro _ ⟨⟩
      have hBefore := hOld [] (by simp [milestones, hState])
      rw [List.map_nil, List.append_nil]
      exact hBefore.snoc (by simp [isStartAttenCharInd, hMac]) rfl rfl
  | hearsSound hMac hState =>
      rw [List.map_nil, List.append_nil]
      have hStill : old.Recorded
          (history ++ [.input (.slacMessage source (.cmMnbcSoundInd old.runId))]) :=
        hOld.append (by simp [Ignores, isParmReq, endsSequence])
      exact hStill
  | captures numGroups aag capturedAags hState =>
      rw [List.map_nil, List.append_nil]
      have hStill : old.Recorded (history ++
          [.input (.slacMessage source (.cmAttenProfileInd old.evMac numGroups aag))]) :=
        hOld.append (by simp [Ignores, isParmReq, endsSequence])
      exact hStill
  | capturesLast numGroups aag capturedAags hState captured hCaptured =>
      subst hCaptured
      rintro _ ⟨⟩
      have hBefore := hOld _ (by simp [milestones, hState]; rfl)
      have hHeard : Sequence old.evMac old.runId _ (history ++ [.input (.slacMessage source
          (.cmAttenProfileInd old.evMac numGroups aag))]) :=
        hBefore.append (by simp [isParmReq, endsSequence])
      exact hHeard.snoc (by simp [isAttenCharInd, finalizeSounding, createCmAttenCharInd]) rfl rfl
  | getsResponse hMac hState =>
      rintro _ ⟨⟩
      have hBefore := hOld _ (by simp [milestones, hState]; rfl)
      rw [List.map_nil, List.append_nil]
      exact hBefore.snoc (by simp [isAttenCharRsp, hMac]) rfl rfl
  | completes request hMac hRun hState =>
      intro order hOrder
      cases hOrder

/-- No message but the request of the parameters says anything about other sessions. -/
theorem Changes.ignored (h : old.Changes defs now sessionNmk source message new outputs)
    (other : MatchingSession) :
    other.Ignores ([.input (.slacMessage source message)] ++ outputs.map .output) := by
  cases h <;> simp [Ignores, isParmReq, endsSequence, finalizeSounding]

theorem ignores_message (session : MatchingSession)
    (hParm : ∀ runId, message ≠ .cmSlacParmReq runId) :
    session.Ignores [.input (.slacMessage source message)] := by
  cases message with
  | cmSlacParmReq runId => exact absurd rfl (hParm runId)
  | _ => simp [Ignores, isParmReq, endsSequence]

/-- The request of the parameters says nothing about sessions with another key. -/
theorem ignores_parmReq {runId : RunId} (hKey : other.key ≠ (source, runId)) :
    other.Ignores ([.input (.slacMessage source (.cmSlacParmReq runId))] ++
      [SlacOutput.send source (.cmSlacParmCnf source runId), .signalCmSlacParmReq source].map
        .output) := by
  have hDiffer : source = other.evMac → runId ≠ other.runId := by
    rintro hMac hRun
    exact hKey (Prod.ext hMac.symm hRun.symm)
  simpa [Ignores, isParmReq, endsSequence] using hDiffer

theorem recorded_created {evMac : MacAddress} {runId : RunId} (history : List SlacEntry) :
    (created defs now evMac runId).Recorded
      (history ++ [.input (.slacMessage evMac (.cmSlacParmReq runId))]) := by
  rintro _ ⟨⟩
  exact inOrderSince_begin history (by simp [isParmReq, created])

/-- What the callback does to a session is recorded. -/
theorem Settled.recorded (h : Settled defs now old new outputs) {history : List SlacEntry}
    (hOld : old.Recorded history) : new.Recorded (history ++ outputs.map .output) := by
  cases h with
  | rests =>
      rw [List.map_nil, List.append_nil]
      exact hOld
  | acks hState =>
      rcases hState with hState | hState <;> simp [Recorded, milestones, hState]
  | fails => exact nofun
  | finalizesAndFails => exact nofun
  | finalizes hState =>
      rintro _ ⟨⟩
      have hBefore := hOld _ (by simp [milestones, hState]; rfl)
      have hLate : Sequence old.evMac old.runId _
          (history ++ [.output (.timedOut old.evMac old.runId .sounding)]) :=
        hBefore.append (by simp [isParmReq, endsSequence])
      have hSent : Sequence old.evMac old.runId
          [isStartAttenCharInd old.evMac old.runId, isAttenCharInd old.evMac old.runId]
          (history ++ [.output (.timedOut old.evMac old.runId .sounding)] ++
            [.output (.send old.evMac (old.createCmAttenCharInd defs))]) :=
        hLate.snoc (by simp [isAttenCharInd, createCmAttenCharInd]) rfl rfl
      rw [List.append_assoc] at hSent
      exact hSent

/-- The settling of a session says nothing about other sessions. -/
theorem Settled.ignored (h : Settled defs now old new outputs) (hOther : other.key ≠ old.key) :
    other.Ignores (outputs.map .output) := by
  have hDiffer : old.evMac = other.evMac → old.runId ≠ other.runId := by
    intro hMac hRun
    exact hOther (Prod.ext hMac.symm hRun.symm)
  cases h with
  | rests | acks | finalizes => simp [Ignores, isParmReq, endsSequence]
  | fails =>
      simp only [Ignores, isParmReq, endsSequence, List.map_cons, List.map_nil,
        List.forall_mem_singleton]
      simp_all
  | finalizesAndFails =>
      simp [Ignores, isParmReq, endsSequence]
      exact hDiffer

end MatchingSession

namespace MatchingState

variable {defs : SlacDefs} {now : ℤ} {sessionNmk : ℕ} {source : MacAddress}
  {matching next : MatchingState} {message : ReceivedMessage} {outputs : List SlacOutput}

/-- The sequences of all sessions are recorded. -/
def Recorded (matching : MatchingState) (history : List SlacEntry) : Prop :=
  ∀ session ∈ matching.sessions, session.Recorded history

theorem Recorded.append {history entries : List SlacEntry} (h : matching.Recorded history)
    (hEntries : ∀ session : MatchingSession, session.Ignores entries) :
    matching.Recorded (history ++ entries) :=
  fun session hSession => (h session hSession).append (hEntries session)

theorem Handled.recorded (h : Handled defs now sessionNmk source matching message next outputs)
    (hValid : matching.Valid) {history : List SlacEntry} (hRecorded : matching.Recorded history) :
    next.Recorded (history ++ [.input (.slacMessage source message)] ++ outputs.map .output) := by
  cases h with
  | ignored _ hParm =>
      rw [List.map_nil, List.append_nil]
      exact hRecorded.append fun session => session.ignores_message hParm
  | validated =>
      rw [List.append_assoc]
      apply hRecorded.append
      simp [MatchingSession.Ignores, isParmReq, endsSequence]
  | created runId hNew =>
      intro session hSession
      rcases List.mem_append.mp hSession with hOld | hCreated
      · rw [List.append_assoc]
        apply (hRecorded session hOld).append
        apply MatchingSession.ignores_parmReq
        intro hKey
        have hFound := MatchingSession.isIdentifiedBy_iff.mpr hKey
        rw [hNew session hOld] at hFound
        cases hFound
      · rw [List.mem_singleton.mp hCreated]
        apply (MatchingSession.recorded_created history).append
        simp [MatchingSession.Ignores, isParmReq, endsSequence]
  | restarted runId before after old hSessions hOld =>
      have hKey := MatchingSession.isIdentifiedBy_iff.mp hOld
      intro session hSession
      rcases mem_middle.mp hSession with rfl | hOther
      · apply (MatchingSession.recorded_created history).append
        simp [MatchingSession.Ignores, isParmReq, endsSequence]
      · rw [List.append_assoc]
        apply (hRecorded session (hSessions ▸ mem_middle.mpr (.inr hOther))).append
        apply MatchingSession.ignores_parmReq
        rw [← hKey]
        exact hValid.key_ne hSessions session hOther
  | changed _ before after old new _ hSessions hChange =>
      intro session hSession
      rcases mem_middle.mp hSession with rfl | hOther
      · exact hChange.recorded (hRecorded old (by simp [hSessions]))
      · rw [List.append_assoc]
        exact (hRecorded session (hSessions ▸ mem_middle.mpr (.inr hOther))).append
          (hChange.ignored session)

/-- What the callback does to sessions with other keys says nothing about this one. -/
theorem ignores_settle {sessions : List MatchingSession} {session : MatchingSession}
    (hKeys : ∀ other ∈ sessions, other.key ≠ session.key) :
    session.Ignores
      ((sessions.flatMap fun other => (other.settle defs now).2).map .output) := by
  intro entry hEntry
  obtain ⟨output, hOutput, rfl⟩ := List.mem_map.mp hEntry
  obtain ⟨other, hOther, hSettled⟩ := List.mem_flatMap.mp hOutput
  exact (other.settled_settle defs now).ignored (hKeys other hOther).symm _
    (List.mem_map_of_mem hSettled)

theorem Called.recorded {callBackMs : Option ℤ}
    (h : Called defs now matching (next, outputs, .wait callBackMs)) (hValid : matching.Valid)
    {history : List SlacEntry} (hRecorded : matching.Recorded history) :
    next.Recorded (history ++ [.input .callback] ++ outputs.map .output) := by
  cases h with
  | stays =>
      intro session hSession
      obtain ⟨old, hOld, rfl⟩ := List.mem_map.mp hSession
      have hSettled := old.settled_settle defs now
      obtain ⟨before, after, hSessions⟩ := List.append_of_mem hOld
      have hKeys := hValid.key_ne hSessions
      rw [List.forall_mem_append] at hKeys
      -- the outputs come in the order of the sessions: those before this one, its own, the rest
      rw [hSessions, List.flatMap_append, List.flatMap_cons, List.map_append, List.map_append,
        ← List.append_assoc, ← List.append_assoc]
      apply MatchingSession.Recorded.append
      · apply hSettled.recorded
        apply MatchingSession.Recorded.append
        · apply (hRecorded old hOld).append
          simp [MatchingSession.Ignores, isParmReq, endsSequence]
        · exact ignores_settle hKeys.1
      · apply ignores_settle
        rw [hSettled.key]
        exact hKeys.2

end MatchingState

namespace SlacEntry

/-- An entry that neither hands out a key nor gives one to the modem. -/
def isPlain : SlacEntry → Bool
  | .output (.send _ (.cmSlacMatchCnf _ _)) => false
  | .output (.send _ (.cmSetKeyReq _)) => false
  | _ => true

theorem setsKey_of_isPlain {entry : SlacEntry} (h : entry.isPlain = true) :
    entry.setsKey = none := by
  unfold isPlain at h
  unfold setsKey
  split at h <;> simp_all

theorem answersMatch_of_isPlain {entry : SlacEntry} (h : entry.isPlain = true)
    (before : List SlacEntry) : AnswersMatch before entry := by
  unfold isPlain at h
  unfold AnswersMatch
  split at h <;> simp_all

theorem lastKey_append_of_isPlain (history : List SlacEntry) {entries : List SlacEntry}
    (h : ∀ entry ∈ entries, entry.isPlain = true) :
    lastKey (history ++ entries) = lastKey history := by
  have hNone : entries.filterMap setsKey = [] :=
    List.filterMap_eq_nil_iff.mpr fun entry hEntry => setsKey_of_isPlain (h entry hEntry)
  rw [lastKey, List.filterMap_append, hNone, List.append_nil, lastKey]

theorem answersMatch_append_of_isPlain {history entries : List SlacEntry}
    (hHistory : EachAfter AnswersMatch history) (h : ∀ entry ∈ entries, entry.isPlain = true) :
    EachAfter AnswersMatch (history ++ entries) := by
  rw [eachAfter_append]
  refine ⟨hHistory, ?_⟩
  intro before entry hPrefix
  have hMem : entry ∈ entries := hPrefix.subset (by simp)
  exact answersMatch_of_isPlain (h entry hMem) _

end SlacEntry

theorem MatchingSession.Settled.isPlain {defs : SlacDefs} {now : ℤ} {old new : MatchingSession}
    {outputs : List SlacOutput} (h : Settled defs now old new outputs) :
    ∀ output ∈ outputs, (SlacEntry.output output).isPlain = true := by
  cases h <;> simp [SlacEntry.isPlain, createCmAttenCharInd]

namespace MatchingState

variable {defs : SlacDefs} {now : ℤ} {sessionNmk : ℕ} {source : MacAddress}
  {matching next : MatchingState} {message : ReceivedMessage} {outputs : List SlacOutput}

/-- A message hands out a key only if it is the request of a session that waits for it. -/
theorem Handled.isPlain (h : Handled defs now sessionNmk source matching message next outputs) :
    (∀ output ∈ outputs, (SlacEntry.output output).isPlain = true) ∨
    ∃ request, ∃ old ∈ matching.sessions, message = .cmSlacMatchReq request ∧
      old.evMac = source ∧ old.runId = request.runId ∧ old.state = .waitForSlacMatch ∧
      outputs = [.send source (.cmSlacMatchCnf request sessionNmk),
        .signalCmSlacMatchCnf source] := by
  cases h with
  | ignored | validated | created | restarted =>
      left
      simp [SlacEntry.isPlain]
  | changed _ before after old new _ hSessions hChange =>
      cases hChange with
      | completes request hMac hRun hState =>
          exact .inr ⟨request, old, by simp [hSessions], rfl, hMac, hRun, hState, rfl⟩
      | _ =>
          left
          simp [SlacEntry.isPlain, MatchingSession.finalizeSounding,
            MatchingSession.createCmAttenCharInd]

theorem isPlain_settle (sessions : List MatchingSession) :
    ∀ output ∈ sessions.flatMap (fun session => (session.settle defs now).2),
      (SlacEntry.output output).isPlain = true := by
  intro output hOutput
  obtain ⟨session, -, hSettled⟩ := List.mem_flatMap.mp hOutput
  exact (session.settled_settle defs now).isPlain output hSettled

/-- The callback hands out no key. -/
theorem Called.isPlain {result : CallbackResult}
    (h : Called defs now matching (next, outputs, result)) :
    ∀ output ∈ outputs, (SlacEntry.output output).isPlain = true := by
  cases h with
  | retries => exact nofun
  | stays => exact isPlain_settle _
  | completes _ before => exact isPlain_settle before
  | fails _ before => exact isPlain_settle before

end MatchingState

namespace SlacMachine

/-- The keys are guarded: the sequences of the sessions are recorded, the modem has the
key of the machine, and all keys were handed out at the end of a sequence. -/
structure Guarded (s : SlacMachine) : Prop where
  matching : ∀ matching, s.state = .matching matching →
    matching.Valid ∧ matching.Recorded s.history
  key : lastKey s.history = some s.sessionNmk
  answers : EachAfter AnswersMatch s.history

variable {defs : SlacDefs} {setKeyTimeoutMs now : ℤ} {s : SlacMachine}

theorem isPlain_enteringOutputs (sessionNmk : ℕ) {name : SlacStateName} (hName : name ≠ .reset) :
    ∀ output ∈ enteringOutputs sessionNmk name, (SlacEntry.output output).isPlain = true := by
  cases name with
  | reset => exact absurd rfl hName
  | idle | matching | matched | failed => simp [enteringOutputs, SlacEntry.isPlain]

theorem lastKey_goTo (hKey : lastKey s.history = some s.sessionNmk) (name : SlacStateName)
    (hName : s.state = .matched → name = .reset) :
    lastKey (s.goTo defs setKeyTimeoutMs now name).history =
      some (s.goTo defs setKeyTimeoutMs now name).sessionNmk := by
  rw [goTo_history]
  by_cases hReset : name = .reset
  · subst hReset
    simp [lastKey, enteringOutputs, setsKey, List.findSome?]
  · have hNotMatched : s.state ≠ .matched := fun hMatched => hReset (hName hMatched)
    rw [goTo_sessionNmk, if_neg hNotMatched, if_neg hNotMatched, List.append_nil,
      lastKey_append_of_isPlain, hKey]
    simpa using isPlain_enteringOutputs s.sessionNmk hReset

theorem answers_goTo (hAnswers : EachAfter AnswersMatch s.history) (name : SlacStateName) :
    EachAfter AnswersMatch (s.goTo defs setKeyTimeoutMs now name).history := by
  rw [goTo_history, List.append_assoc, eachAfter_append]
  refine ⟨hAnswers, ?_⟩
  intro before entry hPrefix
  have hMem := hPrefix.subset (List.mem_append_right before (List.mem_singleton_self entry))
  rcases List.mem_append.mp hMem with hSignal | hEntering
  · split at hSignal
    · rw [List.mem_singleton.mp hSignal]
      trivial
    · cases hSignal
  · obtain ⟨output, hOutput, rfl⟩ := List.mem_map.mp hEntering
    revert output
    cases name <;> simp [enteringOutputs, AnswersMatch]

/-- Entering a state keeps the keys guarded; a new key is given to the modem at once. -/
theorem guarded_goTo (hKey : lastKey s.history = some s.sessionNmk)
    (hAnswers : EachAfter AnswersMatch s.history) (name : SlacStateName)
    (hName : s.state = .matched → name = .reset) :
    Guarded (s.goTo defs setKeyTimeoutMs now name) := by
  refine ⟨?_, lastKey_goTo hKey name hName, answers_goTo hAnswers name⟩
  intro matching hState
  rw [goTo_state] at hState
  cases name with
  | matching =>
      cases hState
      exact ⟨MatchingState.valid_enter defs now, nofun⟩
  | reset | idle | matched | failed => cases hState

/-- The history after an event and outputs that touch no key. -/
theorem guarded_history (h : s.Guarded) (event : SlacEvent) (outputs : List SlacOutput)
    (hPlain : ∀ output ∈ outputs, (SlacEntry.output output).isPlain = true) :
    lastKey (s.history ++ [.input event] ++ outputs.map .output) = some s.sessionNmk ∧
      EachAfter AnswersMatch (s.history ++ [.input event] ++ outputs.map .output) := by
  have hEntries : ∀ entry ∈ [SlacEntry.input event] ++ outputs.map .output,
      entry.isPlain = true := by
    rw [List.forall_mem_append, List.forall_mem_singleton, List.forall_mem_map]
    exact ⟨rfl, hPlain⟩
  rw [List.append_assoc]
  exact ⟨(lastKey_append_of_isPlain _ hEntries).trans h.key,
    answersMatch_append_of_isPlain h.answers hEntries⟩

/-- The matching state goes on, with everything recorded. -/
theorem guarded_stay (h : s.Guarded) (event : SlacEvent) {outputs : List SlacOutput}
    (hPlain : ∀ output ∈ outputs, (SlacEntry.output output).isPlain = true)
    {next : MatchingState} (hValid : next.Valid)
    (hRecorded : next.Recorded (s.history ++ [.input event] ++ outputs.map .output))
    (feedResult : FeedResult) : ((s.note event).stay next outputs feedResult).Guarded := by
  obtain ⟨hKey, hAnswers⟩ := guarded_history h event outputs hPlain
  refine ⟨?_, hKey, hAnswers⟩
  rintro _ ⟨⟩
  exact ⟨hValid, hRecorded⟩

/-- A message keeps the keys guarded. -/
theorem guarded_handles (h : s.Guarded) {matching next : MatchingState} {source : MacAddress}
    {message : ReceivedMessage} {outputs : List SlacOutput} (hState : s.state = .matching matching)
    (hHandled : matching.Handled defs now s.sessionNmk source message next outputs)
    (feedResult : FeedResult) :
    ((s.note (.slacMessage source message)).stay next outputs feedResult).Guarded := by
  obtain ⟨hValid, hRecorded⟩ := h.matching matching hState
  have hNextValid := hHandled.valid hValid
  have hNextRecorded := hHandled.recorded hValid hRecorded
  rcases hHandled.isPlain with hPlain | ⟨request, old, hOld, rfl, rfl, hRun, hSub, rfl⟩
  · exact guarded_stay h _ hPlain hNextValid hNextRecorded feedResult
  · obtain ⟨hKey, hAnswers⟩ :=
      guarded_history h (.slacMessage old.evMac (.cmSlacMatchReq request)) [] (by simp)
    rw [List.map_nil, List.append_nil] at hKey hAnswers
    -- the session that is answered has come to the end of its sequence
    have hSequence := hRecorded old hOld _ (by simp [MatchingSession.milestones, hSub]; rfl)
    rw [hRun] at hSequence
    refine ⟨?_, ?_, ?_⟩
    · rintro _ ⟨⟩
      exact ⟨hNextValid, hNextRecorded⟩
    · simpa [lastKey, setsKey, List.findSome?] using hKey
    · have hSplit : ((s.note (.slacMessage old.evMac (.cmSlacMatchReq request))).stay next
          [.send old.evMac (.cmSlacMatchCnf request s.sessionNmk),
            .signalCmSlacMatchCnf old.evMac] feedResult).history =
          s.history ++ [.input (.slacMessage old.evMac (.cmSlacMatchReq request))] ++
            [.output (.send old.evMac (.cmSlacMatchCnf request s.sessionNmk))] ++
            [.output (.signalCmSlacMatchCnf old.evMac)] := by
        simp
      rw [hSplit, eachAfter_snoc, eachAfter_snoc]
      exact ⟨⟨hAnswers, ⟨s.history, rfl, hSequence⟩, hKey⟩, trivial⟩

/-- One input keeps the keys guarded. -/
theorem guarded_step (h : s.Guarded) (input : SlacInput) :
    (s.step defs setKeyTimeoutMs input).Guarded := by
  have hEffect := step_effect defs setKeyTimeoutMs s input
  generalize s.step defs setKeyTimeoutMs input = s' at hEffect
  obtain ⟨hKey, hAnswers⟩ := guarded_history h input.event [] (by simp)
  rw [List.map_nil, List.append_nil] at hKey hAnswers
  have hLeave (outputs : List SlacOutput) (name : SlacStateName) {matching left : MatchingState}
      {result : CallbackResult} (hState : s.state = .matching matching)
      (hCalled : matching.Called defs input.now (left, outputs, result)) :
      (((s.note input.event).emit outputs).goTo defs setKeyTimeoutMs input.now name).Guarded := by
    obtain ⟨hKey, hAnswers⟩ := guarded_history h input.event outputs hCalled.isPlain
    exact guarded_goTo hKey hAnswers name (by simp [hState])
  cases hEffect with
  | unmoved feedResult hMatching =>
      refine ⟨?_, hKey, hAnswers⟩
      intro matching hState
      obtain ⟨hValid, hRecorded⟩ := h.matching matching hState
      refine ⟨hValid, hRecorded.append fun session => ?_⟩
      rcases hMatching matching hState with hEvent | hEvent <;>
        simp [MatchingSession.Ignores, hEvent, isParmReq, endsSequence]
  | resets hEvent => exact guarded_goTo hKey hAnswers .reset fun _ => rfl
  | idles hState => exact guarded_goTo hKey hAnswers .idle (by simp [hState])
  | startsMatching hState => exact guarded_goTo hKey hAnswers .matching (by simp [hState])
  | handles matching next source message outputs hState hEvent hHandled =>
      rw [hEvent]
      exact guarded_handles h hState hHandled _
  | waits matching next outputs callBackMs feedResult hState hEvent hCalled =>
      obtain ⟨hValid, hRecorded⟩ := h.matching matching hState
      rw [hEvent]
      exact guarded_stay h _ hCalled.isPlain (hCalled.valid hValid)
        (hCalled.recorded hValid hRecorded) feedResult
  | retries matching next hState hEvent hUnseen hNext =>
      obtain ⟨hValid, hRecorded⟩ := h.matching matching hState
      rw [hEvent]
      apply guarded_stay h _ (by simp) (hValid.of_sessions_eq hNext.1 hNext.2)
      intro session hSession
      rw [hNext.1] at hSession
      rw [List.map_nil, List.append_nil]
      apply (hRecorded session hSession).append
      simp [MatchingSession.Ignores, isParmReq, endsSequence]
  | completes matching left outputs hState hEvent hCalled =>
      exact hLeave outputs .matched hState hCalled
  | fails matching left outputs event hIncomplete hState hEvent hCalled =>
      exact hLeave outputs .failed hState hCalled

theorem guarded_start (defs : SlacDefs) (setKeyTimeoutMs : ℤ) :
    (start defs setKeyTimeoutMs).Guarded := by
  refine ⟨nofun, rfl, ?_⟩
  intro before entry hPrefix
  have hMem := hPrefix.subset (List.mem_append_right before (List.mem_singleton_self entry))
  revert hMem
  simp only [start, enter, emit, List.nil_append, List.map_cons, List.map_nil, List.mem_cons,
    List.not_mem_nil, or_false]
  rintro (rfl | rfl) <;> trivial

/-- In every run a network key is handed out only at the end of a complete sequence of
the car that gets it, and it is the key that the modem has got last. -/
theorem match_cnf_ends_sequence (defs : SlacDefs) (setKeyTimeoutMs : ℤ) (inputs : List SlacInput) :
    EachAfter AnswersMatch
      (run (step defs setKeyTimeoutMs) (start defs setKeyTimeoutMs) inputs).history := by
  have hGuarded : Guarded (run (step defs setKeyTimeoutMs) (start defs setKeyTimeoutMs) inputs) :=
    run_invariant Guarded (guarded_start defs setKeyTimeoutMs)
      (fun s input h => guarded_step h input) inputs
  exact hGuarded.answers

end SlacMachine

end EverestCore.Slac
