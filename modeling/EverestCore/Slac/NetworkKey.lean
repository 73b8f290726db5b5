import EverestCore.Slac.MatchSequence

/-! Who gets a network key. A key is renewed only when the matched state is left, but it
is handed out before that state is entered. In between another car may get the same key,
or the machine may be reset, or the completed session may begin again. -/
namespace EverestCore.Slac
open Machine

/-- The car and the key of a `CM_SLAC_MATCH_CNF`. -/
def SlacEntry.handsOut : SlacEntry → Option (MacAddress × ℕ)
  | .output (.send destination (.cmSlacMatchCnf _ nmk)) => some (destination, nmk)
  | _ => none

/-- The car has got this key. -/
def HasKey (history : List SlacEntry) (evMac : MacAddress) (nmk : ℕ) : Prop :=
  ∃ entry ∈ history, entry.handsOut = some (evMac, nmk)

/-- The keys that two cars have got come from different calls of `generate_nmk`. -/
def KeysPrivate (history : List SlacEntry) : Prop :=
  ∀ evMac other nmk nmk', HasKey history evMac nmk → HasKey history other nmk' →
    evMac ≠ other → nmk ≠ nmk'

theorem SlacEntry.handsOut_of_isPlain {entry : SlacEntry} (h : entry.isPlain = true) :
    entry.handsOut = none := by
  unfold isPlain at h
  unfold handsOut
  split at h <;> simp_all

section HasKey

variable {history entries : List SlacEntry} {evMac : MacAddress} {nmk : ℕ}

theorem hasKey_append :
    HasKey (history ++ entries) evMac nmk ↔
      HasKey history evMac nmk ∨ HasKey entries evMac nmk := by
  simp only [HasKey, List.mem_append, or_and_right, exists_or]

/-- Entries that hand out nothing change nothing. -/
theorem hasKey_append_of_none (h : ∀ entry ∈ entries, entry.handsOut = none) :
    HasKey (history ++ entries) evMac nmk ↔ HasKey history evMac nmk := by
  rw [hasKey_append, or_iff_left]
  rintro ⟨entry, hEntry, hHands⟩
  rw [h entry hEntry] at hHands
  cases hHands

end HasKey

namespace MatchingState

/-- While a session is complete and the callback has not seen it yet, nobody else gets the
key, the machine is not reset, and the session does not begin again. -/
def keepsKeyPrivate (matching : MatchingState) (event : SlacEvent) : Bool :=
  matching.sessions.all fun session => session.state ≠ .matchComplete ||
    match event with
    | .reset => false
    | .slacMessage source (.cmSlacParmReq runId) => session.key ≠ (source, runId)
    | .slacMessage source (.cmSlacMatchReq request) =>
        source = session.evMac ||
          matching.sessions.all fun other =>
            other.key ≠ (source, request.runId) || other.state ≠ .waitForSlacMatch
    | _ => true

variable {defs : SlacDefs} {now : ℤ} {sessionNmk : ℕ} {source : MacAddress}
  {matching next : MatchingState} {message : ReceivedMessage} {outputs : List SlacOutput}

/-- The car has a complete session. -/
def HasComplete (matching : MatchingState) (evMac : MacAddress) : Prop :=
  ∃ session ∈ matching.sessions, session.state = .matchComplete ∧ session.evMac = evMac

/-- A complete session is seen by the next callback, since its timeout is active. -/
theorem Valid.isComplete (h : matching.Valid) {session : MatchingSession}
    (hMem : session ∈ matching.sessions) (hState : session.state = .matchComplete) :
    session.isComplete = true := by
  have hActive := (h.watched session hMem).active (by simp [hState])
  simp [MatchingSession.isComplete, hActive, hState]

/-- A callback that returns no `MATCH_COMPLETE` has seen no complete session. -/
theorem Called.not_hasComplete {result : CallbackResult}
    (h : Called defs now matching (next, outputs, result)) (hValid : matching.Valid)
    (hResult : result ≠ .event .matchComplete) (evMac : MacAddress) :
    ¬ matching.HasComplete evMac := by
  rintro ⟨session, hMem, hState, -⟩
  have hComplete := hValid.isComplete hMem hState
  cases h with
  | retries hUnseen =>
      have hNone : matching.sessions = [] := by
        by_contra hSome
        rw [hValid.seen.mpr hSome] at hUnseen
        cases hUnseen
      rw [hNone] at hMem
      cases hMem
  | stays _ _ _ hIncomplete =>
      rw [hIncomplete session hMem] at hComplete
      cases hComplete
  | completes => exact hResult rfl
  | fails _ before after hSessions hIncomplete hFailed =>
      rw [hSessions] at hMem
      rcases List.mem_append.mp hMem with hBefore | hAfter
      · rw [hIncomplete session hBefore] at hComplete
        cases hComplete
      · rw [hFailed session hAfter] at hState
        cases hState

/-- A complete session stays as it is while the key is kept private. -/
theorem Handled.hasComplete
    (h : Handled defs now sessionNmk source matching message next outputs)
    (hPrivate : matching.keepsKeyPrivate (.slacMessage source message) = true)
    {evMac : MacAddress} (hComplete : matching.HasComplete evMac) : next.HasComplete evMac := by
  obtain ⟨session, hMem, hState, hMac⟩ := hComplete
  suffices hStays : session ∈ next.sessions from ⟨session, hStays, hState, hMac⟩
  cases h with
  | ignored | validated => exact hMem
  | created => exact List.mem_append_left _ hMem
  | restarted runId before after old hSessions hOld =>
      have hKey := MatchingSession.isIdentifiedBy_iff.mp hOld
      have hOther : session ≠ old := by
        rintro rfl
        have hKeeps := List.all_eq_true.mp hPrivate session hMem
        simp [hState, hKey] at hKeeps
      rw [hSessions, mem_middle] at hMem
      exact mem_middle.mpr (.inr (hMem.resolve_left hOther))
  | changed _ before after old new _ hSessions hChange =>
      have hOther : session ≠ old := by
        rintro rfl
        cases hChange <;> simp_all
      rw [hSessions, mem_middle] at hMem
      exact mem_middle.mpr (.inr (hMem.resolve_left hOther))

/-- While the key is kept private, only a car with a complete session can get it again. -/
theorem eq_of_hasComplete {request : CmSlacMatchReq} (hPrivate : matching.keepsKeyPrivate
      (.slacMessage source (.cmSlacMatchReq request)) = true)
    {old : MatchingSession} (hOld : old ∈ matching.sessions) (hKey : old.key = (source, request.runId))
    (hState : old.state = .waitForSlacMatch) {evMac : MacAddress}
    (hComplete : matching.HasComplete evMac) : evMac = source := by
  obtain ⟨session, hMem, hSession, rfl⟩ := hComplete
  have hKeeps := List.all_eq_true.mp hPrivate session hMem
  simp only [hSession, ne_eq, not_true_eq_false, decide_false, Bool.false_or, Bool.or_eq_true,
    decide_eq_true_eq] at hKeeps
  rcases hKeeps with hSame | hNone
  · exact hSame.symm
  · have hWaits := List.all_eq_true.mp hNone old hOld
    simp [hKey, hState] at hWaits

end MatchingState

namespace SlacMachine

/-- The step leaves the key with the car that has it. -/
def keepsKeyPrivate (s : SlacMachine) (input : SlacInput) : Bool :=
  match s.state with
  | .matching matching => matching.keepsKeyPrivate input.event
  | _ => true

/-- The machine is matched, or the car has a complete session. -/
def Holds (s : SlacMachine) (evMac : MacAddress) : Prop :=
  s.state = .matched ∨ ∃ matching, s.state = .matching matching ∧ matching.HasComplete evMac

theorem holds_iff_hasComplete {s : SlacMachine} {matching : MatchingState}
    (hState : s.state = .matching matching) {evMac : MacAddress} :
    s.Holds evMac ↔ matching.HasComplete evMac := by
  simp [Holds, hState]

/-- No two cars have the same key, and who has the key of the machine is matched with it. -/
structure KeyKept (s : SlacMachine) : Prop where
  valid : ∀ matching, s.state = .matching matching → matching.Valid
  generated : ∀ evMac nmk, HasKey s.history evMac nmk → nmk ≤ s.sessionNmk
  unique : ∀ evMac other nmk, HasKey s.history evMac nmk → HasKey s.history other nmk →
    evMac = other
  holds : ∀ evMac, HasKey s.history evMac s.sessionNmk → s.Holds evMac

variable {defs : SlacDefs} {setKeyTimeoutMs now : ℤ} {s next : SlacMachine}

/-- Steps that hand out no key. -/
theorem KeyKept.of_none (h : s.KeyKept) {entries : List SlacEntry}
    (hValid : ∀ matching, next.state = .matching matching → matching.Valid)
    (hHistory : next.history = s.history ++ entries)
    (hNone : ∀ entry ∈ entries, entry.handsOut = none)
    (hKey : s.sessionNmk ≤ next.sessionNmk)
    (hHolds : next.sessionNmk = s.sessionNmk → ∀ evMac, s.Holds evMac → next.Holds evMac) :
    next.KeyKept := by
  have hSame (evMac : MacAddress) (nmk : ℕ) :
      HasKey next.history evMac nmk ↔ HasKey s.history evMac nmk := by
    rw [hHistory]
    exact hasKey_append_of_none hNone
  constructor
  · exact hValid
  · intro evMac nmk hHas
    exact (h.generated evMac nmk ((hSame evMac nmk).mp hHas)).trans hKey
  · intro evMac other nmk hHas hOther
    exact h.unique evMac other nmk ((hSame evMac nmk).mp hHas) ((hSame other nmk).mp hOther)
  · intro evMac hHas
    have hOld := (hSame evMac _).mp hHas
    have hEq := le_antisymm (h.generated evMac _ hOld) hKey
    exact hHolds hEq evMac (h.holds evMac (hEq ▸ hOld))

/-- A car gets the key of the machine, which nobody else has. -/
theorem KeyKept.of_handsOut (h : s.KeyKept) {entries : List SlacEntry} (source : MacAddress)
    (hValid : ∀ matching, next.state = .matching matching → matching.Valid)
    (hHistory : next.history = s.history ++ entries)
    (hEntries : ∀ evMac nmk, HasKey entries evMac nmk → evMac = source ∧ nmk = s.sessionNmk)
    (hKey : next.sessionNmk = s.sessionNmk) (hSource : next.Holds source)
    (hHolder : ∀ evMac, s.Holds evMac → evMac = source) : next.KeyKept := by
  have hCases (evMac : MacAddress) (nmk : ℕ) (hHas : HasKey next.history evMac nmk) :
      HasKey s.history evMac nmk ∨ evMac = source ∧ nmk = s.sessionNmk := by
    rw [hHistory, hasKey_append] at hHas
    exact hHas.imp_right (hEntries evMac nmk)
  have hCurrent (evMac : MacAddress) (hHas : HasKey next.history evMac s.sessionNmk) :
      evMac = source := by
    rcases hCases evMac _ hHas with hOld | ⟨rfl, -⟩
    · exact hHolder evMac (h.holds evMac hOld)
    · rfl
  constructor
  · exact hValid
  · intro evMac nmk hHas
    rw [hKey]
    rcases hCases evMac nmk hHas with hOld | ⟨-, rfl⟩
    · exact h.generated evMac nmk hOld
    · exact le_rfl
  · intro evMac other nmk hHas hOther
    by_cases hNmk : nmk = s.sessionNmk
    · subst hNmk
      rw [hCurrent evMac hHas, hCurrent other hOther]
    · have hOld := (hCases evMac nmk hHas).resolve_right fun hNew => hNmk hNew.2
      have hOldOther := (hCases other nmk hOther).resolve_right fun hNew => hNmk hNew.2
      exact h.unique evMac other nmk hOld hOldOther
  · intro evMac hHas
    rw [hKey] at hHas
    rw [hCurrent evMac hHas]
    exact hSource

theorem KeyKept.note (h : s.KeyKept) (event : SlacEvent) : (s.note event).KeyKept :=
  h.of_none h.valid rfl (by simp [SlacEntry.handsOut]) le_rfl fun _ _ => id

theorem KeyKept.emit (h : s.KeyKept) {outputs : List SlacOutput}
    (hPlain : ∀ output ∈ outputs, (SlacEntry.output output).isPlain = true) :
    (s.emit outputs).KeyKept := by
  refine h.of_none h.valid rfl ?_ le_rfl fun _ _ => id
  rw [List.forall_mem_map]
  exact fun output hOutput => SlacEntry.handsOut_of_isPlain (hPlain output hOutput)

theorem handsOut_enteringOutputs (sessionNmk : ℕ) (name : SlacStateName) :
    ∀ entry ∈ (enteringOutputs sessionNmk name).map SlacEntry.output, entry.handsOut = none := by
  cases name <;> simp [enteringOutputs, SlacEntry.handsOut]

/-- Another state is entered. The matched state is left with a new key, and the others
must not be left with a complete session. -/
theorem KeyKept.goTo (h : s.KeyKept) (name : SlacStateName)
    (hHolds : s.state ≠ .matched → name ≠ .matched → ∀ evMac, ¬ s.Holds evMac) :
    (s.goTo defs setKeyTimeoutMs now name).KeyKept := by
  have hHistory := goTo_history defs setKeyTimeoutMs now s name
  rw [List.append_assoc] at hHistory
  refine h.of_none ?_ hHistory ?_ ?_ ?_
  · intro matching hState
    rw [goTo_state] at hState
    cases name with
    | matching =>
        cases hState
        exact MatchingState.valid_enter defs now
    | reset | idle | matched | failed => cases hState
  · rw [List.forall_mem_append]
    refine ⟨?_, handsOut_enteringOutputs _ name⟩
    split <;> simp [SlacEntry.handsOut]
  · rw [goTo_sessionNmk]
    split
    · exact Nat.le_succ _
    · exact le_rfl
  · intro hKey evMac hHolder
    rw [goTo_sessionNmk] at hKey
    have hLeft : s.state ≠ .matched := by
      intro hMatched
      rw [if_pos hMatched] at hKey
      exact Nat.succ_ne_self _ hKey
    by_cases hName : name = .matched
    · exact .inl (by rw [goTo_state, hName]; rfl)
    · exact absurd hHolder (hHolds hLeft hName evMac)

theorem KeyKept.stay_of_isPlain (h : s.KeyKept) {matching matching' : MatchingState}
    (hState : s.state = .matching matching) (hValid : matching'.Valid)
    {outputs : List SlacOutput}
    (hPlain : ∀ output ∈ outputs, (SlacEntry.output output).isPlain = true)
    (hComplete : ∀ evMac, matching.HasComplete evMac → matching'.HasComplete evMac)
    (feedResult : FeedResult) : (s.stay matching' outputs feedResult).KeyKept := by
  refine h.of_none ?_ rfl ?_ le_rfl ?_
  · rintro _ ⟨⟩
    exact hValid
  · rw [List.forall_mem_map]
    exact fun output hOutput => SlacEntry.handsOut_of_isPlain (hPlain output hOutput)
  · intro _ evMac hHolds
    rw [holds_iff_hasComplete hState] at hHolds
    exact (holds_iff_hasComplete rfl).mpr (hComplete evMac hHolds)

theorem keepsKeyPrivate_matching {input : SlacInput} (h : s.keepsKeyPrivate input = true)
    {matching : MatchingState} (hState : s.state = .matching matching) :
    matching.keepsKeyPrivate input.event = true := by
  simpa [keepsKeyPrivate, hState] using h

theorem not_holds_of_reset {input : SlacInput} (hPrivate : s.keepsKeyPrivate input = true)
    (hEvent : input.event = .reset) (hMatched : s.state ≠ .matched) (evMac : MacAddress) :
    ¬ s.Holds evMac := by
  rintro (hState | ⟨matching, hState, session, hMem, hComplete, -⟩)
  · exact hMatched hState
  · have hMatching := keepsKeyPrivate_matching hPrivate hState
    have hKeeps := List.all_eq_true.mp hMatching session hMem
    simp [hEvent, hComplete] at hKeeps

/-- A message that is handled while the key is kept private. -/
theorem KeyKept.handles (h : s.KeyKept) {matching matching' : MatchingState}
    {source : MacAddress} {message : ReceivedMessage} {outputs : List SlacOutput}
    (hState : s.state = .matching matching)
    (hPrivate : matching.keepsKeyPrivate (.slacMessage source message) = true)
    (hHandled : matching.Handled defs now s.sessionNmk source message matching' outputs)
    (feedResult : FeedResult) : (s.stay matching' outputs feedResult).KeyKept := by
  have hValid := hHandled.valid (h.valid matching hState)
  have hStays : ∀ evMac, matching.HasComplete evMac → matching'.HasComplete evMac :=
    fun evMac => hHandled.hasComplete hPrivate
  cases hHandled with
  | changed _ before after old new _ hSessions hChange =>
      cases hChange with
      | completes request hMac hRun hWaits =>
          have hOld : old ∈ matching.sessions := by simp [hSessions]
          refine h.of_handsOut source ?_ rfl ?_ rfl ?_ ?_
          · rintro _ ⟨⟩
            exact hValid
          · simp [HasKey, SlacEntry.handsOut]
          · rw [holds_iff_hasComplete (stay_state _ _ _ _)]
            exact ⟨_, mem_middle.mpr (.inl rfl), rfl, hMac⟩
          · intro evMac hHolds
            rw [holds_iff_hasComplete hState] at hHolds
            exact MatchingState.eq_of_hasComplete hPrivate hOld (Prod.ext hMac hRun) hWaits hHolds
      | _ =>
          refine h.stay_of_isPlain hState hValid ?_ hStays feedResult
          simp [SlacEntry.isPlain, MatchingSession.finalizeSounding,
            MatchingSession.createCmAttenCharInd]
  | ignored | validated | created | restarted =>
      exact h.stay_of_isPlain hState hValid (by simp [SlacEntry.isPlain]) hStays feedResult

theorem keyKept_step {input : SlacInput} (h : s.KeyKept)
    (hPrivate : s.keepsKeyPrivate input = true) :
    (s.step defs setKeyTimeoutMs input).KeyKept := by
  have hNoted := h.note input.event
  have hNotIn (hMatched : s.state ≠ .matched) (hMatching : ∀ matching, s.state ≠ .matching matching)
      (evMac : MacAddress) : ¬ (s.note input.event).Holds evMac := by
    rintro (hState | ⟨matching, hState, -⟩)
    · exact hMatched hState
    · exact hMatching matching hState
  have hEffect := step_effect defs setKeyTimeoutMs s input
  generalize s.step defs setKeyTimeoutMs input = next at hEffect ⊢
  cases hEffect with
  | unmoved =>
      exact hNoted.of_none hNoted.valid (List.append_nil _).symm (by simp) le_rfl fun _ _ => id
  | resets hEvent =>
      exact hNoted.goTo .reset fun hMatched _ => not_holds_of_reset hPrivate hEvent hMatched
  | idles hState => exact hNoted.goTo .idle fun _ _ => hNotIn (by simp [hState]) (by simp [hState])
  | startsMatching hState =>
      exact hNoted.goTo .matching fun _ _ => hNotIn (by simp [hState]) (by simp [hState])
  | handles matching matching' source message outputs hState hEvent hHandled =>
      have hMatching := keepsKeyPrivate_matching hPrivate hState
      rw [hEvent] at hMatching
      exact hNoted.handles hState hMatching hHandled .eventHandledInternally
  | waits matching matching' outputs callBackMs feedResult hState hEvent hCalled =>
      have hOld := h.valid matching hState
      exact hNoted.stay_of_isPlain hState (hCalled.valid hOld) hCalled.isPlain
        (fun evMac hComplete => absurd hComplete (hCalled.not_hasComplete hOld nofun evMac)) feedResult
  | retries matching matching' hState hEvent hUnseen hNext =>
      have hOld := h.valid matching hState
      refine hNoted.stay_of_isPlain hState (hOld.of_sessions_eq hNext.1 hNext.2) (by simp) ?_ _
      simp [MatchingState.HasComplete, hNext.1]
  | completes matching left outputs hState hEvent hCalled =>
      exact (hNoted.emit hCalled.isPlain).goTo .matched fun _ hName => absurd rfl hName
  | fails matching left outputs event hIncomplete hState hEvent hCalled =>
      refine (hNoted.emit hCalled.isPlain).goTo .failed fun _ _ evMac hHolds => ?_
      have hResult : CallbackResult.event event ≠ .event .matchComplete := by simpa using hIncomplete
      have hEmitted : ((s.note input.event).emit outputs).state = .matching matching := hState
      rw [holds_iff_hasComplete hEmitted] at hHolds
      exact hCalled.not_hasComplete (h.valid matching hState) hResult evMac hHolds

variable (defs setKeyTimeoutMs)

theorem keyKept_start : (start defs setKeyTimeoutMs).KeyKept := by
  have hNone (evMac : MacAddress) (nmk : ℕ) :
      ¬ HasKey (start defs setKeyTimeoutMs).history evMac nmk := by
    simp [HasKey, start, enter, emit, SlacEntry.handsOut]
  constructor
  · intro matching hMatching
    cases hMatching
  · exact fun evMac nmk hHas => absurd hHas (hNone evMac nmk)
  · exact fun evMac _ nmk hHas => absurd hHas (hNone evMac nmk)
  · exact fun evMac hHas => absurd hHas (hNone evMac _)

/-- A network key is shared with one car only, in every run in which a complete session is
left alone until the callback has seen it. -/
theorem keys_private_of_keepsKeyPrivate (inputs : List SlacInput)
    (hPrivate : EveryStep (step defs setKeyTimeoutMs)
      (fun s input => s.keepsKeyPrivate input = true) (start defs setKeyTimeoutMs) inputs) :
    KeysPrivate (run (step defs setKeyTimeoutMs) (start defs setKeyTimeoutMs) inputs).history := by
  have hKept : KeyKept (run (step defs setKeyTimeoutMs) (start defs setKeyTimeoutMs) inputs) :=
    run_invariant_of_everyStep KeyKept (keyKept_start defs setKeyTimeoutMs)
      (fun _ _ => keyKept_step) inputs hPrivate
  rintro evMac other nmk _ hHas hOther hDiffer rfl
  exact hDiffer (hKept.unique evMac other nmk hHas hOther)

/-- The messages of a car from its first request to the result of the sounding, which its
timeout ends. -/
def sequenceInputs (evMac : MacAddress) (now : ℤ) : List SlacInput :=
  [⟨now, .slacMessage evMac (.cmSlacParmReq 1)⟩,
    ⟨now, .slacMessage evMac (.cmStartAttenCharInd 1)⟩,
    ⟨now + milliseconds 600, .callback⟩,
    ⟨now + milliseconds 600, .slacMessage evMac (.cmAttenCharRsp 1)⟩]

/-- Two cars, the second one after the machine was reset from its matched state. -/
theorem keys_private_two_cars :
    ∃ inputs, HasKey (run (step .standard 500) (start .standard 500) inputs).history 1 1 ∧
      HasKey (run (step .standard 500) (start .standard 500) inputs).history 2 2 ∧
      KeysPrivate (run (step .standard 500) (start .standard 500) inputs).history :=
  let inputs : List SlacInput :=
    [⟨0, .slacMessage plcPeerMac .cmSetKeyCnf⟩, ⟨0, .enterBcd⟩] ++ sequenceInputs 1 0 ++
    [⟨milliseconds 600, .slacMessage 1 (.cmSlacMatchReq { runId := 1 })⟩,
      ⟨milliseconds 600, .callback⟩, ⟨milliseconds 700, .reset⟩,
      ⟨milliseconds 700, .slacMessage plcPeerMac .cmSetKeyCnf⟩, ⟨milliseconds 700, .enterBcd⟩] ++
    sequenceInputs 2 (milliseconds 800) ++
    [⟨milliseconds 1400, .slacMessage 2 (.cmSlacMatchReq { runId := 1 })⟩]
  ⟨inputs, ⟨.output (.send 1 (.cmSlacMatchCnf { runId := 1 } 1)), by decide, rfl⟩,
    ⟨.output (.send 2 (.cmSlacMatchCnf { runId := 1 } 2)), by decide, rfl⟩,
    keys_private_of_keepsKeyPrivate .standard 500 inputs (by decide)⟩

/-- Two cars that ask for the key before the callback has seen the first one. -/
theorem keys_shared_by_two_cars :
    ¬ ∀ inputs, KeysPrivate
      (run (step .standard 500) (start .standard 500) inputs).history := by
  intro h
  let inputs : List SlacInput :=
    [⟨0, .slacMessage plcPeerMac .cmSetKeyCnf⟩, ⟨0, .enterBcd⟩] ++ sequenceInputs 1 0 ++
    sequenceInputs 2 (milliseconds 700) ++
    [⟨milliseconds 1400, .slacMessage 1 (.cmSlacMatchReq { runId := 1 })⟩,
      ⟨milliseconds 1400, .slacMessage 2 (.cmSlacMatchReq { runId := 1 })⟩]
  have hFirst : HasKey (run (step .standard 500) (start .standard 500) inputs).history 1 1 :=
    ⟨.output (.send 1 (.cmSlacMatchCnf { runId := 1 } 1)), by decide +kernel, rfl⟩
  have hSecond : HasKey (run (step .standard 500) (start .standard 500) inputs).history 2 1 :=
    ⟨.output (.send 2 (.cmSlacMatchCnf { runId := 1 } 1)), by decide +kernel, rfl⟩
  exact h inputs 1 2 1 1 hFirst hSecond (by decide) rfl

end SlacMachine

end EverestCore.Slac
