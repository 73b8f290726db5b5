import EverestCore.Slac.Timeouts

/-! Cars that are matching at the same time. What the module sends to a car, and what it
keeps of its sessions, follows from the messages of that car and the times of the
callbacks alone. -/
namespace EverestCore.Slac
open Machine

section FirstMatch

variable {α : Type*} {p keep : α → Bool} {entries : List α} {new : α}

/-- Replacing an entry that is kept. -/
theorem filter_lookmap_of_keeps (hKeep : ∀ entry, p entry = true → keep entry = true)
    (hNew : keep new = true) :
    (entries.lookmap fun other => if p other then some new else none).filter keep =
      (entries.filter keep).lookmap fun other => if p other then some new else none := by
  induction entries with
  | nil => rfl
  | cons first rest ih =>
      by_cases hFirst : p first = true
      · simp [hFirst, hNew, hKeep first hFirst]
      · by_cases hKept : keep first = true
        · simp [hFirst, hKept, ih]
        · simp [hFirst, hKept, ih]

/-- Replacing an entry that is not kept. -/
theorem filter_lookmap_of_drops (hDrop : ∀ entry, p entry = true → keep entry = false)
    (hNew : keep new = false) :
    (entries.lookmap fun other => if p other then some new else none).filter keep =
      entries.filter keep := by
  induction entries with
  | nil => rfl
  | cons first rest ih =>
      by_cases hFirst : p first = true
      · simp [hFirst, hNew, hDrop first hFirst]
      · simp [hFirst, List.filter_cons, ih]

theorem find?_filter_of_keeps (hKeep : ∀ entry, p entry = true → keep entry = true) :
    (entries.filter keep).find? p = entries.find? p := by
  rw [List.find?_filter]
  congr 1
  funext entry
  cases hEntry : p entry with
  | true => simp [hKeep entry hEntry]
  | false => simp

end FirstMatch

/-- The messages that are sent to a car. -/
def sentTo (evMac : MacAddress) (outputs : List SlacOutput) : List SentMessage :=
  outputs.filterMap fun
    | .send destination message => if destination = evMac then some message else none
    | _ => none

theorem sentTo_append (evMac : MacAddress) (first second : List SlacOutput) :
    sentTo evMac (first ++ second) = sentTo evMac first ++ sentTo evMac second :=
  List.filterMap_append

theorem MatchingSession.Settled.sentTo_of_ne {defs : SlacDefs} {now : ℤ}
    {old new : MatchingSession} {outputs : List SlacOutput} (h : Settled defs now old new outputs)
    {evMac : MacAddress} (hMac : old.evMac ≠ evMac) : sentTo evMac outputs = [] := by
  cases h <;> simp [sentTo, hMac]

namespace MatchingState

variable (defs : SlacDefs) (now : ℤ) (sessionNmk : ℕ) (evMac source : MacAddress)
  (matching : MatchingState)

/-- The sessions of a car. -/
def sessionsOf : List MatchingSession := matching.sessions.filter (·.evMac = evMac)

/-- A state with these sessions. -/
def withSessions (sessions : List MatchingSession) : MatchingState :=
  { sessions := sessions, timeoutSlacParmReq := 0 }

/-- A state with the sessions of one car only. -/
def restrict : MatchingState := withSessions (matching.sessionsOf evMac)

/-- Two ways to handle a message agree in what the car gets to see. -/
def SameFor (first second : MatchingState × List SlacOutput) : Prop :=
  first.1.sessionsOf evMac = second.1.sessionsOf evMac ∧
    sentTo evMac first.2 = sentTo evMac second.2

theorem sessionsOf_restrict :
    (matching.restrict evMac).sessionsOf evMac = matching.sessionsOf evMac := by
  simp [restrict, withSessions, sessionsOf]

theorem findSession_restrict (runId : RunId) :
    (matching.restrict evMac).findSession evMac runId = matching.findSession evMac runId := by
  apply find?_filter_of_keeps
  simp [MatchingSession.isIdentifiedBy]

theorem sessionsOf_replaceSession (runId : RunId) {session : MatchingSession}
    (hMac : session.evMac = evMac) :
    (matching.replaceSession evMac runId session).sessionsOf evMac =
      ((matching.restrict evMac).replaceSession evMac runId session).sessionsOf evMac := by
  have hKeep : ∀ other : MatchingSession, other.isIdentifiedBy evMac runId = true →
      decide (other.evMac = evMac) = true := by
    simp [MatchingSession.isIdentifiedBy]
  have hNew : decide (session.evMac = evMac) = true := by simp [hMac]
  simp only [sessionsOf, replaceSession, restrict, withSessions]
  rw [filter_lookmap_of_keeps hKeep hNew, filter_lookmap_of_keeps hKeep hNew, List.filter_filter]
  simp only [Bool.and_self]

theorem sessionsOf_replaceSession_of_ne (runId : RunId) {session : MatchingSession}
    (hMac : session.evMac = source) (hOther : source ≠ evMac) :
    (matching.replaceSession source runId session).sessionsOf evMac =
      matching.sessionsOf evMac := by
  apply filter_lookmap_of_drops
  · intro other hId
    simp only [MatchingSession.isIdentifiedBy, Bool.and_eq_true, beq_iff_eq] at hId
    simpa [hId.2] using hOther
  · simpa [hMac] using hOther

variable {defs now sessionNmk evMac source matching}

theorem sameFor_inState {runId : RunId} {expected : MatchingSubState}
    {handle : MatchingSession → MatchingSession × List SlacOutput}
    (hMac : ∀ session, (handle session).1.evMac = session.evMac) :
    SameFor evMac (matching.handleInState evMac runId expected handle)
      ((matching.restrict evMac).handleInState evMac runId expected handle) := by
  unfold handleInState
  rw [findSession_restrict]
  cases hFound : matching.findSession evMac runId with
  | none => exact ⟨(matching.sessionsOf_restrict evMac).symm, rfl⟩
  | some session =>
      have hId := List.find?_some hFound
      simp only [MatchingSession.isIdentifiedBy, Bool.and_eq_true, beq_iff_eq] at hId
      dsimp only
      split
      · exact ⟨(matching.sessionsOf_restrict evMac).symm, rfl⟩
      · exact ⟨sessionsOf_replaceSession evMac matching runId ((hMac session).trans hId.2), rfl⟩

/-- A message of another car that belongs to one of its sessions. -/
theorem sameFor_inState_of_ne {runId : RunId} {expected : MatchingSubState}
    {handle : MatchingSession → MatchingSession × List SlacOutput} (hOther : source ≠ evMac)
    (hMac : ∀ session, (handle session).1.evMac = session.evMac)
    (hSent : ∀ session, session.evMac = source → sentTo evMac (handle session).2 = []) :
    SameFor evMac (matching.handleInState source runId expected handle) (matching, []) := by
  unfold handleInState
  cases hFound : matching.findSession source runId with
  | none => exact ⟨rfl, rfl⟩
  | some session =>
      have hId := List.find?_some hFound
      simp only [MatchingSession.isIdentifiedBy, Bool.and_eq_true, beq_iff_eq] at hId
      dsimp only
      split
      · exact ⟨rfl, rfl⟩
      · exact ⟨sessionsOf_replaceSession_of_ne evMac source matching runId
          ((hMac session).trans hId.2) hOther, hSent session hId.2⟩

theorem sameFor_cmSlacParmReq (runId : RunId) :
    SameFor evMac (matching.handleCmSlacParmReq defs now evMac runId)
      ((matching.restrict evMac).handleCmSlacParmReq defs now evMac runId) := by
  have hFind : findSession { matching.restrict evMac with seenSlacParmReq := true } evMac runId =
      findSession { matching with seenSlacParmReq := true } evMac runId :=
    matching.findSession_restrict evMac runId
  unfold handleCmSlacParmReq
  dsimp only
  rw [hFind]
  cases findSession { matching with seenSlacParmReq := true } evMac runId with
  | none =>
      refine ⟨?_, rfl⟩
      simp [sessionsOf, restrict, withSessions]
  | some session =>
      exact ⟨sessionsOf_replaceSession evMac { matching with seenSlacParmReq := true } runId rfl,
        rfl⟩

theorem sameFor_cmSlacParmReq_of_ne (hOther : source ≠ evMac) (runId : RunId) :
    SameFor evMac (matching.handleCmSlacParmReq defs now source runId) (matching, []) := by
  unfold handleCmSlacParmReq
  dsimp only
  cases findSession { matching with seenSlacParmReq := true } source runId with
  | none => exact ⟨by simp [sessionsOf, hOther], by simp [sentTo, hOther]⟩
  | some session =>
      exact ⟨sessionsOf_replaceSession_of_ne evMac source { matching with seenSlacParmReq := true }
        runId rfl hOther, by simp [sentTo, hOther]⟩

/-- Replacing the last session of a car. -/
theorem sessionsOf_replaceLast {new : MatchingSession} (hMac : new.evMac = evMac) :
    sessionsOf evMac { matching with
        sessions := (matching.sessions.reverse.lookmap fun other =>
          if other.evMac == evMac then some new else none).reverse } =
      sessionsOf evMac { matching.restrict evMac with
        sessions := ((matching.restrict evMac).sessions.reverse.lookmap fun other =>
          if other.evMac == evMac then some new else none).reverse } := by
  have hKeep : ∀ other : MatchingSession, (other.evMac == evMac) = true →
      decide (other.evMac = evMac) = true := by
    simp
  have hNew : decide (new.evMac = evMac) = true := by simp [hMac]
  simp only [sessionsOf, restrict, withSessions, List.filter_reverse]
  rw [filter_lookmap_of_keeps hKeep hNew, filter_lookmap_of_keeps hKeep hNew]
  simp only [List.filter_reverse, List.filter_filter, Bool.and_self]

theorem sameFor_cmAttenProfileInd (numGroups : ℕ) (aag : List ℕ) :
    SameFor evMac (matching.handleCmAttenProfileInd defs now evMac numGroups aag)
      ((matching.restrict evMac).handleCmAttenProfileInd defs now evMac numGroups aag) := by
  have hFind : (matching.restrict evMac).sessions.reverse.find? (·.evMac == evMac) =
      matching.sessions.reverse.find? (·.evMac == evMac) := by
    rw [restrict, withSessions, sessionsOf, ← List.filter_reverse]
    apply find?_filter_of_keeps
    simp
  have hRest := (matching.sessionsOf_restrict evMac).symm
  unfold handleCmAttenProfileInd
  rw [hFind]
  cases hFound : matching.sessions.reverse.find? (·.evMac == evMac) with
  | none => exact ⟨hRest, rfl⟩
  | some session =>
      have hMac : session.evMac = evMac := by simpa using List.find?_some hFound
      dsimp only
      split
      · exact ⟨hRest, rfl⟩
      · split
        · exact ⟨hRest, rfl⟩
        · split
          · exact ⟨sessionsOf_replaceLast hMac, rfl⟩
          · exact ⟨sessionsOf_replaceLast hMac, rfl⟩

/-- The profile of another car. -/
theorem sameFor_cmAttenProfileInd_of_ne {pevMac : MacAddress} (hOther : pevMac ≠ evMac)
    (numGroups : ℕ) (aag : List ℕ) :
    SameFor evMac (matching.handleCmAttenProfileInd defs now pevMac numGroups aag)
      (matching, []) := by
  have hReplaced (new : MatchingSession) (hMac : new.evMac = pevMac) :
      sessionsOf evMac { matching with
        sessions := (matching.sessions.reverse.lookmap fun other =>
          if other.evMac == pevMac then some new else none).reverse } =
        matching.sessionsOf evMac := by
    rw [sessionsOf, List.filter_reverse, filter_lookmap_of_drops, List.filter_reverse,
      List.reverse_reverse, sessionsOf]
    · intro other hOtherMac
      rw [beq_iff_eq] at hOtherMac
      simpa [hOtherMac] using hOther
    · simpa [hMac] using hOther
  unfold handleCmAttenProfileInd
  cases hFound : matching.sessions.reverse.find? (·.evMac == pevMac) with
  | none => exact ⟨rfl, rfl⟩
  | some session =>
      have hMac : session.evMac = pevMac := by simpa using List.find?_some hFound
      dsimp only
      split
      · exact ⟨rfl, rfl⟩
      · split
        · exact ⟨rfl, rfl⟩
        · split
          · exact ⟨hReplaced _ hMac, rfl⟩
          · refine ⟨hReplaced _ hMac, ?_⟩
            simp [MatchingSession.finalizeSounding, sentTo, hMac, hOther]

end MatchingState

/-- The message concerns the car: it comes from it, or brings its profile. -/
def concernsCar (evMac source : MacAddress) (message : ReceivedMessage) : Bool :=
  source = evMac ||
    match message with
    | .cmAttenProfileInd pevMac _ _ => pevMac = evMac
    | _ => false

namespace MatchingState

variable {defs : SlacDefs} {now : ℤ} {sessionNmk : ℕ} {evMac source : MacAddress}
  {matching : MatchingState} {message : ReceivedMessage}

/-- A message that concerns the car is handled as if there were no others. -/
theorem sameFor_restrict (h : concernsCar evMac source message = true) :
    SameFor evMac (matching.handleSlacMessage defs now sessionNmk source message)
      ((matching.restrict evMac).handleSlacMessage defs now sessionNmk source message) := by
  cases message with
  | cmAttenProfileInd pevMac numGroups aag =>
      by_cases hPev : pevMac = evMac
      · subst hPev
        exact sameFor_cmAttenProfileInd numGroups aag
      · have hFull : SameFor evMac _ _ :=
          @sameFor_cmAttenProfileInd_of_ne defs now evMac matching pevMac hPev numGroups aag
        have hAlone : SameFor evMac _ _ := @sameFor_cmAttenProfileInd_of_ne defs now evMac
          (matching.restrict evMac) pevMac hPev numGroups aag
        exact ⟨hFull.1.trans ((matching.sessionsOf_restrict evMac).symm.trans hAlone.1.symm),
          hFull.2.trans hAlone.2.symm⟩
  | cmSlacParmReq runId =>
      obtain rfl : source = evMac := by simpa [concernsCar] using h
      exact sameFor_cmSlacParmReq runId
  | cmStartAttenCharInd runId | cmMnbcSoundInd runId | cmAttenCharRsp runId | cmSlacMatchReq runId =>
      obtain rfl : source = evMac := by simpa [concernsCar] using h
      exact sameFor_inState fun _ => rfl
  | cmValidateReq | cmSetKeyCnf | other =>
      exact ⟨(matching.sessionsOf_restrict evMac).symm, rfl⟩

/-- A message that does not concern the car changes nothing for it. -/
theorem sameFor_of_not_concerns (h : concernsCar evMac source message = false) :
    SameFor evMac (matching.handleSlacMessage defs now sessionNmk source message)
      (matching, []) := by
  simp only [concernsCar, Bool.or_eq_false_iff, decide_eq_false_iff_not] at h
  obtain ⟨hSource, hProfile⟩ := h
  cases message with
  | cmAttenProfileInd pevMac numGroups aag =>
      exact sameFor_cmAttenProfileInd_of_ne (by simpa using hProfile) numGroups aag
  | cmSlacParmReq runId => exact sameFor_cmSlacParmReq_of_ne hSource runId
  | cmStartAttenCharInd runId | cmMnbcSoundInd runId | cmAttenCharRsp runId =>
      exact sameFor_inState_of_ne hSource (fun _ => rfl) fun _ _ => rfl
  | cmSlacMatchReq request =>
      exact sameFor_inState_of_ne hSource (fun _ => rfl) fun _ _ => by simp [sentTo, hSource]
  | cmValidateReq => exact ⟨rfl, by simp [handleSlacMessage, sentTo, hSource]⟩
  | cmSetKeyCnf | other => exact ⟨rfl, rfl⟩

/-- The callback looks at each session by itself. -/
theorem sessionsOf_settle (next : MatchingState)
    (hNext : next.sessions = matching.sessions.map fun session => (session.settle defs now).1) :
    next.sessionsOf evMac =
      (matching.sessionsOf evMac).map fun session => (session.settle defs now).1 := by
  rw [sessionsOf, hNext, List.filter_map, sessionsOf]
  congr 2
  funext session
  have hKey := congrArg Prod.fst (session.settled_settle defs now).key
  simp only [MatchingSession.key] at hKey
  simp [hKey]

/-- The settling of a session writes to its car only. -/
theorem sentTo_settle (sessions : List MatchingSession) :
    sentTo evMac (sessions.flatMap fun session => (session.settle defs now).2) =
      sentTo evMac ((sessions.filter (·.evMac = evMac)).flatMap fun session =>
        (session.settle defs now).2) := by
  induction sessions with
  | nil => rfl
  | cons session rest ih =>
      rw [List.flatMap_cons, sentTo_append, ih]
      by_cases hMac : session.evMac = evMac
      · rw [List.filter_cons_of_pos (by simpa using hMac), List.flatMap_cons, sentTo_append]
      · have hNone := (session.settled_settle defs now).sentTo_of_ne hMac
        rw [List.filter_cons_of_neg (by simpa using hMac), hNone, List.nil_append]

end MatchingState

/-- What a car has to do with: its sessions, and what was sent to it. -/
structure CarView where
  sessions : List MatchingSession
  sent : List SentMessage

/-- The message or the callback concerns the car. -/
def SlacInput.concerns (evMac : MacAddress) (input : SlacInput) : Bool :=
  match input.event with
  | .slacMessage source message => concernsCar evMac source message
  | .callback => true
  | .reset | .enterBcd | .leaveBcd => false

/-- A car that is alone with the module. Unlike there, nothing ends the matching. -/
def CarView.step (defs : SlacDefs) (sessionNmk : ℕ) (evMac : MacAddress) (view : CarView)
    (input : SlacInput) : CarView :=
  match input.event with
  | .slacMessage source message =>
      let (matching, outputs) := MatchingState.handleSlacMessage defs
        (.withSessions view.sessions) input.now sessionNmk source message
      ⟨matching.sessionsOf evMac, view.sent ++ sentTo evMac outputs⟩
  | .callback =>
      ⟨view.sessions.map fun session => (session.settle defs input.now).1,
        view.sent ++ sentTo evMac
          (view.sessions.flatMap fun session => (session.settle defs input.now).2)⟩
  | .reset | .enterBcd | .leaveBcd => view

/-- What was sent before is not looked at again. -/
theorem CarView.run_sent (defs : SlacDefs) (sessionNmk : ℕ) (evMac : MacAddress)
    (sessions : List MatchingSession) (earlier : List SentMessage) (inputs : List SlacInput) :
    run (CarView.step defs sessionNmk evMac) ⟨sessions, earlier⟩ inputs =
      ⟨(run (CarView.step defs sessionNmk evMac) ⟨sessions, []⟩ inputs).sessions,
        earlier ++ (run (CarView.step defs sessionNmk evMac) ⟨sessions, []⟩ inputs).sent⟩ := by
  induction inputs using List.reverseRecOn with
  | nil => simp
  | append_singleton inputs input ih =>
      rw [run_snoc, run_snoc, ih]
      generalize run (CarView.step defs sessionNmk evMac) ⟨sessions, []⟩ inputs = view
      obtain ⟨now, event⟩ := input
      cases event <;> simp [CarView.step]

namespace SlacMachine

variable {defs : SlacDefs} {setKeyTimeoutMs : ℤ} {evMac : MacAddress} {s : SlacMachine}

/-- The sessions of a car. -/
def sessionsOf (evMac : MacAddress) (s : SlacMachine) : List MatchingSession :=
  match s.state with
  | .matching matching => matching.sessionsOf evMac
  | _ => []

/-- The messages that were sent to a car. -/
def sentTo (evMac : MacAddress) (s : SlacMachine) : List SentMessage :=
  Slac.sentTo evMac (s.history.filterMap fun
    | .output output => some output
    | .input _ => none)

def carView (evMac : MacAddress) (s : SlacMachine) : CarView :=
  ⟨s.sessionsOf evMac, s.sentTo evMac⟩

theorem sessionsOf_of_state {matching : MatchingState} (hState : s.state = .matching matching) :
    s.sessionsOf evMac = matching.sessionsOf evMac := by
  rw [sessionsOf, hState]

theorem sentTo_note (event : SlacEvent) : (s.note event).sentTo evMac = s.sentTo evMac := by
  simp [sentTo, List.filterMap_append]

theorem sentTo_stay (matching : MatchingState) (outputs : List SlacOutput)
    (feedResult : FeedResult) :
    (s.stay matching outputs feedResult).sentTo evMac =
      s.sentTo evMac ++ Slac.sentTo evMac outputs := by
  simp only [sentTo, stay_history, List.filterMap_append, sentTo_append, List.filterMap_map]
  congr 2
  exact List.filterMap_some

/-- The machine is in the matching state. -/
def IsMatching (s : SlacMachine) : Prop := ∃ matching, s.state = .matching matching

instance (s : SlacMachine) : Decidable s.IsMatching :=
  match h : s.state with
  | .matching matching => isTrue ⟨matching, h⟩
  | .reset | .idle | .matched | .failed => isFalse fun ⟨_, hMatching⟩ => by simp [h] at hMatching

theorem carView_stay {event : SlacEvent} (matching : MatchingState) (outputs : List SlacOutput)
    (feedResult : FeedResult) :
    ((s.note event).stay matching outputs feedResult).carView evMac =
      ⟨matching.sessionsOf evMac, s.sentTo evMac ++ Slac.sentTo evMac outputs⟩ := by
  rw [carView, sentTo_stay, sentTo_note]
  rfl

/-- A message is seen by the car that it concerns, which it treats as if it were alone. -/
theorem carView_slacMessage {matching : MatchingState} (hState : s.state = .matching matching)
    (now : ℤ) (source : MacAddress) (message : ReceivedMessage) :
    (s.step defs setKeyTimeoutMs ⟨now, .slacMessage source message⟩).carView evMac =
      if concernsCar evMac source message then
        (s.carView evMac).step defs s.sessionNmk evMac ⟨now, .slacMessage source message⟩
      else s.carView evMac := by
  have hNoted : (s.note (.slacMessage source message)).state = .matching matching := hState
  simp only [step, feedEvent, hNoted]
  rw [carView_stay]
  cases hConcerns : concernsCar evMac source message with
  | true =>
      have hSame : MatchingState.SameFor evMac _ _ := @MatchingState.sameFor_restrict defs now
        s.sessionNmk evMac source matching message hConcerns
      rw [if_pos rfl, note_sessionNmk, hSame.1, hSame.2]
      simp only [CarView.step, carView, sessionsOf_of_state hState]
      rfl
  | false =>
      have hSame : MatchingState.SameFor evMac _ _ := @MatchingState.sameFor_of_not_concerns defs
        now s.sessionNmk evMac source matching message hConcerns
      rw [if_neg Bool.false_ne_true, note_sessionNmk, hSame.1, hSame.2, carView,
        sessionsOf_of_state hState]
      simp [Slac.sentTo]

/-- The callback treats the sessions of a car as if there were no others, as long as it
does not end the matching. -/
theorem carView_callback {matching : MatchingState} (hState : s.state = .matching matching)
    (hValid : matching.Valid) (now : ℤ)
    (hStays : (s.step defs setKeyTimeoutMs ⟨now, .callback⟩).IsMatching) :
    (s.step defs setKeyTimeoutMs ⟨now, .callback⟩).carView evMac =
      (s.carView evMac).step defs s.sessionNmk evMac ⟨now, .callback⟩ := by
  have hEffect := step_effect defs setKeyTimeoutMs s ⟨now, .callback⟩
  generalize s.step defs setKeyTimeoutMs ⟨now, .callback⟩ = next at hEffect hStays ⊢
  have hView : (s.carView evMac).step defs s.sessionNmk evMac ⟨now, .callback⟩ =
      ⟨(matching.sessionsOf evMac).map fun session => (session.settle defs now).1,
        s.sentTo evMac ++ Slac.sentTo evMac ((matching.sessionsOf evMac).flatMap fun session =>
          (session.settle defs now).2)⟩ := by
    simp only [CarView.step, carView, sessionsOf_of_state hState]
  rw [hView]
  cases hEffect with
  | unmoved _ hMatching => simpa using hMatching matching hState
  | resets hEvent => cases hEvent
  | idles hOther | startsMatching hOther =>
      rw [hState] at hOther
      cases hOther
  | handles _ _ _ _ _ _ hEvent => cases hEvent
  | waits matching' next outputs callBackMs feedResult hState' _ hCalled =>
      rw [hState] at hState'
      cases hState'
      rw [carView_stay]
      cases hCalled with
      | stays => rw [MatchingState.sessionsOf_settle _ rfl, MatchingState.sentTo_settle]; rfl
  | retries matching' next hState' _ hUnseen hNext =>
      rw [hState] at hState'
      cases hState'
      -- nobody has asked for the parameters yet, so there are no sessions
      have hNone : matching.sessions = [] := by
        by_contra hSome
        rw [hValid.seen.mpr hSome] at hUnseen
        cases hUnseen
      rw [carView_stay]
      simp [MatchingState.sessionsOf, hNext.1, hNone]
  | completes | fails =>
      obtain ⟨other, hOther⟩ := hStays
      rw [goTo_state] at hOther
      cases hOther

/-- The car sees the inputs that concern it, and those only. -/
theorem carView_step (hValid : ∀ matching, s.state = .matching matching → matching.Valid)
    (hMatching : s.IsMatching) (input : SlacInput)
    (hStays : (s.step defs setKeyTimeoutMs input).IsMatching) :
    (s.step defs setKeyTimeoutMs input).carView evMac =
      if input.concerns evMac then (s.carView evMac).step defs s.sessionNmk evMac input
      else s.carView evMac := by
  obtain ⟨matching, hState⟩ := hMatching
  obtain ⟨now, event⟩ := input
  cases event with
  | slacMessage source message => exact carView_slacMessage hState now source message
  | callback => exact carView_callback hState (hValid matching hState) now hStays
  | reset =>
      obtain ⟨other, hOther⟩ := hStays
      simp [step, feedEvent, entering] at hOther
  | enterBcd | leaveBcd =>
      simp [step, feedEvent, hState, SlacInput.concerns, carView, sessionsOf, sentTo]

/-- The key stays the same while the machine is matching. -/
theorem step_sessionNmk (hMatching : s.IsMatching) (input : SlacInput) :
    (s.step defs setKeyTimeoutMs input).sessionNmk = s.sessionNmk := by
  obtain ⟨matching, hState⟩ := hMatching
  have hEffect := step_effect defs setKeyTimeoutMs s input
  generalize s.step defs setKeyTimeoutMs input = next at hEffect ⊢
  cases hEffect with
  | unmoved | handles | waits | retries => rfl
  | resets | idles | startsMatching | completes | fails =>
      rw [goTo_sessionNmk, if_neg (by simp [hState])]
      rfl

variable (defs setKeyTimeoutMs)

/-- The run stays in the matching state. -/
def StaysMatching (s : SlacMachine) (inputs : List SlacInput) : Prop :=
  ∀ before, before <+: inputs → (run (step defs setKeyTimeoutMs) s before).IsMatching

instance (s : SlacMachine) (inputs : List SlacInput) :
    Decidable (StaysMatching defs setKeyTimeoutMs s inputs) :=
  decidable_of_iff
    (∀ before ∈ inputs.inits, (run (step defs setKeyTimeoutMs) s before).IsMatching)
    (by simp [StaysMatching])

variable {defs setKeyTimeoutMs}

/-- In a run that stays in the matching state, a car sees what it would see if it were
alone. -/
theorem carView_run {inputs : List SlacInput} {entered : ℤ}
    (hEntered : s.state = .matching (.enter defs entered))
    (hStays : StaysMatching defs setKeyTimeoutMs s inputs) :
    (run (step defs setKeyTimeoutMs) s inputs).carView evMac =
      run (CarView.step defs s.sessionNmk evMac) ⟨[], s.sentTo evMac⟩
        (inputs.filter (·.concerns evMac)) := by
  have hStart : s.carView evMac = ⟨[], s.sentTo evMac⟩ := by
    rw [carView, sessionsOf_of_state hEntered]
    rfl
  have hValid : ∀ before, before <+: inputs → ∀ matching,
      (run (step defs setKeyTimeoutMs) s before).state = .matching matching → matching.Valid := by
    intro before _
    apply run_invariant fun s : SlacMachine =>
      ∀ matching, s.state = .matching matching → matching.Valid
    · intro matching hState
      rw [hEntered] at hState
      cases hState
      exact MatchingState.valid_enter defs entered
    · exact fun s input hValid => valid_step defs setKeyTimeoutMs hValid input
  have hKey : ∀ before, before <+: inputs →
      (run (step defs setKeyTimeoutMs) s before).sessionNmk = s.sessionNmk := by
    intro before
    induction before using List.reverseRecOn with
    | nil => exact fun _ => rfl
    | append_singleton before input ih =>
        intro hPrefix
        have hBefore : before <+: inputs := (List.prefix_append _ _).trans hPrefix
        rw [run_snoc, step_sessionNmk (hStays before hBefore), ih hBefore]
  rw [← hStart]
  apply run_view (fun other : SlacMachine => other.IsMatching ∧
    (∀ matching, other.state = .matching matching → matching.Valid) ∧
      other.sessionNmk = s.sessionNmk) (carView evMac)
  · intro other input hOther hNext
    rw [carView_step hOther.2.1 hOther.1 input hNext.1, hOther.2.2]
  · exact fun before hPrefix => ⟨hStays before hPrefix, hValid before hPrefix, hKey before hPrefix⟩

/-- Cars that match at the same time do not disturb each other. Two runs that stay in the
matching state and agree in the messages that concern a car and in the callbacks send the
same messages to it and leave the same records of its sessions. -/
theorem cars_do_not_disturb (evMac : MacAddress) {first second : SlacMachine}
    {entered entered' : ℤ} (hFirst : first.state = .matching (.enter defs entered))
    (hSecond : second.state = .matching (.enter defs entered'))
    (hKey : first.sessionNmk = second.sessionNmk) {inputs inputs' : List SlacInput}
    (hStays : StaysMatching defs setKeyTimeoutMs first inputs)
    (hStays' : StaysMatching defs setKeyTimeoutMs second inputs')
    (hSame : inputs.filter (·.concerns evMac) = inputs'.filter (·.concerns evMac)) :
    (run (step defs setKeyTimeoutMs) first inputs).sessionsOf evMac =
      (run (step defs setKeyTimeoutMs) second inputs').sessionsOf evMac ∧
    ∃ sent,
      (run (step defs setKeyTimeoutMs) first inputs).sentTo evMac = first.sentTo evMac ++ sent ∧
      (run (step defs setKeyTimeoutMs) second inputs').sentTo evMac =
        second.sentTo evMac ++ sent := by
  have hView := @carView_run defs setKeyTimeoutMs evMac first inputs entered hFirst hStays
  have hView' := @carView_run defs setKeyTimeoutMs evMac second inputs' entered' hSecond hStays'
  rw [CarView.run_sent] at hView hView'
  rw [← hSame, ← hKey] at hView'
  obtain ⟨hSessions, hSent⟩ := CarView.mk.inj hView
  obtain ⟨hSessions', hSent'⟩ := CarView.mk.inj hView'
  exact ⟨hSessions.trans hSessions'.symm, _, hSent, hSent'⟩

/-- A car that is sounding, with another one that comes and goes, and without it. -/
theorem cars_do_not_disturb_two_cars :
    let machine : SlacMachine :=
      { state := .matching (.enter .standard 0), sessionNmk := 1, feedResult := .doNotCallMeAgain }
    let request : SlacInput := ⟨10, .slacMessage 1 (.cmSlacParmReq 1)⟩
    let sounding : SlacInput := ⟨20, .slacMessage 1 (.cmStartAttenCharInd 1)⟩
    let other : SlacInput := ⟨15, .slacMessage 2 (.cmSlacParmReq 1)⟩
    let callback : SlacInput := ⟨milliseconds 600 + 20, .callback⟩
    let both := run (step .standard 500) machine [request, other, sounding, callback]
    let alone := run (step .standard 500) machine [request, sounding, callback]
    both.sentTo 1 = [.cmSlacParmCnf 1 1, .cmAttenCharInd 1 1 0 (List.replicate 58 1)] ∧
      both.sessionsOf 1 = alone.sessionsOf 1 := by
  refine ⟨by decide, ?_⟩
  exact (cars_do_not_disturb 1 rfl rfl rfl (by decide) (by decide) (by decide)).1

end SlacMachine

end EverestCore.Slac
