import EverestCore.Slac.Timeouts
import Mathlib.Algebra.Order.BigOperators.Group.List
import Mathlib.Algebra.Order.Ring.Nat
import Mathlib.Data.List.GetD

/-! The report of a sounding. Beside the machine it is noted what was heard of each session
while it was sounding, and what was reported of it, since its last `CM_SLAC_PARM_REQ`. The
report follows from these notes alone. -/
namespace EverestCore.Slac
open Machine

/-- The sum of the values that were received for a group. -/
def groupSum (profiles : List (List ℕ)) (group : ℕ) : ℕ :=
  (profiles.map fun aag => aag.getD group 0).sum

/-- The averages of all groups, rounded down. Without any profile they are one. -/
def averages (defs : SlacDefs) (profiles : List (List ℕ)) : List ℕ :=
  (List.range defs.aagListLen).map fun group =>
    if profiles = [] then 1 else groupSum profiles group / profiles.length

theorem groupSum_snoc (profiles : List (List ℕ)) (aag : List ℕ) (group : ℕ) :
    groupSum (profiles ++ [aag]) group = groupSum profiles group + aag.getD group 0 := by
  simp [groupSum]

/-- A profile is added group by group. -/
theorem zipWith_groupSum {len : ℕ} (profiles : List (List ℕ)) {aag : List ℕ}
    (hLen : aag.length = len) :
    List.zipWith (· + ·) ((List.range len).map (groupSum profiles)) aag =
      (List.range len).map (groupSum (profiles ++ [aag])) := by
  apply List.ext_getElem
  · simp [hLen]
  · intro group hSum hSnoc
    simp at hSum
    simp [groupSum_snoc, hSum.2]

namespace SlacOutput

/-- The number of sounds and the averages, if this is a report for the session. -/
def report (key : MacAddress × RunId) : SlacOutput → Option (ℕ × List ℕ)
  | .send _ (.cmAttenCharInd evMac runId numSounds aag) =>
      if (evMac, runId) = key then some (numSounds, aag) else none
  | _ => none

/-- The timeout of the sounding of the session. -/
def isSoundingTimeout (key : MacAddress × RunId) (output : SlacOutput) : Bool :=
  output = .timedOut key.1 key.2 .sounding

end SlacOutput

/-- What is noted of a session since its last `CM_SLAC_PARM_REQ`: the profiles that were
received while it was sounding, whether the timeout of its sounding was handled, and the
reports that were sent for it. -/
structure SoundingNotes where
  profiles : List (List ℕ) := []
  timedOut : Bool := false
  reports : List (ℕ × List ℕ) := []
  deriving DecidableEq, Repr

namespace SoundingNotes

/-- What an event tells of the session. -/
def hear (defs : SlacDefs) (key : MacAddress × RunId) (sounding : Bool) (notes : SoundingNotes) :
    SlacEvent → SoundingNotes
  | .slacMessage source (.cmSlacParmReq runId) => if (source, runId) = key then {} else notes
  | .slacMessage _ (.cmAttenProfileInd pevMac numGroups aag) =>
      if pevMac = key.1 ∧ numGroups = defs.aagListLen ∧ sounding then
        { notes with profiles := notes.profiles ++ [aag] }
      else notes
  | _ => notes

/-- What the outputs tell of the session. -/
def see (key : MacAddress × RunId) (outputs : List SlacOutput) (notes : SoundingNotes) :
    SoundingNotes :=
  { notes with
    timedOut := notes.timedOut || outputs.any (SlacOutput.isSoundingTimeout key)
    reports := notes.reports ++ outputs.filterMap (SlacOutput.report key) }

/-- The sounding is over: all sounds were received, or its timeout was handled. -/
def isOver (defs : SlacDefs) (notes : SoundingNotes) : Bool :=
  notes.timedOut || decide (defs.cmSlacParmCnfNumSounds ≤ notes.profiles.length)

/-- There is exactly one report once the sounding is over, and none before. It has the
number of the profiles and their averages. -/
structure Exact (defs : SlacDefs) (notes : SoundingNotes) : Prop where
  bounded : notes.profiles.length ≤ defs.cmSlacParmCnfNumSounds
  reports : notes.reports =
    if notes.isOver defs then [(notes.profiles.length, averages defs notes.profiles)] else []

/-- Outputs that say nothing about the session. -/
def Quiet (key : MacAddress × RunId) (outputs : List SlacOutput) : Prop :=
  ∀ output ∈ outputs, output.report key = none ∧ output.isSoundingTimeout key = false

@[simp] theorem see_nil (key : MacAddress × RunId) (notes : SoundingNotes) :
    notes.see key [] = notes := by
  simp [see]

theorem see_append (key : MacAddress × RunId) (first second : List SlacOutput)
    (notes : SoundingNotes) :
    notes.see key (first ++ second) = (notes.see key first).see key second := by
  simp [see, Bool.or_assoc]

theorem see_of_quiet {key : MacAddress × RunId} {outputs : List SlacOutput}
    (h : Quiet key outputs) (notes : SoundingNotes) : notes.see key outputs = notes := by
  have hTimeouts : outputs.any (SlacOutput.isSoundingTimeout key) = false :=
    List.any_eq_false.mpr fun output hMem => by simp [(h output hMem).2]
  have hReports : outputs.filterMap (SlacOutput.report key) = [] :=
    List.filterMap_eq_nil_iff.mpr fun output hMem => (h output hMem).1
  rw [see, hTimeouts, hReports, Bool.or_false, List.append_nil]

theorem isOver_see {defs : SlacDefs} (key : MacAddress × RunId) (outputs : List SlacOutput)
    (notes : SoundingNotes) : (notes.see key outputs).isOver defs =
      (notes.isOver defs || outputs.any (SlacOutput.isSoundingTimeout key)) := by
  simp only [isOver, see, Bool.or_right_comm]
  rfl

theorem isOver_empty {defs : SlacDefs} (hSounds : 1 ≤ defs.cmSlacParmCnfNumSounds) :
    isOver defs {} = false := by
  simp [isOver]
  omega

theorem exact_empty {defs : SlacDefs} (hSounds : 1 ≤ defs.cmSlacParmCnfNumSounds) :
    Exact defs {} := by
  refine ⟨Nat.zero_le _, ?_⟩
  rw [isOver_empty hSounds]
  rfl

end SoundingNotes

open SoundingNotes

namespace MatchingSession

variable {defs : SlacDefs} {now : ℤ} {sessionNmk : ℕ} {source : MacAddress}
  {old new session : MatchingSession} {message : ReceivedMessage} {outputs : List SlacOutput}
  {notes : SoundingNotes}

/-- The session agrees with what is noted of it. -/
structure Tracks (defs : SlacDefs) (notes : SoundingNotes) (session : MatchingSession) : Prop where
  sounds : session.capturedSounds = notes.profiles.length
  aags : session.capturedAags = (List.range defs.aagListLen).map (groupSum notes.profiles)
  before : session.state = .waitForStartAttenChar ∨ session.state = .sounding →
    notes.isOver defs = false
  after : session.state = .waitForAttenCharRsp ∨ session.state = .waitForSlacMatch ∨
    session.state = .matchComplete → notes.isOver defs = true

/-- What a session that agrees with its notes reports. -/
theorem createCmAttenCharInd_of_captured
    (hSounds : session.capturedSounds = notes.profiles.length)
    (hAags : session.capturedAags = (List.range defs.aagListLen).map (groupSum notes.profiles)) :
    session.createCmAttenCharInd defs = .cmAttenCharInd session.evMac session.runId
      notes.profiles.length (averages defs notes.profiles) := by
  rw [createCmAttenCharInd, hSounds, hAags, averages]
  by_cases hNone : notes.profiles = []
  · simp [hNone, List.map_const']
  · have hSome : notes.profiles.length ≠ 0 := by simpa using hNone
    simp [hNone, hSome]

/-- The one report, which comes once the sounding is over. -/
theorem exact_reported (hOver : notes.isOver defs = true) (hReports : notes.reports = [])
    (hBounded : notes.profiles.length ≤ defs.cmSlacParmCnfNumSounds)
    (hSounds : session.capturedSounds = notes.profiles.length)
    (hAags : session.capturedAags = (List.range defs.aagListLen).map (groupSum notes.profiles))
    (destination : MacAddress) :
    (notes.see session.key [.send destination (session.createCmAttenCharInd defs)]).Exact defs ∧
    (notes.see session.key [.send destination (session.createCmAttenCharInd defs)]).isOver defs =
      true := by
  rw [createCmAttenCharInd_of_captured hSounds hAags]
  have hStill (message : SentMessage) :
      (notes.see session.key [.send destination message]).isOver defs = true := by
    rw [isOver_see, hOver, Bool.true_or]
  refine ⟨⟨hBounded, ?_⟩, hStill _⟩
  rw [hStill, if_pos rfl]
  simp [see, hReports, SlacOutput.report, MatchingSession.key]

theorem tracks_created {evMac : MacAddress} {runId : RunId}
    (hSounds : 1 ≤ defs.cmSlacParmCnfNumSounds) :
    (created defs now evMac runId).Tracks defs {} := by
  refine ⟨rfl, ?_, fun _ => isOver_empty hSounds, ?_⟩
  · have hZero : groupSum [] = fun _ => 0 := rfl
    rw [hZero, List.map_const', List.length_range]
    rfl
  · simp [created]

/-- No message but a profile changes what was captured, or reports anything. -/
theorem Changes.tracks (h : old.Changes defs now sessionNmk source message new outputs)
    (hProfile : ∀ pevMac numGroups aag, message ≠ .cmAttenProfileInd pevMac numGroups aag)
    (hOld : old.Tracks defs notes) :
    new.Tracks defs notes ∧ ∀ key, Quiet key outputs := by
  cases h with
  | startsSounding hMac hState =>
      exact ⟨⟨hOld.sounds, hOld.aags, fun _ => hOld.before (.inl hState), by simp⟩, fun _ => nofun⟩
  | hearsSound hMac hState =>
      exact ⟨⟨hOld.sounds, hOld.aags, hOld.before, hOld.after⟩, fun _ => nofun⟩
  | captures numGroups aag => exact absurd rfl (hProfile old.evMac numGroups aag)
  | capturesLast numGroups aag => exact absurd rfl (hProfile old.evMac numGroups aag)
  | getsResponse hMac hState =>
      exact ⟨⟨hOld.sounds, hOld.aags, by simp, fun _ => hOld.after (.inl hState)⟩, fun _ => nofun⟩
  | completes request hMac hRun hState =>
      refine ⟨⟨hOld.sounds, hOld.aags, by simp, fun _ => hOld.after (.inr (.inl hState))⟩, ?_⟩
      simp [Quiet, SlacOutput.report, SlacOutput.isSoundingTimeout]

theorem isSoundingTimeout_of_key_ne {key : MacAddress × RunId} (hKey : old.key ≠ key)
    (state : MatchingSubState) :
    SlacOutput.isSoundingTimeout key (.timedOut old.evMac old.runId state) = false := by
  simp only [SlacOutput.isSoundingTimeout, SlacOutput.timedOut.injEq, decide_eq_false_iff_not]
  rintro ⟨hMac, hRun, -⟩
  exact hKey (Prod.ext hMac hRun)

theorem report_of_key_ne {key : MacAddress × RunId} (hKey : old.key ≠ key)
    (destination : MacAddress) :
    SlacOutput.report key (.send destination (old.createCmAttenCharInd defs)) = none :=
  if_neg hKey

/-- What the callback does to a session concerns no other session. -/
theorem Settled.quiet (h : Settled defs now old new outputs) {key : MacAddress × RunId}
    (hKey : old.key ≠ key) : Quiet key outputs := by
  have hTimeout := isSoundingTimeout_of_key_ne hKey
  have hReport := @report_of_key_ne defs _ _ hKey
  cases h with
  | rests | acks => exact nofun
  | fails => exact List.forall_mem_singleton.mpr ⟨rfl, hTimeout _⟩
  | finalizes =>
      simp only [Quiet, List.forall_mem_cons]
      exact ⟨⟨rfl, hTimeout _⟩, ⟨hReport _, rfl⟩, nofun⟩
  | finalizesAndFails =>
      simp only [Quiet, List.forall_mem_cons]
      exact ⟨⟨rfl, hTimeout _⟩, ⟨hReport _, rfl⟩, ⟨rfl, hTimeout _⟩, nofun⟩

/-- The timeout of the sounding ends it, with the one report. -/
theorem exact_timedOut (hOld : old.Tracks defs notes) (hExact : notes.Exact defs)
    (hState : old.state = .sounding) :
    let seen := notes.see old.key [.timedOut old.evMac old.runId .sounding,
      .send old.evMac (old.createCmAttenCharInd defs)]
    seen.Exact defs ∧ seen.isOver defs = true := by
  intro seen
  have hOver := hOld.before (.inr hState)
  have hTimedOut : notes.see old.key [.timedOut old.evMac old.runId .sounding] =
      { notes with timedOut := true } := by
    simp [see, SlacOutput.isSoundingTimeout, SlacOutput.report, MatchingSession.key]
  have hSeen : seen = SoundingNotes.see old.key [.send old.evMac (old.createCmAttenCharInd defs)]
      { notes with timedOut := true } := by
    rw [← hTimedOut, ← see_append]
    rfl
  rw [hSeen]
  have hEnded : ({ notes with timedOut := true } : SoundingNotes).isOver defs = true :=
    Bool.true_or _
  refine exact_reported hEnded ?_ hExact.bounded hOld.sounds hOld.aags _
  exact hExact.reports.trans (if_neg (by simp [hOver]))

/-- The callback reports a session just when it handles the timeout of its sounding. -/
theorem Settled.tracks (h : Settled defs now old new outputs) (hOld : old.Tracks defs notes)
    (hExact : notes.Exact defs) :
    new.Tracks defs (notes.see old.key outputs) ∧ (notes.see old.key outputs).Exact defs := by
  cases h with
  | rests =>
      rw [see_nil]
      exact ⟨hOld, hExact⟩
  | acks hState =>
      rw [see_nil]
      exact ⟨⟨hOld.sounds, hOld.aags, hOld.before, hOld.after⟩, hExact⟩
  | fails hState =>
      have hQuiet : Quiet old.key [.timedOut old.evMac old.runId old.state] := by
        rw [Quiet, List.forall_mem_singleton]
        refine ⟨rfl, ?_⟩
        rcases hState with h | h | h <;> simp [SlacOutput.isSoundingTimeout, h]
      rw [see_of_quiet hQuiet]
      exact ⟨⟨hOld.sounds, hOld.aags, by simp, by simp⟩, hExact⟩
  | finalizes hState =>
      obtain ⟨hSeen, hOver⟩ := exact_timedOut hOld hExact hState
      exact ⟨⟨hOld.sounds, hOld.aags, by simp [finalizeSounding], fun _ => hOver⟩, hSeen⟩
  | finalizesAndFails hState =>
      obtain ⟨hSeen, hOver⟩ := exact_timedOut hOld hExact hState
      have hLast : Quiet old.key [.timedOut old.evMac old.runId .waitForAttenCharRsp] := by
        simp [Quiet, SlacOutput.report, SlacOutput.isSoundingTimeout]
      have hSplit := see_append old.key [.timedOut old.evMac old.runId .sounding,
        .send old.evMac (old.createCmAttenCharInd defs)]
        [.timedOut old.evMac old.runId .waitForAttenCharRsp] notes
      rw [see_of_quiet hLast] at hSplit
      rw [List.cons_append, List.cons_append, List.nil_append] at hSplit
      rw [hSplit]
      exact ⟨⟨hOld.sounds, hOld.aags, by simp, by simp⟩, hSeen⟩

/-- The session with one more profile. -/
def counted (aag : List ℕ) (session : MatchingSession) : MatchingSession :=
  { session with
    capturedAags := List.zipWith (· + ·) session.capturedAags aag
    capturedSounds := session.capturedSounds + 1 }

/-- What a profile does to a session that is sounding. -/
def capture (defs : SlacDefs) (now : ℤ) (aag : List ℕ) (session : MatchingSession) :
    MatchingSession × List SlacOutput :=
  if (session.counted aag).capturedSounds < defs.cmSlacParmCnfNumSounds then
    (session.counted aag, [])
  else (session.counted aag).finalizeSounding defs now

theorem capture_key (aag : List ℕ) : (old.capture defs now aag).1.key = old.key := by
  dsimp only [capture]
  split_ifs <;> rfl

theorem capture_quiet {aag : List ℕ} {key : MacAddress × RunId} (hKey : old.key ≠ key) :
    Quiet key (old.capture defs now aag).2 := by
  dsimp only [capture]
  split_ifs
  · exact nofun
  · have hCounted : (old.counted aag).key ≠ key := hKey
    exact List.forall_mem_singleton.mpr ⟨report_of_key_ne hCounted _, rfl⟩

/-- The last sound that is expected ends the sounding, with the one report. -/
theorem tracks_capture {aag : List ℕ} (hOld : old.Tracks defs notes) (hExact : notes.Exact defs)
    (hState : old.state = .sounding) (hAag : aag.length = defs.aagListLen) :
    let seen := SoundingNotes.see old.key (old.capture defs now aag).2
      { notes with profiles := notes.profiles ++ [aag] }
    (old.capture defs now aag).1.Tracks defs seen ∧ seen.Exact defs := by
  intro seen
  have hOver := hOld.before (.inr hState)
  simp only [isOver, Bool.or_eq_false_iff, decide_eq_false_iff_not, not_le] at hOver
  have hReports : notes.reports = [] :=
    hExact.reports.trans (if_neg (by simp [isOver, hOver.1, hOver.2]))
  have hAags : (old.counted aag).capturedAags =
      (List.range defs.aagListLen).map (groupSum (notes.profiles ++ [aag])) := by
    rw [counted, hOld.aags, zipWith_groupSum notes.profiles hAag]
  have hSounds : (old.counted aag).capturedSounds = (notes.profiles ++ [aag]).length := by
    rw [counted, hOld.sounds, List.length_append, List.length_singleton]
  have hLength : (notes.profiles ++ [aag]).length ≤ defs.cmSlacParmCnfNumSounds := by
    rw [List.length_append]
    exact hOver.2
  dsimp only [seen, capture]
  split_ifs with hFew
  · have hStill : SoundingNotes.isOver defs { notes with profiles := notes.profiles ++ [aag] } =
        false := by
      rw [hSounds] at hFew
      simp only [isOver, hOver.1, Bool.false_or, decide_eq_false_iff_not, not_le, hFew]
    rw [see_nil]
    refine ⟨⟨hSounds, hAags, fun _ => hStill, by simp [counted, hState]⟩, hLength, ?_⟩
    rw [hStill]
    exact hReports
  · have hEnded : SoundingNotes.isOver defs { notes with profiles := notes.profiles ++ [aag] } =
        true := by
      rw [hSounds, not_lt] at hFew
      exact (congrArg (notes.timedOut || ·) (decide_eq_true hFew)).trans (Bool.or_true _)
    have hReported := exact_reported hEnded hReports hLength hSounds hAags old.evMac
    exact ⟨⟨hSounds, hAags, by simp [finalizeSounding], fun _ => hReported.2⟩, hReported.1⟩

end MatchingSession

namespace MatchingState

variable {defs : SlacDefs} {now : ℤ} {matching next : MatchingState} {outputs : List SlacOutput}

/-- A profile is captured by the session with its address if that is sounding. Otherwise no
session is waiting for it. -/
theorem handleCmAttenProfileInd_cases (pevMac : MacAddress) (numGroups : ℕ) (aag : List ℕ)
    (hCars : (matching.sessions.map (·.evMac)).Nodup) :
    (matching.handleCmAttenProfileInd defs now pevMac numGroups aag = (matching, []) ∧
      (numGroups = defs.aagListLen → ∀ session ∈ matching.sessions, session.evMac = pevMac →
        session.state ≠ .sounding)) ∨
    ∃ before after old, matching.sessions = before ++ old :: after ∧ old.evMac = pevMac ∧
      old.state = .sounding ∧ numGroups = defs.aagListLen ∧
      matching.handleCmAttenProfileInd defs now pevMac numGroups aag =
        ({ matching with sessions := before ++ (old.capture defs now aag).1 :: after },
          (old.capture defs now aag).2) := by
  unfold handleCmAttenProfileInd
  cases hFound : matching.sessions.reverse.find? (·.evMac == pevMac) with
  | none =>
      left
      refine ⟨rfl, fun _ session hSession hMac => ?_⟩
      have hOther := List.find?_eq_none.mp hFound session (List.mem_reverse.mpr hSession)
      exact absurd (beq_iff_eq.mpr hMac) hOther
  | some old =>
      have hMac : old.evMac = pevMac := by simpa using List.find?_some hFound
      have hOld : old ∈ matching.sessions := List.mem_reverse.mp (List.mem_of_find?_eq_some hFound)
      dsimp only
      split_ifs with hState hGroups hFew
      · left
        refine ⟨rfl, fun _ session hSession hSessionMac => ?_⟩
        rw [List.inj_on_of_nodup_map hCars hSession hOld (hSessionMac.trans hMac.symm)]
        exact hState
      · exact .inl ⟨rfl, fun hEqual => absurd hEqual hGroups⟩
      all_goals
        right
        rw [not_not] at hState hGroups
        -- the search goes backwards, so what it leaves before the session stands behind it
        obtain ⟨after, before, hSessions, hReplaced⟩ :=
          lookmap_of_find? hFound (old.capture defs now aag).1
        refine ⟨before.reverse, after.reverse, old, ?_, hMac, hState, hGroups, ?_⟩
        · rw [← List.reverse_reverse matching.sessions, hSessions]
          simp
        · have hOrder : before.reverse ++ (old.capture defs now aag).1 :: after.reverse =
              (after ++ (old.capture defs now aag).1 :: before).reverse := by simp
          rw [hOrder, ← hReplaced]
          simp only [MatchingSession.capture, MatchingSession.counted, hFew, if_true, if_false]

theorem quiet_settle {sessions : List MatchingSession} {key : MacAddress × RunId}
    (hKeys : ∀ session ∈ sessions, session.key ≠ key) :
    Quiet key (sessions.flatMap fun session => (session.settle defs now).2) := by
  intro output hOutput
  obtain ⟨session, hSession, hSettled⟩ := List.mem_flatMap.mp hOutput
  exact (session.settled_settle defs now).quiet (hKeys session hSession) output hSettled

/-- Of what the callback sends, only the outputs of the own session say anything about it. -/
theorem see_settle_of_key {sessions : List MatchingSession}
    (hKeys : (sessions.map MatchingSession.key).Nodup) {session : MatchingSession}
    (hSession : session ∈ sessions) (notes : SoundingNotes) :
    notes.see session.key (sessions.flatMap fun other => (other.settle defs now).2) =
      notes.see session.key (session.settle defs now).2 := by
  induction sessions with
  | nil => cases hSession
  | cons first rest ih =>
      rw [List.map_cons, List.nodup_cons] at hKeys
      rw [List.flatMap_cons, see_append]
      rcases List.mem_cons.mp hSession with rfl | hRest
      · apply see_of_quiet
        apply quiet_settle
        intro other hOther hKey
        exact hKeys.1 (List.mem_map.mpr ⟨other, hOther, hKey⟩)
      · have hFirst : first.key ≠ session.key := fun hKey =>
          hKeys.1 (List.mem_map.mpr ⟨session, hRest, hKey.symm⟩)
        rw [see_of_quiet ((first.settled_settle defs now).quiet hFirst), ih hKeys.2 hRest]

/-- What the callback does to sessions that agree with their notes. -/
theorem tracks_settle {sessions : List MatchingSession}
    {notes : MacAddress × RunId → SoundingNotes} (hExact : ∀ key, (notes key).Exact defs)
    (hKeys : (sessions.map MatchingSession.key).Nodup)
    (hTracks : ∀ session ∈ sessions, session.Tracks defs (notes session.key)) :
    let seen := fun key =>
      (notes key).see key (sessions.flatMap fun session => (session.settle defs now).2)
    (∀ key, (seen key).Exact defs) ∧
      ∀ session ∈ sessions, (session.settle defs now).1.Tracks defs (seen session.key) := by
  intro seen
  have hSession : ∀ session ∈ sessions, (session.settle defs now).1.Tracks defs (seen session.key) ∧
      (seen session.key).Exact defs := by
    intro session hSession
    have hSeen := @see_settle_of_key defs now sessions hKeys session hSession (notes session.key)
    dsimp only [seen]
    rw [hSeen]
    exact (session.settled_settle defs now).tracks (hTracks session hSession) (hExact session.key)
  refine ⟨fun key => ?_, fun session hMem => (hSession session hMem).1⟩
  by_cases hKey : ∃ session ∈ sessions, session.key = key
  · obtain ⟨session, hMem, rfl⟩ := hKey
    exact (hSession session hMem).2
  · have hQuiet : Quiet key (sessions.flatMap fun session => (session.settle defs now).2) :=
      quiet_settle fun session hMem hSame => hKey ⟨session, hMem, hSame⟩
    dsimp only [seen]
    rw [see_of_quiet hQuiet]
    exact hExact key

/-- A callback that ends the matching has looked at some of the sessions only. -/
theorem Called.settles {event : MatchingEvent}
    (h : Called defs now matching (next, outputs, .event event)) :
    ∃ looked, List.Sublist looked matching.sessions ∧
      outputs = looked.flatMap fun session => (session.settle defs now).2 := by
  cases h with
  | retries => exact ⟨[], List.nil_sublist _, rfl⟩
  | completes _ before after session hSessions =>
      exact ⟨before, hSessions ▸ List.sublist_append_left _ _, rfl⟩
  | fails _ before after hSessions =>
      exact ⟨before, hSessions ▸ List.sublist_append_left _ _, rfl⟩

end MatchingState

namespace SlacMachine

/-- The sessions of the matching state. -/
def sessions (s : SlacMachine) : List MatchingSession :=
  match s.state with
  | .matching matching => matching.sessions
  | _ => []

/-- No two sessions have the same address. -/
def OneSessionEach (s : SlacMachine) : Prop := (s.sessions.map (·.evMac)).Nodup

instance (s : SlacMachine) : Decidable s.OneSessionEach :=
  inferInstanceAs (Decidable (List.Nodup _))

/-- The session is sounding. -/
def isSounding (key : MacAddress × RunId) (s : SlacMachine) : Bool :=
  s.sessions.any fun session => session.key = key ∧ session.state = .sounding

/-- What was sent since an earlier state of the machine. -/
def sentSince (s earlier : SlacMachine) : List SlacOutput :=
  (s.history.drop earlier.history.length).filterMap fun
    | .output output => some output
    | .input _ => none

end SlacMachine

/-- The group values of a profile are an array of fixed length. -/
def SlacEvent.isWellFormed (defs : SlacDefs) : SlacEvent → Bool
  | .slacMessage _ (.cmAttenProfileInd _ _ aag) => aag.length = defs.aagListLen
  | _ => true

/-- What is noted of all sessions in one step. -/
def noteSounding (defs : SlacDefs) (setKeyTimeoutMs : ℤ) (s : SlacMachine) (input : SlacInput)
    (notes : MacAddress × RunId → SoundingNotes) : MacAddress × RunId → SoundingNotes :=
  fun key => ((notes key).hear defs key (s.isSounding key) input.event).see key
    ((s.step defs setKeyTimeoutMs input).sentSince s)

namespace SlacMachine

variable {defs : SlacDefs} {setKeyTimeoutMs now : ℤ} {s t : SlacMachine} {input : SlacInput}
  {matching next : MatchingState} {outputs : List SlacOutput}
  {notes : MacAddress × RunId → SoundingNotes}

theorem sentSince_of_history (event : SlacEvent)
    (h : t.history = s.history ++ [.input event] ++ outputs.map .output) :
    t.sentSince s = outputs := by
  rw [sentSince, h, List.append_assoc, List.drop_left, List.filterMap_append, List.filterMap_map]
  exact List.filterMap_some

/-- Leaving and entering a state says nothing about a session. -/
theorem sentSince_goTo {event : SlacEvent}
    (h : t.history = s.history ++ [.input event] ++ outputs.map .output) (name : SlacStateName) :
    ∃ extra, (t.goTo defs setKeyTimeoutMs now name).sentSince s = outputs ++ extra ∧
      ∀ key, Quiet key extra := by
  refine ⟨(if t.state = .matched then [.signalDlinkReady false] else []) ++
    enteringOutputs (t.goTo defs setKeyTimeoutMs now name).sessionNmk name, ?_, fun key => ?_⟩
  · apply sentSince_of_history event
    rw [goTo_history, h]
    split_ifs <;> simp
  · cases name <;> split_ifs <;>
      simp [Quiet, enteringOutputs, SlacOutput.report, SlacOutput.isSoundingTimeout]

/-- A state that has just been entered has no sessions. -/
theorem sessions_goTo (name : SlacStateName) :
    (t.goTo defs setKeyTimeoutMs now name).sessions = [] := by
  cases name <;> rfl

/-- All sessions agree with their notes, and all reports are exact. -/
structure Noted (defs : SlacDefs) (s : SlacMachine)
    (notes : MacAddress × RunId → SoundingNotes) : Prop where
  valid : ∀ matching, s.state = .matching matching → matching.Valid
  exact : ∀ key, (notes key).Exact defs
  tracks : ∀ session ∈ s.sessions, session.Tracks defs (notes session.key)

theorem sessions_of_matching (hState : s.state = .matching matching) :
    s.sessions = matching.sessions := by
  rw [sessions, hState]

/-- Without sessions an event can only begin new notes. -/
theorem exact_hear_of_silent (hSounds : 1 ≤ defs.cmSlacParmCnfNumSounds)
    {key : MacAddress × RunId} {old : SoundingNotes} (hOld : old.Exact defs) (event : SlacEvent) :
    (old.hear defs key false event).Exact defs := by
  unfold hear
  split
  · split_ifs
    · exact exact_empty hSounds
    · exact hOld
  · rw [if_neg (by simp)]
    exact hOld
  · exact hOld

theorem hear_of_other {key : MacAddress × RunId} {sounding : Bool} {old : SoundingNotes}
    {source : MacAddress} {message : ReceivedMessage}
    (hParm : ∀ runId, message ≠ .cmSlacParmReq runId)
    (hProfile : ∀ pevMac numGroups aag, message ≠ .cmAttenProfileInd pevMac numGroups aag) :
    old.hear defs key sounding (.slacMessage source message) = old := by
  cases message with
  | cmSlacParmReq runId => exact absurd rfl (hParm runId)
  | cmAttenProfileInd pevMac numGroups aag => exact absurd rfl (hProfile pevMac numGroups aag)
  | _ => rfl

/-- A message to the matching state. -/
theorem step_message (hState : s.state = .matching matching) (now : ℤ) (source : MacAddress)
    (message : ReceivedMessage) :
    s.step defs setKeyTimeoutMs ⟨now, .slacMessage source message⟩ =
      (s.note (.slacMessage source message)).stay
        (matching.handleSlacMessage defs now s.sessionNmk source message).1
        (matching.handleSlacMessage defs now s.sessionNmk source message).2
        .eventHandledInternally := by
  simp only [step, feedEvent, note_state, hState, note_sessionNmk]

/-- Exchanging one session, with its notes. -/
theorem tracks_exchange {before after : List MatchingSession} {old new : MatchingSession}
    {notes' : MacAddress × RunId → SoundingNotes}
    (hKeys : ∀ other ∈ before ++ after, other.key ≠ old.key)
    (hTracks : ∀ session ∈ before ++ old :: after, session.Tracks defs (notes session.key))
    (hNew : new.Tracks defs (notes' new.key))
    (hSame : ∀ key, key ≠ old.key → notes' key = notes key) :
    ∀ session ∈ before ++ new :: after, session.Tracks defs (notes' session.key) := by
  intro session hSession
  rcases mem_middle.mp hSession with rfl | hOther
  · exact hNew
  · rw [hSame _ (hKeys session hOther)]
    exact hTracks session (mem_middle.mpr (.inr hOther))

/-- What the notes become when nothing is said about a session. -/
theorem noteSounding_of_quiet {key : MacAddress × RunId}
    (hQuiet : Quiet key ((s.step defs setKeyTimeoutMs input).sentSince s)) :
    noteSounding defs setKeyTimeoutMs s input notes key =
      (notes key).hear defs key (s.isSounding key) input.event :=
  see_of_quiet hQuiet _

theorem isSounding_iff (key : MacAddress × RunId) : s.isSounding key = true ↔
    ∃ session ∈ s.sessions, session.key = key ∧ session.state = .sounding := by
  simp [isSounding]

/-- A profile is only counted for the session that captures it. -/
theorem hear_profile_of_silent {key : MacAddress × RunId} {source pevMac : MacAddress}
    {numGroups : ℕ} {aag : List ℕ} {old : SoundingNotes}
    (hSilent : numGroups = defs.aagListLen → ∀ session ∈ s.sessions, session.key = key →
      session.evMac = pevMac → session.state ≠ .sounding) :
    old.hear defs key (s.isSounding key)
      (.slacMessage source (.cmAttenProfileInd pevMac numGroups aag)) = old := by
  apply if_neg
  rintro ⟨rfl, hGroups, hSounding⟩
  obtain ⟨session, hSession, rfl, hState⟩ := (isSounding_iff key).mp hSounding
  exact hSilent hGroups session hSession rfl rfl hState

/-- A profile keeps the sessions and their notes in agreement. -/
theorem noted_profile (h : s.Noted defs notes) (hState : s.state = .matching matching)
    (hCars : s.OneSessionEach) {now : ℤ} {source pevMac : MacAddress} {numGroups : ℕ}
    {aag : List ℕ} (hAag : aag.length = defs.aagListLen) :
    let input : SlacInput := ⟨now, .slacMessage source (.cmAttenProfileInd pevMac numGroups aag)⟩
    (∀ key, (noteSounding defs setKeyTimeoutMs s input notes key).Exact defs) ∧
      ∀ session ∈ (s.step defs setKeyTimeoutMs input).sessions,
        session.Tracks defs (noteSounding defs setKeyTimeoutMs s input notes session.key) := by
  intro input
  have hSessions := sessions_of_matching hState
  rw [OneSessionEach, hSessions] at hCars
  have hStep : s.step defs setKeyTimeoutMs input = _ := step_message hState now source _
  have hSent : (s.step defs setKeyTimeoutMs input).sentSince s =
      (matching.handleCmAttenProfileInd defs now pevMac numGroups aag).2 := by
    apply sentSince_of_history input.event
    rw [hStep]
    rfl
  have hNext : (s.step defs setKeyTimeoutMs input).sessions =
      (matching.handleCmAttenProfileInd defs now pevMac numGroups aag).1.sessions := by
    rw [hStep]
    rfl
  rcases MatchingState.handleCmAttenProfileInd_cases pevMac numGroups aag hCars with
    ⟨hIgnored, hSilent⟩ | ⟨before, after, old, hSplit, hMac, hOldState, hGroups, hCaptured⟩
  · have hSame (key : MacAddress × RunId) :
        noteSounding defs setKeyTimeoutMs s input notes key = notes key := by
      rw [noteSounding_of_quiet (by rw [hSent, hIgnored]; exact nofun)]
      apply hear_profile_of_silent
      intro hLen session hSession _ hPev
      exact hSilent hLen session (hSessions ▸ hSession) hPev
    refine ⟨fun key => hSame key ▸ h.exact key, fun session hSession => ?_⟩
    rw [hNext, hIgnored, ← hSessions] at hSession
    rw [hSame]
    exact h.tracks session hSession
  · have hOld : old ∈ s.sessions := by simp [hSessions, hSplit]
    have hSame (key : MacAddress × RunId) (hKey : key ≠ old.key) :
        noteSounding defs setKeyTimeoutMs s input notes key = notes key := by
      rw [noteSounding_of_quiet (by
        rw [hSent, hCaptured]
        exact MatchingSession.capture_quiet hKey.symm)]
      apply hear_profile_of_silent
      rintro - session hSession rfl hPev
      rw [hSessions] at hSession hOld
      exact absurd (congrArg MatchingSession.key
        (List.inj_on_of_nodup_map hCars hSession hOld (hPev.trans hMac.symm))) hKey
    have hHeard : noteSounding defs setKeyTimeoutMs s input notes old.key =
        SoundingNotes.see old.key (old.capture defs now aag).2
          { notes old.key with profiles := (notes old.key).profiles ++ [aag] } := by
      have hSounding := (isSounding_iff old.key).mpr ⟨old, hOld, rfl, hOldState⟩
      rw [noteSounding, hSent, hCaptured]
      exact congrArg _ (if_pos ⟨hMac.symm, hGroups, hSounding⟩)
    obtain ⟨hTracks, hExact⟩ := @MatchingSession.tracks_capture defs now old _ aag
      (h.tracks old hOld) (h.exact old.key) hOldState hAag
    rw [← hHeard] at hTracks hExact
    constructor
    · intro key
      by_cases hKey : key = old.key
      · exact hKey ▸ hExact
      · exact hSame key hKey ▸ h.exact key
    · rw [hNext, hCaptured]
      refine tracks_exchange ((h.valid matching hState).key_ne hSplit) ?_ ?_ hSame
      · rw [← hSplit, ← hSessions]
        exact h.tracks
      · rw [MatchingSession.capture_key]
        exact hTracks

/-- Any other message keeps the sessions and their notes in agreement. -/
theorem noted_message (hSounds : 1 ≤ defs.cmSlacParmCnfNumSounds) (h : s.Noted defs notes)
    (hState : s.state = .matching matching) {now : ℤ} {source : MacAddress}
    {message : ReceivedMessage}
    (hProfile : ∀ pevMac numGroups aag, message ≠ .cmAttenProfileInd pevMac numGroups aag)
    {s' : SlacMachine} {seen : MacAddress × RunId → SoundingNotes}
    (hSeen : ∀ key, seen key = ((notes key).hear defs key (s.isSounding key)
      (.slacMessage source message)).see key outputs)
    (hNext : s'.sessions = next.sessions)
    (hHandled : matching.Handled defs now s.sessionNmk source message next outputs) :
    (∀ key, (seen key).Exact defs) ∧
      ∀ session ∈ s'.sessions, session.Tracks defs (seen session.key) := by
  have hTracks := h.tracks
  rw [sessions_of_matching hState] at hTracks
  rw [hNext]
  -- a request of the parameters begins new notes for its own session only
  have hBegins (runId : RunId) (hMessage : message = .cmSlacParmReq runId)
      (hQuiet : ∀ key, Quiet key outputs) :
      seen (source, runId) = {} ∧ ∀ key, key ≠ (source, runId) → seen key = notes key := by
    constructor
    · rw [hSeen, see_of_quiet (hQuiet _), hMessage]
      exact if_pos rfl
    · intro key hKey
      rw [hSeen, see_of_quiet (hQuiet _), hMessage]
      exact if_neg hKey.symm
  have hBegun (runId : RunId) (hSame : seen (source, runId) = {} ∧
      ∀ key, key ≠ (source, runId) → seen key = notes key) (key : MacAddress × RunId) :
      (seen key).Exact defs := by
    by_cases hKey : key = (source, runId)
    · rw [hKey, hSame.1]
      exact exact_empty hSounds
    · rw [hSame.2 key hKey]
      exact h.exact key
  have hStays (hParm : ∀ runId, message ≠ .cmSlacParmReq runId) (hQuiet : ∀ key, Quiet key outputs)
      (key : MacAddress × RunId) : seen key = notes key := by
    rw [hSeen, see_of_quiet (hQuiet key), hear_of_other hParm hProfile]
  cases hHandled with
  | ignored _ hParm =>
      have hSame := hStays hParm fun _ => nofun
      simp only [hSame]
      exact ⟨h.exact, hTracks⟩
  | validated =>
      have hSame := hStays nofun fun key => by
        simp [Quiet, SlacOutput.report, SlacOutput.isSoundingTimeout]
      simp only [hSame]
      exact ⟨h.exact, hTracks⟩
  | created runId hNew =>
      have hSame := hBegins runId rfl fun key => by
        simp [Quiet, SlacOutput.report, SlacOutput.isSoundingTimeout]
      refine ⟨hBegun runId hSame, ?_⟩
      intro session hSession
      rcases List.mem_append.mp hSession with hOld | hCreated
      · have hKey : session.key ≠ (source, runId) := by
          intro hKey
          have hFound := MatchingSession.isIdentifiedBy_iff.mpr hKey
          rw [hNew session hOld] at hFound
          cases hFound
        rw [hSame.2 _ hKey]
        exact hTracks session hOld
      · rw [List.mem_singleton.mp hCreated]
        exact hSame.1 ▸ MatchingSession.tracks_created hSounds
  | restarted runId before after old hSplit hOld =>
      have hSame := hBegins runId rfl fun key => by
        simp [Quiet, SlacOutput.report, SlacOutput.isSoundingTimeout]
      refine ⟨hBegun runId hSame, ?_⟩
      have hKey := MatchingSession.isIdentifiedBy_iff.mp hOld
      rw [hSplit] at hTracks
      refine tracks_exchange ((h.valid matching hState).key_ne hSplit) hTracks ?_ (hKey ▸ hSame.2)
      exact hSame.1 ▸ MatchingSession.tracks_created hSounds
  | changed _ before after old new _ hSplit hChange =>
      have hOld := hTracks old (by simp [hSplit])
      obtain ⟨hNewTracks, hQuiet⟩ := hChange.tracks hProfile hOld
      have hSame := hStays (by cases hChange <;> exact nofun) hQuiet
      simp only [hSame]
      refine ⟨h.exact, ?_⟩
      rw [hSplit] at hTracks
      refine tracks_exchange ((h.valid matching hState).key_ne hSplit) hTracks ?_ fun _ _ => rfl
      rw [hChange.key]
      exact hNewTracks

/-- A callback that ends the matching keeps the reports exact. -/
theorem exact_leaving (h : s.Noted defs notes) (hState : s.state = .matching matching)
    {event : MatchingEvent} (hCalled : matching.Called defs now (next, outputs, .event event))
    {extra : List SlacOutput} (hExtra : ∀ key, Quiet key extra) (key : MacAddress × RunId) :
    ((notes key).see key (outputs ++ extra)).Exact defs := by
  obtain ⟨looked, hLooked, rfl⟩ := hCalled.settles
  rw [see_append, see_of_quiet (hExtra key)]
  apply (MatchingState.tracks_settle h.exact ?_ ?_).1
  · exact (h.valid matching hState).distinct.sublist (hLooked.map _)
  · intro session hSession
    apply h.tracks
    rw [sessions_of_matching hState]
    exact hLooked.subset hSession

/-- Everything but a message to the matching state keeps the sessions and their notes in
agreement. -/
theorem noted_effect (hSounds : 1 ≤ defs.cmSlacParmCnfNumSounds) (h : s.Noted defs notes)
    (hMessage : ∀ matching source message, s.state = .matching matching →
      input.event ≠ .slacMessage source message)
    {s' : SlacMachine} (hEffect : Effect defs setKeyTimeoutMs s input s') :
    let seen := fun key =>
      ((notes key).hear defs key (s.isSounding key) input.event).see key (s'.sentSince s)
    (∀ key, (seen key).Exact defs) ∧
      ∀ session ∈ s'.sessions, session.Tracks defs (seen session.key) := by
  intro seen
  have hCallback (hEvent : input.event = .callback) (key : MacAddress × RunId) :
      seen key = (notes key).see key (s'.sentSince s) := by
    dsimp only [seen]
    rw [hEvent]
    rfl
  -- outside of the matching state there are no sessions that could be sounding
  have hOutside (hState : ∀ matching, s.state ≠ .matching matching) (key : MacAddress × RunId)
      (hQuiet : Quiet key (s'.sentSince s)) : (seen key).Exact defs := by
    have hSilent : s.isSounding key = false := by
      unfold isSounding sessions
      split
      · next matching hMatching => exact absurd hMatching (hState matching)
      · rfl
    dsimp only [seen]
    rw [see_of_quiet hQuiet, hSilent]
    exact exact_hear_of_silent hSounds (h.exact key) input.event
  have hGoTo (name : SlacStateName) := @sentSince_goTo defs setKeyTimeoutMs input.now s
    (s.note input.event) [] input.event (by simp) name
  cases hEffect with
  | unmoved feedResult hMatching =>
      have hSent : ((s.note input.event).answer feedResult).sentSince s = [] :=
        sentSince_of_history input.event (by simp)
      have hSame (hState : ∃ matching, s.state = .matching matching) (key : MacAddress × RunId) :
          seen key = notes key := by
        obtain ⟨matching, hState⟩ := hState
        dsimp only [seen]
        rw [hSent, see_nil]
        rcases hMatching matching hState with hEvent | hEvent <;> rw [hEvent] <;> rfl
      constructor
      · intro key
        by_cases hState : ∃ matching, s.state = .matching matching
        · exact hSame hState key ▸ h.exact key
        · exact hOutside (not_exists.mp hState) key (by rw [hSent]; exact nofun)
      · intro session hSession
        have hState : ∃ matching, s.state = .matching matching := by
          cases hCase : s.state with
          | matching matching => exact ⟨matching, rfl⟩
          | _ => simp [sessions, hCase] at hSession
        rw [hSame hState]
        exact h.tracks session hSession
  | resets hEvent =>
      refine ⟨fun key => ?_, by simp [sessions_goTo]⟩
      obtain ⟨extra, hSent, hExtra⟩ := hGoTo .reset
      dsimp only [seen]
      rw [hSent, List.nil_append, see_of_quiet (hExtra key), hEvent]
      exact h.exact key
  | idles hState =>
      refine ⟨fun key => hOutside (by simp [hState]) key ?_, by simp [sessions_goTo]⟩
      obtain ⟨extra, hSent, hExtra⟩ := hGoTo .idle
      rw [hSent]
      exact hExtra key
  | startsMatching hState =>
      refine ⟨fun key => hOutside (by simp [hState]) key ?_, by simp [sessions_goTo]⟩
      obtain ⟨extra, hSent, hExtra⟩ := hGoTo .matching
      rw [hSent]
      exact hExtra key
  | handles matching next source message outputs hState hEvent hHandled =>
      exact absurd hEvent (hMessage matching source message hState)
  | waits matching next outputs callBackMs feedResult hState hEvent hCalled =>
      have hSent : ((s.note input.event).stay next outputs feedResult).sentSince s = outputs :=
        sentSince_of_history input.event (by simp)
      have hTracks := h.tracks
      rw [sessions_of_matching hState] at hTracks
      simp only [hCallback hEvent, hSent]
      cases hCalled with
      | stays =>
          have hSettled := @MatchingState.tracks_settle defs input.now _ _ h.exact
            (h.valid matching hState).distinct hTracks
          refine ⟨hSettled.1, fun session hSession => ?_⟩
          obtain ⟨old, hOld, rfl⟩ := List.mem_map.mp hSession
          rw [(old.settled_settle defs input.now).key]
          exact hSettled.2 old hOld
  | retries matching next hState hEvent hUnseen hNext =>
      have hSent : ((s.note input.event).stay next [] .eventHandledInternally).sentSince s = [] :=
        sentSince_of_history input.event (by simp)
      have hTracks := h.tracks
      rw [sessions_of_matching hState, ← hNext.1] at hTracks
      simp only [hCallback hEvent, hSent, see_nil]
      exact ⟨h.exact, hTracks⟩
  | completes matching left outputs hState hEvent hCalled =>
      refine ⟨fun key => ?_, by simp [sessions_goTo]⟩
      obtain ⟨extra, hSent, hExtra⟩ := @sentSince_goTo defs setKeyTimeoutMs input.now s
        ((s.note input.event).emit outputs) outputs input.event (by simp) .matched
      rw [hCallback hEvent, hSent]
      exact exact_leaving h hState hCalled hExtra key
  | fails matching left outputs event hIncomplete hState hEvent hCalled =>
      refine ⟨fun key => ?_, by simp [sessions_goTo]⟩
      obtain ⟨extra, hSent, hExtra⟩ := @sentSince_goTo defs setKeyTimeoutMs input.now s
        ((s.note input.event).emit outputs) outputs input.event (by simp) .failed
      rw [hCallback hEvent, hSent]
      exact exact_leaving h hState hCalled hExtra key

theorem noted_step (hSounds : 1 ≤ defs.cmSlacParmCnfNumSounds) (h : s.Noted defs notes)
    (hCars : s.OneSessionEach) (hFormed : input.event.isWellFormed defs = true) :
    (s.step defs setKeyTimeoutMs input).Noted defs
      (noteSounding defs setKeyTimeoutMs s input notes) := by
  have hBoth : (∀ key, (noteSounding defs setKeyTimeoutMs s input notes key).Exact defs) ∧
      ∀ session ∈ (s.step defs setKeyTimeoutMs input).sessions,
        session.Tracks defs (noteSounding defs setKeyTimeoutMs s input notes session.key) := by
    by_cases hMessage : ∃ matching source message, s.state = .matching matching ∧
        input.event = .slacMessage source message
    · obtain ⟨now, event⟩ := input
      obtain ⟨matching, source, message, hState, rfl⟩ := hMessage
      by_cases hProfile : ∃ pevMac numGroups aag, message = .cmAttenProfileInd pevMac numGroups aag
      · obtain ⟨pevMac, numGroups, aag, rfl⟩ := hProfile
        exact noted_profile h hState hCars (of_decide_eq_true hFormed)
      · have hStep := @step_message defs setKeyTimeoutMs s matching hState now source message
        have hHandled := @MatchingState.handled_handleSlacMessage defs now s.sessionNmk source
          matching message
        refine noted_message hSounds h hState (by simpa using hProfile) (fun key => ?_) ?_ hHandled
        · exact congrArg (fun sent => SoundingNotes.see key sent _)
            (sentSince_of_history (.slacMessage source message) (by rw [hStep]; rfl))
        · rw [hStep]
          rfl
    · apply noted_effect hSounds h _ (step_effect defs setKeyTimeoutMs s input)
      intro matching source message hState hEvent
      exact hMessage ⟨matching, source, message, hState, hEvent⟩
  exact ⟨valid_step defs setKeyTimeoutMs h.valid input, hBoth.1, hBoth.2⟩

/-- The soundings are reported exactly: no report is sent before the sounding is over, exactly
one is sent then, and it has the number and the averages of the profiles. -/
def ReportsExactly (defs : SlacDefs) (s : SlacMachine)
    (notes : MacAddress × RunId → SoundingNotes) : Prop :=
  (∀ key, (notes key).Exact defs) ∧
  ∀ session ∈ s.sessions,
    (session.state = .waitForStartAttenChar ∨ session.state = .sounding →
      (notes session.key).reports = []) ∧
    (session.state = .waitForAttenCharRsp ∨ session.state = .waitForSlacMatch ∨
        session.state = .matchComplete →
      (notes session.key).reports =
        [((notes session.key).profiles.length, averages defs (notes session.key).profiles)])

theorem Noted.reportsExactly (h : s.Noted defs notes) : s.ReportsExactly defs notes := by
  refine ⟨h.exact, fun session hSession => ⟨fun hState => ?_, fun hState => ?_⟩⟩
  · have hOver := (h.tracks session hSession).before hState
    exact (h.exact session.key).reports.trans (if_neg (by simp [hOver]))
  · have hOver := (h.tracks session hSession).after hState
    exact (h.exact session.key).reports.trans (if_pos hOver)

/-- In every run in which no two sessions have the same address, the soundings are reported
exactly. -/
theorem soundings_reported_exactly (defs : SlacDefs) (hSounds : 1 ≤ defs.cmSlacParmCnfNumSounds)
    (setKeyTimeoutMs : ℤ) (inputs : List SlacInput)
    (hCars : EveryStep (step defs setKeyTimeoutMs)
      (fun s input => s.OneSessionEach ∧ input.event.isWellFormed defs = true)
      (start defs setKeyTimeoutMs) inputs) :
    (run (step defs setKeyTimeoutMs) (start defs setKeyTimeoutMs) inputs).ReportsExactly defs
      (remember (step defs setKeyTimeoutMs) (noteSounding defs setKeyTimeoutMs)
        (start defs setKeyTimeoutMs) (fun _ => {}) inputs) := by
  have hNoted : Noted defs (run (step defs setKeyTimeoutMs) (start defs setKeyTimeoutMs) inputs)
      (remember (step defs setKeyTimeoutMs) (noteSounding defs setKeyTimeoutMs)
        (start defs setKeyTimeoutMs) (fun _ => {}) inputs) := by
    apply remember_invariant_of_everyStep (Noted defs) _ _ inputs hCars
    · exact ⟨nofun, fun _ => exact_empty hSounds, nofun⟩
    · exact fun s notes input h hOk => noted_step hSounds h hOk.1 hOk.2
  exact hNoted.reportsExactly

/-- Two sounds are heard before the timeout of the sounding is over. -/
theorem soundings_reported_exactly_two_sounds :
    let inputs : List SlacInput :=
      [⟨0, .slacMessage plcPeerMac .cmSetKeyCnf⟩, ⟨10, .enterBcd⟩,
        ⟨20, .slacMessage 1 (.cmSlacParmReq 1)⟩, ⟨30, .slacMessage 1 (.cmStartAttenCharInd 1)⟩,
        ⟨40, .slacMessage 1 (.cmAttenProfileInd 1 58 (List.replicate 58 3))⟩,
        ⟨50, .slacMessage 1 (.cmAttenProfileInd 1 58 (List.replicate 58 6))⟩,
        ⟨milliseconds 600 + 30, .callback⟩]
    let notes := remember (step .standard 500) (noteSounding .standard 500) (start .standard 500)
      (fun _ => {}) inputs
    (notes (1, 1)).reports = [(2, List.replicate 58 4)] ∧
      (run (step .standard 500) (start .standard 500) inputs).ReportsExactly .standard notes :=
  ⟨by decide, soundings_reported_exactly .standard (by decide) 500 _ (by decide)⟩

end SlacMachine

end EverestCore.Slac
