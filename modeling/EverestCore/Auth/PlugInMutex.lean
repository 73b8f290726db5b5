import EverestCore.Auth.TokenThreads

/-! The mutexes of the connectors during a call of `on_token`. They are locked where a
connector is selected by the order of the plug-ins, and unlocked at the end of the call,
which goes by a list of its own. -/
namespace EverestCore.Auth
open EverestCore.Machine

namespace TokenThread

variable {handler handler' : AuthHandler} {thread thread' : TokenThread}

/-- The last operation was a lock. -/
def holdsMutexes (thread : TokenThread) : Bool :=
  match thread.lockOperations.getLast? with
  | some (.lock _) => true
  | some (.unlock _) | none => false

/-- The call has done its last unlock. -/
def hasReleased (thread : TokenThread) : Bool :=
  match thread.stage with
  | .unlocked _ | .finished _ => true
  | _ => false

/-- No mutex was locked twice or unlocked without a lock, and after the last unlock none
is held. -/
structure BalancesMutexes (thread : TokenThread) : Prop where
  valid : (heldAfter ∅ thread.lockOperations).isSome = true
  released : thread.hasReleased = true → heldAfter ∅ thread.lockOperations = some ∅

/-- The loop is at an accepted result, for which it selects one of several connectors by
the order of the plug-ins. -/
def locksNext (handler : AuthHandler) (thread : TokenThread) : Bool :=
  thread.stage = .iterating && handler.config.selectionAlgorithm = .plugEvents &&
    2 ≤ thread.inner.length &&
    thread.results.head?.any fun result => result.authorizationStatus = .accepted

/-- The connectors are distinct where they are locked, and are locked for one result
only; and `on_token` has referenced the same connectors as `handle_token` if these are
locked at its end, and none if they are not. -/
def matchesLocks (handler : AuthHandler) (thread : TokenThread) : Bool :=
  match thread.stage with
  | .iterating => !thread.locksNext handler || (thread.inner.Nodup && thread.lockOperations = [])
  | .returned _ =>
      if thread.holdsMutexes then thread.outer.isPerm thread.inner else thread.outer = []
  | _ => true

/-- What the stage of a thread tells about the operations before it. -/
def FitsStage (thread : TokenThread) : Prop :=
  match thread.stage with
  | .arrived | .handling | .validating | .stopping | .checkingAvailability =>
      thread.lockOperations = []
  | .iterating | .notifying _ _ | .arming _ _ =>
      thread.lockOperations = [] ∨ thread.holdsMutexes = true
  | .selected connector =>
      connector = -1 ∨ thread.lockOperations = [] ∨ thread.holdsMutexes = true
  | .locked | .relocked => thread.holdsMutexes = true
  | .waiting => thread.holdsMutexes = false ∧ thread.inner.Nodup ∧ thread.inner ≠ []
  | .returned _ => True
  | .unlocked _ | .finished _ => heldAfter ∅ thread.lockOperations = some ∅

/-- The thread holds the mutexes of all referenced connectors, or none. -/
structure MutexState (thread : TokenThread) : Prop where
  holding : thread.holdsMutexes = true →
    heldAfter ∅ thread.lockOperations = some thread.inner.toFinset ∧ thread.inner.Nodup ∧
      thread.inner ≠ []
  free : thread.holdsMutexes = false → heldAfter ∅ thread.lockOperations = some ∅
  fits : thread.FitsStage

theorem MutexState.balances (h : thread.MutexState) : thread.BalancesMutexes := by
  constructor
  · cases hHolds : thread.holdsMutexes with
    | true => rw [(h.holding hHolds).1, Option.isSome_some]
    | false => rw [h.free hHolds, Option.isSome_some]
  · intro hReleased
    have hFits := h.fits
    unfold hasReleased at hReleased
    unfold FitsStage at hFits
    cases hStage : thread.stage <;> simp_all

theorem holdsMutexes_lock (hInner : thread.inner ≠ []) :
    thread.lockPlugInMutex.holdsMutexes = true := by
  obtain ⟨last, hLast⟩ := Option.ne_none_iff_exists'.mp (mt List.getLast?_eq_none_iff.mp hInner)
  simp [holdsMutexes, lockPlugInMutex, List.getLast?_append, hLast]

theorem holdsMutexes_unlock {connectors : List ℤ} (hConnectors : connectors ≠ []) :
    (thread.unlockPlugInMutex connectors).holdsMutexes = false := by
  obtain ⟨last, hLast⟩ :=
    Option.ne_none_iff_exists'.mp (mt List.getLast?_eq_none_iff.mp hConnectors)
  simp [holdsMutexes, unlockPlugInMutex, List.getLast?_append, hLast]

/-- A thread that holds nothing holds the mutexes after it has locked them. -/
theorem MutexState.lock {stage : TokenStage} (h : thread.MutexState)
    (hFree : thread.holdsMutexes = false) (hNodup : thread.inner.Nodup)
    (hInner : thread.inner ≠ []) (hFits : (thread.lockPlugInMutex.goTo stage).FitsStage) :
    (thread.lockPlugInMutex.goTo stage).MutexState := by
  have hHolds : (thread.lockPlugInMutex.goTo stage).holdsMutexes = true := holdsMutexes_lock hInner
  refine ⟨fun _ => ⟨?_, hNodup, hInner⟩, fun hNot => ?_, hFits⟩
  · show heldAfter ∅ (thread.lockOperations ++ thread.inner.map .lock) = some thread.inner.toFinset
    rw [heldAfter_append, h.free hFree, Option.bind_some, heldAfter_lock_iff]
    exact ⟨hNodup, fun _ _ => Finset.notMem_empty _, (Finset.empty_union _).symm⟩
  · rw [hHolds] at hNot
    cases hNot

/-- A thread holds nothing after it has unlocked what it held. -/
theorem MutexState.heldAfter_unlock (h : thread.MutexState) {connectors : List ℤ}
    (hConnectors : if thread.holdsMutexes then connectors.Perm thread.inner else connectors = []) :
    heldAfter ∅ (thread.unlockPlugInMutex connectors).lockOperations = some ∅ := by
  show heldAfter ∅ (thread.lockOperations ++ connectors.map .unlock) = some ∅
  rw [heldAfter_append]
  cases hHolds : thread.holdsMutexes with
  | true =>
      rw [hHolds, if_pos rfl] at hConnectors
      obtain ⟨hHeld, hNodup, -⟩ := h.holding hHolds
      rw [hHeld, Option.bind_some, heldAfter_unlock_eq_empty_iff hNodup]
      exact hConnectors
  | false =>
      rw [hHolds, if_neg Bool.false_ne_true] at hConnectors
      rw [h.free hHolds, hConnectors]
      rfl

theorem MutexState.unlock {stage : TokenStage} (h : thread.MutexState) {connectors : List ℤ}
    (hConnectors : if thread.holdsMutexes then connectors.Perm thread.inner else connectors = [])
    (hFits : ((thread.unlockPlugInMutex connectors).goTo stage).holdsMutexes = false →
      heldAfter ∅ (thread.unlockPlugInMutex connectors).lockOperations = some ∅ →
      ((thread.unlockPlugInMutex connectors).goTo stage).FitsStage) :
    ((thread.unlockPlugInMutex connectors).goTo stage).MutexState := by
  have hHeld := h.heldAfter_unlock hConnectors
  have hNot : ((thread.unlockPlugInMutex connectors).goTo stage).holdsMutexes = false := by
    cases hHolds : thread.holdsMutexes with
    | true =>
        rw [hHolds, if_pos rfl] at hConnectors
        apply holdsMutexes_unlock
        rintro rfl
        exact (h.holding hHolds).2.2 hConnectors.nil_eq.symm
    | false =>
        rw [hHolds, if_neg Bool.false_ne_true] at hConnectors
        subst hConnectors
        simpa [holdsMutexes, unlockPlugInMutex, goTo] using hHolds
  refine ⟨fun hHolds => ?_, fun _ => hHeld, hFits hNot hHeld⟩
  rw [hNot] at hHolds
  cases hHolds

/-- A thread without an operation holds nothing. -/
theorem mutexState_of_nil (hOperations : thread.lockOperations = []) (hFits : thread.FitsStage) :
    thread.MutexState := by
  refine ⟨fun hHolds => ?_, fun _ => by rw [hOperations]; rfl, hFits⟩
  rw [holdsMutexes, hOperations] at hHolds
  cases hHolds

theorem mutexState_of_call (token : ProvidedIdToken) : MutexState { token := token } :=
  mutexState_of_nil rfl (show FitsStage { token := token } from rfl)

/-- The order of the referenced connectors does not matter. -/
theorem MutexState.reorder (h : thread.MutexState)
    (hOperations : thread'.lockOperations = thread.lockOperations)
    (hInner : thread'.inner.Perm thread.inner) (hFits : thread'.FitsStage) : thread'.MutexState := by
  have hSame : thread'.holdsMutexes = thread.holdsMutexes := by
    rw [holdsMutexes, holdsMutexes, hOperations]
  refine ⟨?_, ?_, hFits⟩
  · rw [hSame, hOperations, List.toFinset_eq_of_perm _ _ hInner, hInner.nodup_iff]
    intro hHolds
    obtain ⟨hHeld, hNodup, hNonempty⟩ := h.holding hHolds
    refine ⟨hHeld, hNodup, ?_⟩
    rintro hNil
    rw [hNil] at hInner
    exact hNonempty hInner.nil_eq.symm
  · rw [hSame, hOperations]
    exact h.free

/-- A step without an operation keeps the state if its stage fits. -/
theorem MutexState.stay (h : thread.MutexState)
    (hOperations : thread'.lockOperations = thread.lockOperations)
    (hInner : thread'.inner = thread.inner) (hFits : thread'.FitsStage) : thread'.MutexState :=
  h.reorder hOperations (List.Perm.of_eq hInner) hFits

theorem lockable_of_matchesLocks (hOk : thread.matchesLocks handler = true)
    (hNext : thread.locksNext handler = true) :
    thread.inner.Nodup ∧ thread.lockOperations = [] := by
  have hStage : thread.stage = .iterating := by
    simp only [locksNext, Bool.and_eq_true, decide_eq_true_eq] at hNext
    exact hNext.1.1.1
  rw [matchesLocks, hStage] at hOk
  simpa [hNext] using hOk

theorem unlockable_of_matchesLocks {result : TokenHandlingResult}
    (hOk : thread.matchesLocks handler = true) (hStage : thread.stage = .returned result) :
    if thread.holdsMutexes then thread.outer.Perm thread.inner else thread.outer = [] := by
  rw [matchesLocks, hStage] at hOk
  cases hHolds : thread.holdsMutexes with
  | true => simpa [hHolds, List.isPerm_iff] using hOk
  | false => simpa [hHolds] using hOk

/-- A thread that matches its locks stays in such a state. -/
theorem MutexState.step (h : thread.MutexState) (hStep : Step handler thread handler' thread')
    (hOk : thread.matchesLocks handler = true) : thread'.MutexState := by
  have hFits := h.fits
  unfold FitsStage at hFits
  cases hStep with
  | idle => exact h
  | refuses hStage hAlready | enters hStage hAlready =>
      rw [hStage] at hFits
      exact h.stay rfl rfl (by simp [FitsStage, hFits, heldAfter])
  | stopsOwn connector hStage =>
      rw [hStage] at hFits
      exact mutexState_of_nil hFits trivial
  | prevalidates hStage | asks hStage | receives results hStage =>
      rw [hStage] at hFits
      exact mutexState_of_nil hFits hFits
  | stopsByParent connector hStage => exact h.stay rfl rfl trivial
  | findsPending connector hStage => exact h.stay rfl rfl trivial
  | goesOn hStage =>
      rw [hStage] at hFits
      exact h.stay rfl rfl hFits
  | findsAvailable hStage =>
      rw [hStage] at hFits
      exact h.stay rfl rfl (Or.inl hFits)
  | findsNone hStage | rejects hStage | givesUp hStage | arms connector result hStage =>
      exact h.stay rfl rfl trivial
  | skips result results hStage =>
      rw [hStage] at hFits
      refine h.stay rfl rfl ?_
      simp only [FitsStage, hStage]
      exact hFits
  | selectsFirst connector hStage =>
      rw [hStage] at hFits
      exact h.stay rfl rfl (Or.inr hFits)
  | locks result hStage hResult hStatus hMany hAlgorithm =>
      have hNext : thread.locksNext handler = true := by
        simp [locksNext, hStage, hAlgorithm, hMany, hResult, hStatus]
      obtain ⟨hNodup, hNil⟩ := lockable_of_matchesLocks hOk hNext
      have hInner : thread.inner ≠ [] := List.ne_nil_of_length_pos (by omega)
      refine h.lock ?_ hNodup hInner (holdsMutexes_lock hInner)
      rw [holdsMutexes, hNil]
      rfl
  | unlocks hStage hNone =>
      rw [hStage] at hFits
      obtain ⟨-, hNodup, hInner⟩ := h.holding hFits
      apply h.unlock
      · rw [if_pos hFits]
      · exact fun hNot _ => ⟨hNot, hNodup, hInner⟩
  | sees hStage =>
      rw [hStage] at hFits
      exact h.stay rfl rfl hFits
  | wakes hStage =>
      rw [hStage] at hFits
      exact h.lock hFits.1 hFits.2.1 hFits.2.2 (holdsMutexes_lock hFits.2.2)
  | timesOut hStage => exact h.stay rfl rfl (Or.inl rfl)
  | picks hStage =>
      rw [hStage] at hFits
      exact h.stay rfl rfl (Or.inr (Or.inr hFits))
  | decides connector result results inner hStage hFound hResults hInner =>
      rw [hStage] at hFits
      exact h.reorder rfl hInner (hFits.resolve_left hFound)
  | places connector result hStage =>
      rw [hStage] at hFits
      exact h.stay rfl rfl hFits
  | reports connector result hStage =>
      rw [hStage] at hFits
      exact h.stay rfl rfl hFits
  | unlocksAll result hStage =>
      exact h.unlock (unlockable_of_matchesLocks hOk hStage) fun _ hHeld => hHeld
  | keepsToken hStage | leaves result hStage =>
      rw [hStage] at hFits
      exact h.stay rfl rfl hFits

theorem iterate_of_locksNext (h : thread.locksNext handler = true) :
    thread.iterate handler = thread.lockPlugInMutex.goTo .locked := by
  simp only [locksNext, Bool.and_eq_true, decide_eq_true_eq] at h
  obtain ⟨⟨⟨-, hAlgorithm⟩, hMany⟩, hStatus⟩ := h
  unfold iterate
  split
  · next hResults => simp [hResults] at hStatus
  · next hInner => simp [hInner] at hMany
  · next result results first others hResults hInner =>
    have hOthers : others ≠ [] := by
      rintro rfl
      simp [hInner] at hMany
    rw [if_neg (by simpa [hResults] using hStatus), if_neg hOthers, hAlgorithm]

/-- A step after which the operations are balanced matches the locks. -/
theorem MutexState.matchesLocks (h : thread.MutexState) (move : TokenMove)
    (hNext : (thread.act handler move).2.BalancesMutexes) :
    thread.matchesLocks handler = true := by
  have hFits := h.fits
  unfold FitsStage at hFits
  unfold TokenThread.matchesLocks
  cases hStage : thread.stage with
  | iterating =>
      rw [hStage] at hFits
      cases hLocks : thread.locksNext handler with
      | false => rfl
      | true =>
          have hValid := hNext.valid
          simp only [act, hStage, iterate_of_locksNext hLocks] at hValid
          obtain ⟨held, hHeld⟩ := Option.isSome_iff_exists.mp hValid
          replace hHeld : heldAfter ∅ (thread.lockOperations ++ thread.inner.map .lock) =
            some held := hHeld
          rcases hFits with hNil | hHolds
          · rw [hNil, List.nil_append, heldAfter_lock_iff] at hHeld
            simp [hNil, hHeld.1]
          · -- the connectors are still locked for an earlier result
            obtain ⟨hBefore, -, hInner⟩ := h.holding hHolds
            rw [heldAfter_append, hBefore, Option.bind_some, heldAfter_lock_iff] at hHeld
            obtain ⟨first, others, hCons⟩ := List.exists_cons_of_ne_nil hInner
            have hFirst : first ∈ thread.inner := by simp [hCons]
            exact absurd (List.mem_toFinset.mpr hFirst) (hHeld.2.1 first hFirst)
  | returned result =>
      have hReleased := hNext.released (by simp only [act, hStage]; rfl)
      simp only [act, hStage] at hReleased
      replace hReleased : heldAfter ∅ (thread.lockOperations ++ thread.outer.map .unlock) =
        some ∅ := hReleased
      rw [heldAfter_append] at hReleased
      cases hHolds : thread.holdsMutexes with
      | true =>
          obtain ⟨hBefore, hNodup, -⟩ := h.holding hHolds
          rw [hBefore, Option.bind_some, heldAfter_unlock_eq_empty_iff hNodup] at hReleased
          simpa [List.isPerm_iff] using hReleased
      | false =>
          rw [h.free hHolds, Option.bind_some, heldAfter_unlock_iff] at hReleased
          have hNone : thread.outer = [] :=
            List.eq_nil_iff_forall_not_mem.mpr fun connector hMem =>
              absurd (hReleased.2.1 connector hMem) (Finset.notMem_empty _)
          simp [hNone]
  | _ => rfl

end TokenThread

namespace AuthModule

/-- All calls so far keep their operations on the mutexes balanced. -/
def BalancesMutexes (s : AuthModule) : Prop :=
  ∀ thread ∈ s.parties, thread.BalancesMutexes

/-- The operations of all calls on the mutexes are balanced in all states of a run
exactly if every step of a thread matches what the thread has locked. -/
theorem mutexes_balanced_iff (config : AuthConfig) (prioritize : Bool) (inputs : List AuthInput) :
    (∀ mid, mid <+: inputs → BalancesMutexes (run step (start config prioritize) mid)) ↔
      EveryStep step (MoverMeets fun handler thread => thread.matchesLocks handler)
        (start config prioritize) inputs := by
  apply forall_prefix_iff_everyStep
    (fun s : AuthModule => ∀ thread ∈ s.parties, thread.MutexState) BalancesMutexes
  · exact fun thread hThread => absurd hThread List.not_mem_nil
  · exact fun thread hThread => absurd hThread List.not_mem_nil
  · intro s input h _ hOk
    cases input with
    | onToken token => exact Parties.forall_join h (TokenThread.mutexState_of_call token)
    | turn i move =>
        apply Parties.forall_turn h
        intro thread hThread
        exact (h thread (List.mem_of_getElem? hThread)).step (TokenThread.step_act _ _ _)
          (hOk thread hThread)
    | event event => exact h
  · intro s input h hBalanced
    cases input with
    | onToken token =>
        exact iff_of_true
          (Parties.forall_join hBalanced (TokenThread.mutexState_of_call token).balances) trivial
    | turn i move =>
        constructor
        · intro hNext thread hThread
          apply (h thread (List.mem_of_getElem? hThread)).matchesLocks move
          exact hNext _ ((Parties.mem_turn hThread).mpr (Or.inl rfl))
        · intro hOk
          apply Parties.forall_turn hBalanced
          intro thread hThread
          exact ((h thread (List.mem_of_getElem? hThread)).step (TokenThread.step_act _ _ _)
            (hOk thread hThread)).balances
    | event event => exact iff_of_true hBalanced trivial

/-- A token at a station with one connector: its call unlocks a mutex that it has not
locked. -/
theorem single_connector_unlocked_without_lock :
    ¬ BalancesMutexes (run step (start .oneConnector false)
      (handleToken 0 { idToken := "A", type := .rfid } [{ authorizationStatus := .accepted }] 8)) := by
  intro h
  have hValid : ∀ thread ∈ (run step (start .oneConnector false) (handleToken 0
      { idToken := "A", type := .rfid } [{ authorizationStatus := .accepted }] 8)).parties,
      (heldAfter ∅ thread.lockOperations).isSome = true := fun thread hThread =>
    (h thread hThread).valid
  exact absurd hValid (by decide)

end AuthModule

end EverestCore.Auth
