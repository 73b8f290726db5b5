import EverestCore.Auth.TokenThreads

/-! The tokens in process. A call of `on_token` enters its token in the set before it
handles it and takes it out afterwards, unless it was refused or its result says so. -/
namespace EverestCore.Auth
open EverestCore.Machine

namespace TokenThread

variable {handler handler' : AuthHandler} {thread thread' : TokenThread}

/-- What a step does to the tokens in process: the token of the thread comes in, or it
goes out, or it is left in at the end, or nothing happens. -/
theorem Step.tokensInProcess (h : Step handler thread handler' thread') :
    (thread.isInProcess = false ∧ thread'.isInProcess = true ∧
      thread.token.idToken ∉ handler.tokensInProcess ∧
      handler'.tokensInProcess = insert thread.token.idToken handler.tokensInProcess) ∨
    (thread.isInProcess = true ∧ thread'.isInProcess = false ∧
      handler'.tokensInProcess = handler.tokensInProcess.erase thread.token.idToken) ∨
    (thread.stage = .unlocked .alreadyInProcess ∧ thread'.isInProcess = false ∧
      handler'.tokensInProcess = handler.tokensInProcess) ∨
    (thread'.isInProcess = thread.isInProcess ∧
      handler'.tokensInProcess = handler.tokensInProcess) := by
  cases h with
  | enters hStage hAlready =>
      left
      have hNot : thread.token.idToken ∉ handler.tokensInProcess := by
        intro hMem
        simp [AuthHandler.isTokenAlreadyInProcess, hMem] at hAlready
      exact ⟨by simp [isInProcess, hStage], rfl, hNot, rfl⟩
  | leaves result hStage hResult =>
      right; left
      exact ⟨by simp [isInProcess, hStage], rfl, rfl⟩
  | keepsToken hStage =>
      right; right; left
      exact ⟨hStage, rfl, rfl⟩
  | decides connector result results inner hStage =>
      right; right; right
      obtain ⟨reservationHandler, hEq⟩ :=
        handler.checkReservation_eq connector thread.token result thread.inner
      exact ⟨by simp [isInProcess, hStage], by rw [hEq]⟩
  | idle => exact Or.inr (Or.inr (Or.inr ⟨rfl, rfl⟩))
  | skips result results hStage hResults hStatus => exact Or.inr (Or.inr (Or.inr ⟨rfl, rfl⟩))
  | _ => exact Or.inr (Or.inr (Or.inr ⟨by simp_all [isInProcess, goTo], rfl⟩))

/-- The thread looks for a transaction to stop by a parent of its token, and finds a
connector that was given to that group of tokens and has no transaction yet. -/
def meetsPending (handler : AuthHandler) (thread : TokenThread) : Bool :=
  thread.stage = .stopping && handler.attemptStopWithParentIdToken thread.inner &&
    (handler.usedByParent thread.inner thread.results).any fun connector =>
      !(handler.connectors connector).transactionActive

/-- The call is going to leave its token among those in process. -/
def keepsTokenIn (thread : TokenThread) : Bool :=
  thread.stage = .returned .alreadyInProcess || thread.stage = .unlocked .alreadyInProcess

theorem Step.keepsTokenIn (h : Step handler thread handler' thread')
    (hBefore : thread.keepsTokenIn = false) (hPending : thread.meetsPending handler = false) :
    thread'.keepsTokenIn = false := by
  cases h with
  | idle => exact hBefore
  | skips result results hStage hResults hStatus => exact hBefore
  | findsPending connector hStage hAttempt hParent hActive =>
      simp [meetsPending, hStage, hAttempt, hParent, hActive] at hPending
  | unlocksAll result hStage =>
      have hResult : result ≠ .alreadyInProcess := by
        rintro rfl
        simp [TokenThread.keepsTokenIn, hStage] at hBefore
      simp [TokenThread.keepsTokenIn, goTo, hResult]
  | _ => rfl

/-- The answer that a token is already in process is given at the start, or at the end
of a call whose result it is. -/
theorem Step.answeredAlready (h : Step handler thread handler' thread')
    (hRunning : thread.isRunning = true) (hAnswer : thread'.stage = .finished .alreadyInProcess) :
    (thread.stage = .arrived ∧ handler.isTokenAlreadyInProcess thread.token.idToken
      (handler.getReferencedConnectors thread.token) = true) ∨
    thread.stage = .unlocked .alreadyInProcess := by
  cases h with
  | idle => simp [isRunning, hAnswer] at hRunning
  | skips result results hStage hResults hStatus =>
      rw [hStage] at hAnswer
      cases hAnswer
  | refuses hStage hAlready => exact Or.inl ⟨hStage, hAlready⟩
  | keepsToken hStage => exact Or.inr hStage
  | leaves result hStage hResult =>
      cases hAnswer
      exact absurd rfl hResult
  | _ => cases hAnswer

end TokenThread

theorem AuthHandler.handleEvent_tokensInProcess (handler : AuthHandler) (event : AuthEvent) :
    (handler.handleEvent event).tokensInProcess = handler.tokensInProcess := by
  cases event with
  | sessionEvent connector message => exact handler.handleSessionEvent_tokensInProcess _ _
  | timeout connector purpose => exact handler.timeout_tokensInProcess _ _
  | handleReservation now connector reservation =>
      dsimp only [AuthHandler.handleEvent]
      split <;> rfl
  | _ => rfl

namespace AuthModule

/-- The calls of one token are kept apart by the set of the tokens in process. -/
structure KeepsTokensApart (s : AuthModule) : Prop where
  entered : ∀ thread ∈ s.parties, thread.isInProcess = true →
    thread.token.idToken ∈ s.shared.tokensInProcess
  exclusive : ∀ idToken, s.Exclusive fun thread =>
    thread.isInProcess && thread.token.idToken == idToken

/-- While a call has its token in process, no other call of that token has. -/
theorem KeepsTokensApart.ne_of_mem_others {s : AuthModule} (h : s.KeepsTokensApart) {i : ℕ}
    {thread other : TokenThread} (hThread : s.parties[i]? = some thread)
    (hProcess : thread.isInProcess = true) (hOther : other ∈ s.others i)
    (hOtherProcess : other.isInProcess = true) : other.token.idToken ≠ thread.token.idToken := by
  intro hSame
  have hFree := (h.exclusive thread.token.idToken).others_eq_false hThread
    (by simp [hProcess]) other hOther
  simp [hOtherProcess, hSame] at hFree

theorem KeepsTokensApart.turn {s : AuthModule} (h : s.KeepsTokensApart) (i : ℕ)
    (move : TokenMove) : KeepsTokensApart (s.turn TokenThread.act i move) := by
  apply Parties.turn_invariant KeepsTokensApart h
  intro thread hThread
  have hStep := TokenThread.step_act s.shared thread move
  have hOthers : ∀ other ∈ s.others i, other.isInProcess = true →
      other.token.idToken ∈ s.shared.tokensInProcess :=
    fun other hOther => h.entered other (Parties.mem_of_mem_others hOther)
  constructor
  · intro other hOther hProcess
    rw [Parties.shared_turn hThread]
    rcases (Parties.mem_turn hThread).mp hOther with rfl | hOther
    · rw [hStep.token]
      rcases hStep.tokensInProcess with
        ⟨-, -, -, hSet⟩ | ⟨-, hAfter, -⟩ | ⟨-, hAfter, -⟩ | ⟨hSame, hSet⟩
      · rw [hSet]
        exact Finset.mem_insert_self _ _
      · rw [hAfter] at hProcess
        cases hProcess
      · rw [hAfter] at hProcess
        cases hProcess
      · rw [hSet]
        exact h.entered thread (List.mem_of_getElem? hThread) (hSame ▸ hProcess)
    · have hMem := hOthers other hOther hProcess
      rcases hStep.tokensInProcess with
        ⟨-, -, -, hSet⟩ | ⟨hBefore, -, hSet⟩ | ⟨-, -, hSet⟩ | ⟨-, hSet⟩
      · rw [hSet]
        exact Finset.mem_insert_of_mem hMem
      · rw [hSet]
        exact Finset.mem_erase.mpr ⟨h.ne_of_mem_others hThread hBefore hOther hProcess, hMem⟩
      · rwa [hSet]
      · rwa [hSet]
  · intro idToken
    apply (h.exclusive idToken).turn
    intro party hParty hHolds
    rw [hThread] at hParty
    cases hParty
    rw [Bool.and_eq_true, beq_iff_eq, hStep.token] at hHolds
    rcases hStep.tokensInProcess with
      ⟨-, -, hNot, -⟩ | ⟨-, hAfter, -⟩ | ⟨-, hAfter, -⟩ | ⟨hSame, -⟩
    · right
      intro other hOther
      rw [Bool.and_eq_false_iff]
      by_contra hBoth
      rw [not_or, Bool.not_eq_false, Bool.not_eq_false, beq_iff_eq] at hBoth
      have hMem := hOthers other hOther hBoth.1
      rw [hBoth.2, ← hHolds.2] at hMem
      exact hNot hMem
    · rw [hAfter] at hHolds
      cases hHolds.1
    · rw [hAfter] at hHolds
      cases hHolds.1
    · left
      simp [← hSame, hHolds]

theorem KeepsTokensApart.step {s : AuthModule} (h : s.KeepsTokensApart) (input : AuthInput) :
    (s.step input).KeepsTokensApart := by
  cases input with
  | onToken token =>
      exact ⟨Parties.forall_join h.entered nofun, fun idToken => (h.exclusive idToken).join rfl⟩
  | turn i move => exact h.turn i move
  | event event =>
      refine ⟨?_, h.exclusive⟩
      intro thread hThread hProcess
      rw [AuthModule.step, AuthHandler.handleEvent_tokensInProcess]
      exact h.entered thread hThread hProcess

/-- At any time at most one call of `on_token` for a token is executing `handle_token`,
in whatever order calls, events and timers come. -/
theorem one_handle_token_at_a_time (config : AuthConfig) (prioritize : Bool)
    (inputs : List AuthInput) (idToken : String) :
    (run step (start config prioritize) inputs).Exclusive fun thread =>
      thread.isHandling && thread.token.idToken == idToken := by
  have hApart : KeepsTokensApart (run step (start config prioritize) inputs) := by
    apply run_invariant KeepsTokensApart
    · exact ⟨fun thread hThread => absurd hThread List.not_mem_nil, fun _ => Nat.zero_le 1⟩
    · exact fun s input h => h.step input
  apply (hApart.exclusive idToken).mono
  intro thread hHandling
  rw [Bool.and_eq_true] at hHandling ⊢
  exact ⟨TokenThread.isInProcess_of_isHandling hHandling.1, hHandling.2⟩

/-- Every token in process is the one of a call that is running. -/
def NoneStuck (s : AuthModule) : Prop :=
  ∀ idToken ∈ s.shared.tokensInProcess, ∃ thread ∈ s.parties,
    thread.isRunning = true ∧ thread.token.idToken = idToken

/-- A call is answered that its token is already in process only while another call of
the token is running, or while a referenced connector was given to the token and has no
transaction. -/
def AnswersTruly (s : AuthModule) : AuthInput → Prop
  | .turn i move => ∀ thread, s.parties[i]? = some thread → thread.isRunning = true →
      (thread.act s.shared move).2.stage = .finished .alreadyInProcess →
      (∃ other ∈ s.others i, other.isRunning = true ∧
        other.token.idToken = thread.token.idToken) ∨
      ∃ connector ∈ s.shared.getReferencedConnectors thread.token,
        (s.shared.connectors connector).isPendingFor thread.token.idToken = true
  | .onToken _ | .event _ => True

/-- Every token in process has a call that is going to take it out. -/
structure ReturnsTokens (s : AuthModule) : Prop where
  owners : ∀ idToken ∈ s.shared.tokensInProcess, ∃ thread ∈ s.parties,
    thread.isInProcess = true ∧ thread.token.idToken = idToken
  results : ∀ thread ∈ s.parties, thread.keepsTokenIn = false

theorem ReturnsTokens.noneStuck {s : AuthModule} (h : s.ReturnsTokens) : s.NoneStuck := by
  intro idToken hToken
  obtain ⟨thread, hThread, hProcess, hId⟩ := h.owners idToken hToken
  exact ⟨thread, hThread, TokenThread.isRunning_of_isInProcess hProcess, hId⟩

theorem ReturnsTokens.turn {s : AuthModule} (h : s.ReturnsTokens) (i : ℕ) (move : TokenMove)
    (hOk : MoverMeets (fun handler thread => !thread.meetsPending handler) s (.turn i move)) :
    ReturnsTokens (s.turn TokenThread.act i move) := by
  apply Parties.turn_invariant ReturnsTokens h
  intro thread hThread
  have hStep := TokenThread.step_act s.shared thread move
  have hMem := List.mem_of_getElem? hThread
  have hPending : thread.meetsPending s.shared = false := by
    simpa using hOk thread hThread
  refine ⟨?_, Parties.forall_turn h.results fun party hParty => ?_⟩
  · intro idToken hToken
    rw [Parties.shared_turn hThread] at hToken
    -- a token that was in process keeps its call, unless the call is the one that moves
    have hKept : idToken ∈ s.shared.tokensInProcess →
        (thread.isInProcess = true → thread.token.idToken = idToken →
          (thread.act s.shared move).2.isInProcess = true) →
        ∃ party ∈ (s.turn TokenThread.act i move).parties,
          party.isInProcess = true ∧ party.token.idToken = idToken := by
      intro hBefore hStays
      apply Parties.exists_turn (h.owners idToken hBefore)
      rintro party hParty ⟨hProcess, hId⟩
      rw [hThread] at hParty
      cases hParty
      exact ⟨hStays hProcess hId, by rw [hStep.token, hId]⟩
    rcases hStep.tokensInProcess with
      ⟨-, hAfter, -, hSet⟩ | ⟨-, -, hSet⟩ | ⟨hStage, -⟩ | ⟨hSame, hSet⟩
    · rw [hSet, Finset.mem_insert] at hToken
      rcases hToken with rfl | hToken
      · exact ⟨_, (Parties.mem_turn hThread).mpr (Or.inl rfl), hAfter, by rw [hStep.token]⟩
      · exact hKept hToken fun _ _ => hAfter
    · rw [hSet, Finset.mem_erase] at hToken
      exact hKept hToken.2 fun _ hId => absurd hId.symm hToken.1
    · have hResult := h.results thread hMem
      simp [TokenThread.keepsTokenIn, hStage] at hResult
    · rw [hSet] at hToken
      exact hKept hToken fun hProcess _ => hSame.trans hProcess
  · rw [hThread] at hParty
    cases hParty
    exact hStep.keepsTokenIn (h.results thread hMem) hPending

theorem ReturnsTokens.step {s : AuthModule} (h : s.ReturnsTokens) (input : AuthInput)
    (hOk : MoverMeets (fun handler thread => !thread.meetsPending handler) s input) :
    (s.step input).ReturnsTokens := by
  cases input with
  | onToken token =>
      constructor
      · intro idToken hToken
        obtain ⟨thread, hThread, hOwner⟩ := h.owners idToken hToken
        exact ⟨thread, List.mem_append_left _ hThread, hOwner⟩
      · exact Parties.forall_join h.results rfl
  | turn i move => exact h.turn i move hOk
  | event event =>
      refine ⟨?_, h.results⟩
      intro idToken hToken
      rw [AuthModule.step, AuthHandler.handleEvent_tokensInProcess] at hToken
      exact h.owners idToken hToken

theorem ReturnsTokens.answersTruly {s : AuthModule} (h : s.ReturnsTokens) (input : AuthInput) :
    s.AnswersTruly input := by
  cases input with
  | onToken token => trivial
  | event event => trivial
  | turn i move =>
      intro thread hThread hRunning hAnswer
      have hResult := h.results thread (List.mem_of_getElem? hThread)
      rcases (TokenThread.step_act s.shared thread move).answeredAlready hRunning hAnswer with
        ⟨hStage, hAlready⟩ | hStage
      · rw [AuthHandler.isTokenAlreadyInProcess, Bool.or_eq_true, decide_eq_true_eq,
          List.any_eq_true] at hAlready
        rcases hAlready with hToken | hPending
        · left
          obtain ⟨other, hOther, hProcess, hId⟩ := h.owners _ hToken
          refine ⟨other, Parties.mem_others hThread hOther ?_,
            TokenThread.isRunning_of_isInProcess hProcess, hId⟩
          rintro rfl
          simp [TokenThread.isInProcess, hStage] at hProcess
        · exact Or.inr hPending
      · simp [TokenThread.keepsTokenIn, hStage] at hResult

/-- As long as no thread meets a connector that was given to the group of its token and
has no transaction, no token is stuck among those in process, and the answer that a
token is already in process is true. -/
theorem tokens_not_stuck (config : AuthConfig) (prioritize : Bool) (inputs : List AuthInput)
    (hOk : EveryStep step (MoverMeets fun handler thread => !thread.meetsPending handler)
      (start config prioritize) inputs) :
    NoneStuck (run step (start config prioritize) inputs) ∧
      EveryStep step AnswersTruly (start config prioritize) inputs := by
  have hStart : (start config prioritize).ReturnsTokens :=
    ⟨fun idToken hToken => absurd hToken (Finset.notMem_empty _),
      fun thread hThread => absurd hThread List.not_mem_nil⟩
  have hStep : ∀ s input, ReturnsTokens s →
      MoverMeets (fun handler thread => !thread.meetsPending handler) s input →
      (s.step input).ReturnsTokens := fun s input h => h.step input
  constructor
  · exact (run_invariant_of_everyStep ReturnsTokens hStart hStep inputs hOk).noneStuck
  · exact everyStep_of_invariant ReturnsTokens hStart hStep
      (fun s input h _ => h.answersTruly input) inputs hOk

/-- A card is accepted, and shown again before the transaction has started. -/
theorem tokens_not_stuck_shown_twice :
    let inputs := handleToken 0 { idToken := "A", type := .rfid }
      [{ authorizationStatus := .accepted, parentIdToken := some "P" }] 8 ++
      [AuthInput.onToken { idToken := "A", type := .rfid }, .turn 1 .proceed]
    EveryStep step (MoverMeets fun handler thread => !thread.meetsPending handler)
        (start .oneConnector false) inputs ∧
      NoneStuck (run step (start .oneConnector false) inputs) ∧
      EveryStep step AnswersTruly (start .oneConnector false) inputs := by
  intro inputs
  have hOk : EveryStep step (MoverMeets fun handler thread => !thread.meetsPending handler)
      (start .oneConnector false) inputs := by decide
  exact ⟨hOk, tokens_not_stuck .oneConnector false inputs hOk⟩

/-- Two cards have the same parent. The second one is shown before the transaction of
the first one has started: its call has returned, but the card stays in process. -/
theorem second_card_stuck :
    ¬ NoneStuck (run step (start .oneConnector false)
      (handleToken 0 { idToken := "A", type := .rfid }
        [{ authorizationStatus := .accepted, parentIdToken := some "P" }] 8 ++
      handleToken 1 { idToken := "B", type := .rfid }
        [{ authorizationStatus := .accepted, parentIdToken := some "P" }] 3)) := by
  intro h
  obtain ⟨thread, hThread, hRunning, -⟩ := h "B" (by decide)
  have hFinished : ∀ thread ∈ (run step (start .oneConnector false)
      (handleToken 0 { idToken := "A", type := .rfid }
        [{ authorizationStatus := .accepted, parentIdToken := some "P" }] 8 ++
      handleToken 1 { idToken := "B", type := .rfid }
        [{ authorizationStatus := .accepted, parentIdToken := some "P" }] 3)).parties,
      thread.isRunning = false := by decide
  rw [hFinished thread hThread] at hRunning
  cases hRunning

end AuthModule

end EverestCore.Auth
