import EverestCore.Firmware.UpdateSteps

/-! The firmware updates exclude each other as long as no flag is set that is set already,
and a signed request is not rejected: it is answered after its update was launched. -/
namespace EverestCore.Firmware
open Machine

namespace Updater

variable {defaultRetries : ℤ} {s : Updater} {i : ℕ} {move : WorkerMove}

/-- The worker whose turn it is is orderly. -/
def isOrderly (s : Updater) : UpdaterInput → Bool
  | .turn i move => s.parties[i]?.all (·.isOrderly s.shared move)
  | .updateFirmware _ | .timer _ => true

theorem isOrderly_turn {worker : Worker} (h : s.isOrderly (.turn i move) = true)
    (hWorker : s.parties[i]? = some worker) : worker.isOrderly s.shared move = true := by
  simpa [isOrderly, hWorker] using h

/-- The rule for the step of a worker: what holds after its turn holds after the thread
that it starts has come in. -/
theorem work_invariant (inv : Updater → Prop)
    (hTurn : inv (s.turn (Worker.act defaultRetries) i move))
    (hSpawn : ∀ worker stage, s.parties[i]? = some worker →
      stage ∈ (worker.advance defaultRetries s.shared move).2.2 →
      inv ((s.turn (Worker.act defaultRetries) i move).join { worker with stage := stage })) :
    inv (s.work defaultRetries i move) := by
  unfold work
  cases hWorker : s.parties[i]? with
  | none => exact hTurn
  | some worker =>
      simp only [Option.bind_some, Worker.spawns]
      cases hStage : (worker.advance defaultRetries s.shared move).2.2 with
      | none => exact hTurn
      | some stage => exact hSpawn worker stage hWorker hStage

/-- The rule for a timer: its callback comes in, and the timer is not set any more. -/
theorem fire_invariant (inv : Updater → Prop) (name : TimerName) (h : inv s)
    (hFire : ∀ callback ∈ s.shared.callbacks, ∀ shared stage, stage.lock = none →
      stage.isHandler = false → shared.log = s.shared.log →
      (∀ lock, shared.isSet lock = s.shared.isSet lock) →
      (∀ other ∈ shared.callbacks, other ∈ s.shared.callbacks) →
      inv (Parties.join ⟨callback.call, callback.request, stage⟩ { s with shared := shared })) :
    inv (s.fire name) := by
  unfold fire
  cases name with
  | standardUpdateFirmware =>
      dsimp only
      split
      · exact h
      · next call request hTimer =>
        refine hFire ⟨call, request⟩ ?_ _ .standardBegin rfl rfl rfl ?_ ?_
        · exact UpdateFlags.mem_callbacks.mpr (.inl hTimer)
        · rintro (_ | _ | _) <;> rfl
        · simp +contextual [UpdateFlags.callbacks]
  | signedFirmwareUpdateDownload =>
      dsimp only
      split
      · exact h
      · next call request hTimer =>
        refine hFire ⟨call, request⟩ ?_ _ .downloadBegin rfl rfl rfl ?_ ?_
        · exact UpdateFlags.mem_callbacks.mpr (.inr (.inl hTimer))
        · rintro (_ | _ | _) <;> rfl
        · simp +contextual [UpdateFlags.callbacks, or_imp]
  | signedFirmwareUpdateInstall =>
      dsimp only
      split
      · exact h
      · next call request hTimer =>
        refine hFire ⟨call, request⟩ ?_ _ .installBegin rfl rfl rfl ?_ ?_
        · exact UpdateFlags.mem_callbacks.mpr (.inr (.inr hTimer))
        · rintro (_ | _ | _) <;> rfl
        · simp +contextual [UpdateFlags.callbacks, or_imp]

theorem locked_start (lock : UpdateLock) :
    start.Locked (Worker.holds lock) (·.isSet lock) where
  exclusive := Nat.zero_le 1
  free _ := by simp [start]

/-- The locks keep the workers apart in an orderly step. -/
theorem locked_step (lock : UpdateLock) {input : UpdaterInput}
    (h : s.Locked (Worker.holds lock) (·.isSet lock)) (hOrderly : s.isOrderly input = true) :
    (s.step defaultRetries input).Locked (Worker.holds lock) (·.isSet lock) := by
  unfold step
  split
  · exact h
  · cases input with
    | updateFirmware request => exact h.join rfl
    | timer name =>
        apply fire_invariant (Parties.Locked (Worker.holds lock) (·.isSet lock)) name h
        intro callback _ shared stage hLock _ _ hSet _
        apply Parties.Locked.join
        · exact ⟨h.exclusive, fun hFree => h.free (by rwa [hSet] at hFree)⟩
        · simp [Worker.holds, hLock]
    | turn i move =>
        have hStep (worker : Worker) (hWorker : s.parties[i]? = some worker) :=
          @Worker.lockStep_advance defaultRetries s.shared worker move
            (isOrderly_turn hOrderly hWorker)
        have hTurn : (s.turn (Worker.act defaultRetries) i move).Locked (Worker.holds lock)
            (·.isSet lock) := by
          apply h.turn
          · intro worker hWorker hBefore hAfter
            simp only [Worker.holds, decide_eq_false_iff_not, decide_eq_true_eq] at hBefore hAfter
            exact (hStep worker hWorker).gain hBefore hAfter
          · intro worker hWorker hHolder hFree
            simp only [Worker.holds, decide_eq_false_iff_not, decide_eq_true_eq] at hHolder ⊢
            exact (hStep worker hWorker).reset hHolder hFree
        apply work_invariant _ hTurn
        intro worker stage hWorker hStage
        have hSpawned := (@Worker.recorded_advance defaultRetries s.shared worker move
          (isOrderly_turn hOrderly hWorker)).spawned stage hStage
        exact hTurn.join (by simp [Worker.holds, hSpawned.1])

/-- The handler of the command has come so far. -/
def HandlerAt (ok : WorkerStage → Bool) (call : ℕ) (s : Updater) : Prop :=
  ∃ worker : Worker, s.parties[call]? = some worker ∧ worker.stage.isHandler = true ∧
    ok worker.stage = true

/-- All that is left of a command goes back to a handler that has come so far. -/
structure Accounted (s : Updater) : Prop where
  place : ∀ (i : ℕ) (worker : Worker), s.parties[i]? = some worker → worker.stage.isHandler = true →
    worker.call = i
  threads : ∀ worker ∈ s.parties, worker.stage.isHandler = false →
    s.HandlerAt WorkerStage.hasLaunched worker.call
  callbacks : ∀ callback ∈ s.shared.callbacks,
    s.HandlerAt WorkerStage.hasLaunched callback.call
  log : ∀ entry ∈ s.shared.log, s.HandlerAt entry.fits entry.call

theorem accounted_start : start.Accounted where
  place := by simp [start]
  threads := by simp [start]
  callbacks := by simp [start, UpdateFlags.callbacks]
  log := by simp [start]

/-- Workers keep their places, and handlers go on. -/
def GoesOn (s next : Updater) : Prop :=
  ∀ (i : ℕ) (worker : Worker), s.parties[i]? = some worker → ∃ stage : WorkerStage,
    next.parties[i]? = some { worker with stage := stage } ∧
    stage.isHandler = worker.stage.isHandler ∧
    (worker.stage.hasLaunched = true → stage.hasLaunched = true) ∧
    ∀ response, worker.stage = .answered response → stage = .answered response

variable {next : Updater}

theorem HandlerAt.launched {call : ℕ} (h : s.HandlerAt WorkerStage.hasLaunched call)
    (hNext : s.GoesOn next) : next.HandlerAt WorkerStage.hasLaunched call := by
  obtain ⟨worker, hWorker, hHandler, hLaunched⟩ := h
  obtain ⟨stage, hStage, hSame, hKeeps, -⟩ := hNext call worker hWorker
  exact ⟨_, hStage, hSame.trans hHandler, hKeeps hLaunched⟩

theorem HandlerAt.fits {entry : UpdateEntry} (h : s.HandlerAt entry.fits entry.call)
    (hNext : s.GoesOn next) : next.HandlerAt entry.fits entry.call := by
  cases entry with
  | started call script => exact HandlerAt.launched h hNext
  | published call requestId status => exact HandlerAt.launched h hNext
  | answered call response =>
      obtain ⟨worker, hWorker, hHandler, hFits⟩ := h
      obtain ⟨stage, hStage, hSame, -, hKeeps⟩ := hNext _ worker hWorker
      refine ⟨_, hStage, hSame.trans hHandler, ?_⟩
      simp only [UpdateEntry.fits, decide_eq_true_eq] at hFits ⊢
      exact hKeeps response hFits

theorem goesOn_join (worker : Worker) (shared : UpdateFlags) :
    s.GoesOn (Parties.join worker { s with shared := shared }) := by
  intro i other hOther
  obtain ⟨hBound, -⟩ := List.getElem?_eq_some_iff.mp hOther
  refine ⟨other.stage, ?_, rfl, id, fun _ => id⟩
  rw [Parties.join, List.getElem?_append_left hBound]
  exact hOther

theorem goesOn_turn (hOrderly : s.isOrderly (.turn i move) = true) :
    s.GoesOn (s.turn (Worker.act defaultRetries) i move) := by
  intro j other hOther
  cases hWorker : s.parties[i]? with
  | none =>
      rw [Parties.turn_of_none hWorker]
      exact ⟨other.stage, hOther, rfl, id, fun _ => id⟩
  | some worker =>
      rw [Parties.turn_of_some hWorker]
      by_cases hSame : i = j
      · subst hSame
        obtain rfl : worker = other := Option.some.inj (hWorker.symm.trans hOther)
        obtain ⟨hBound, -⟩ := List.getElem?_eq_some_iff.mp hOther
        have hRecorded := @Worker.recorded_advance defaultRetries s.shared worker move
          (isOrderly_turn hOrderly hWorker)
        exact ⟨_, List.getElem?_set_self hBound, hRecorded.handler, hRecorded.launched,
          hRecorded.answered⟩
      · refine ⟨other.stage, ?_, rfl, id, fun _ => id⟩
        rw [List.getElem?_set_ne hSame]
        exact hOther

/-- A worker comes in that goes back to a handler that has launched its update, or is the
handler of a new command. -/
theorem Accounted.join (h : s.Accounted) {worker : Worker} {shared : UpdateFlags}
    (hWorker : worker.stage.isHandler = true ∧ worker.call = s.parties.length ∨
      worker.stage.isHandler = false ∧ s.HandlerAt WorkerStage.hasLaunched worker.call)
    (hLog : shared.log = s.shared.log)
    (hCallbacks : ∀ callback ∈ shared.callbacks, callback ∈ s.shared.callbacks) :
    Accounted (Parties.join worker { s with shared := shared }) := by
  have hNext := goesOn_join (s := s) worker shared
  constructor
  · intro i other hOther hHandler
    rw [Parties.join, List.getElem?_append] at hOther
    split at hOther
    · exact h.place i other hOther hHandler
    · next hMore =>
      have hIndex : i = s.parties.length ∧ worker = other := by
        simp only [List.getElem?_singleton, Option.ite_none_right_eq_some, Option.some.injEq]
          at hOther
        exact ⟨Nat.le_antisymm (Nat.sub_eq_zero_iff_le.mp hOther.1) (not_lt.mp hMore), hOther.2⟩
      obtain ⟨rfl, rfl⟩ := hIndex
      rcases hWorker with ⟨-, hCall⟩ | ⟨hThread, -⟩
      · exact hCall
      · rw [hThread] at hHandler
        cases hHandler
  · intro other hOther hThread
    rcases List.mem_append.mp hOther with hOld | hNew
    · exact (h.threads other hOld hThread).launched hNext
    · rw [List.mem_singleton] at hNew
      subst hNew
      rcases hWorker with ⟨hHandler, -⟩ | ⟨-, hLaunched⟩
      · rw [hHandler] at hThread
        cases hThread
      · exact hLaunched.launched hNext
  · exact fun callback hCallback =>
      (h.callbacks callback (hCallbacks callback hCallback)).launched hNext
  · intro entry hEntry
    exact (h.log entry (hLog ▸ hEntry)).fits hNext

/-- A handler that makes a step is found where it has come to. -/
theorem Accounted.handlerAt_turn (h : s.Accounted)
    (hOrderly : s.isOrderly (.turn i move) = true) {worker : Worker}
    (hWorker : s.parties[i]? = some worker) (hHandler : worker.stage.isHandler = true)
    {ok : WorkerStage → Bool}
    (hOk : ok (worker.advance defaultRetries s.shared move).2.1 = true) :
    HandlerAt ok worker.call (s.turn (Worker.act defaultRetries) i move) := by
  have hRecorded := @Worker.recorded_advance defaultRetries s.shared worker move
    (isOrderly_turn hOrderly hWorker)
  obtain ⟨hBound, -⟩ := List.getElem?_eq_some_iff.mp hWorker
  rw [h.place i worker hWorker hHandler, Parties.turn_of_some hWorker]
  exact ⟨_, List.getElem?_set_self hBound, hRecorded.handler.trans hHandler, hOk⟩

/-- What a worker leaves behind goes back to a handler that has launched its update. -/
theorem Accounted.launched_turn (h : s.Accounted)
    (hOrderly : s.isOrderly (.turn i move) = true) {worker : Worker}
    (hWorker : s.parties[i]? = some worker)
    (hStage : (worker.advance defaultRetries s.shared move).2.1.hasLaunched = true) :
    HandlerAt WorkerStage.hasLaunched worker.call
      (s.turn (Worker.act defaultRetries) i move) := by
  cases hHandler : worker.stage.isHandler with
  | true => exact h.handlerAt_turn hOrderly hWorker hHandler hStage
  | false =>
      have hAt := h.threads worker (List.mem_of_getElem? hWorker) hHandler
      exact hAt.launched (goesOn_turn hOrderly)

theorem Accounted.turn (h : s.Accounted) (hOrderly : s.isOrderly (.turn i move) = true) :
    Accounted (s.turn (Worker.act defaultRetries) i move) := by
  have hNext : s.GoesOn (s.turn (Worker.act defaultRetries) i move) := goesOn_turn hOrderly
  cases hWorker : s.parties[i]? with
  | none =>
      rw [Parties.turn_of_none hWorker]
      exact h
  | some worker =>
      have hRecorded := @Worker.recorded_advance defaultRetries s.shared worker move
        (isOrderly_turn hOrderly hWorker)
      constructor
      · intro j other hOther hHandler
        rw [Parties.turn_of_some hWorker, List.getElem?_set] at hOther
        split at hOther
        · next hSame =>
          subst hSame
          split at hOther
          · cases hOther
            exact h.place i worker hWorker (hRecorded.handler.symm.trans hHandler)
          · cases hOther
        · exact h.place j other hOther hHandler
      · intro other hOther hThread
        rcases (Parties.mem_turn hWorker).mp hOther with rfl | hOld
        · have hBefore := hRecorded.handler.symm.trans hThread
          exact (h.threads worker (List.mem_of_getElem? hWorker) hBefore).launched hNext
        · exact (h.threads other (Parties.mem_of_mem_others hOld) hThread).launched hNext
      · intro callback hCallback
        rw [Parties.shared_turn hWorker] at hCallback
        rcases hRecorded.callbacks callback hCallback with hOld | ⟨rfl, hStage⟩
        · exact (h.callbacks callback hOld).launched hNext
        · exact h.launched_turn hOrderly hWorker hStage
      · intro entry hEntry
        rw [Parties.shared_turn hWorker] at hEntry
        obtain ⟨entries, hLog, hEntries⟩ := hRecorded.noted
        rw [Worker.act, hLog] at hEntry
        rcases List.mem_append.mp hEntry with hOld | hNew
        · exact (h.log entry hOld).fits hNext
        · obtain ⟨hCall, hFits⟩ := hEntries entry hNew
          rw [hCall]
          cases entry with
          | started | published => exact h.launched_turn hOrderly hWorker hFits
          | answered call response =>
              -- only handlers answer
              have hHandler : worker.stage.isHandler = true := by
                rw [← hRecorded.handler]
                simp only [UpdateEntry.fits, decide_eq_true_eq] at hFits
                rw [hFits]
                rfl
              exact h.handlerAt_turn hOrderly hWorker hHandler hFits

theorem accounted_step {input : UpdaterInput} (h : s.Accounted)
    (hOrderly : s.isOrderly input = true) : Accounted (s.step defaultRetries input) := by
  unfold step
  split
  · exact h
  · cases input with
    | updateFirmware request =>
        exact h.join (.inl ⟨rfl, rfl⟩) rfl fun _ => id
    | timer name =>
        apply fire_invariant Accounted name h
        intro callback hCallback shared stage _ hThread hLog _ hCallbacks
        exact h.join (.inr ⟨hThread, h.callbacks callback hCallback⟩) hLog hCallbacks
    | turn i move =>
        have hTurn : Accounted (s.turn (Worker.act defaultRetries) i move) := h.turn hOrderly
        apply work_invariant Accounted hTurn
        intro worker stage hWorker hStage
        have hSpawned := (@Worker.recorded_advance defaultRetries s.shared worker move
          (isOrderly_turn hOrderly hWorker)).spawned stage hStage
        have hAt := h.launched_turn hOrderly hWorker hSpawned.2.2
        exact hTurn.join (.inr ⟨hSpawned.2.1, hAt⟩) rfl fun _ => id

/-- A command that was rejected has left nothing behind. -/
theorem Accounted.rejected (h : s.Accounted) {call : ℕ}
    (hRejected : .answered call .rejected ∈ s.shared.log) {entry : UpdateEntry}
    (hEntry : entry ∈ s.shared.log) (hCall : entry.call = call) :
    entry = .answered call .rejected := by
  obtain ⟨worker, hWorker, -, hStage⟩ := h.log _ hRejected
  obtain ⟨other, hOther, -, hFits⟩ := h.log entry hEntry
  rw [hCall] at hOther
  cases hWorker.symm.trans hOther
  simp only [UpdateEntry.fits, decide_eq_true_eq] at hStage
  rw [hStage] at hFits
  cases entry with
  | answered _ response =>
      simp only [UpdateEntry.fits, decide_eq_true_eq, WorkerStage.answered.injEq] at hFits
      rw [← hFits, ← hCall]
      rfl
  | started | published => cases hFits

variable (defaultRetries)

/-- A signed request is answered with `Rejected` only while an installer is running. -/
def RejectsWhileInstalling (s : Updater) (input : UpdaterInput) : Prop :=
  ∀ i move worker, input = .turn i move → s.parties[i]? = some worker →
    worker.request.requestId ≠ -1 → worker.stage ≠ .answered .rejected →
    (worker.advance defaultRetries s.shared move).2.1 = .answered .rejected →
    ∃ other ∈ s.parties, other.runs .signedFirmwareInstaller = true

/-- In an orderly step it is not answered so at all. -/
theorem rejectsWhileInstalling_of_isOrderly {input : UpdaterInput}
    (hOrderly : s.isOrderly input = true) : s.RejectsWhileInstalling defaultRetries input := by
  rintro i move worker rfl hWorker hSigned hOpen hRejected
  have hRecorded := @Worker.recorded_advance defaultRetries s.shared worker move
    (isOrderly_turn hOrderly hWorker)
  have hBefore : worker.stage = .received ∨ worker.stage = .cleared := by
    have hNot : worker.stage.hasLaunched ≠ true := by
      intro hLaunched
      have hAfter := hRecorded.launched hLaunched
      rw [hRejected] at hAfter
      cases hAfter
    generalize worker.stage = stage at hNot hOpen
    cases stage with
    | received => exact .inl rfl
    | cleared => exact .inr rfl
    | answered response =>
        cases response with
        | rejected => exact absurd rfl hOpen
        | accepted | acceptedCancelled => exact absurd rfl hNot
    | _ => exact absurd rfl hNot
  rcases hBefore with hStage | hStage
  · cases move <;> simp [Worker.advance, hStage, hSigned, Worker.launchDownload] at hRejected
    split at hRejected <;> cases hRejected
  · cases move <;> simp [Worker.advance, hStage, Worker.launchStandard] at hRejected
    split at hRejected <;> cases hRejected

/-- Firmware updates exclude each other in every orderly run. At most one script of each
kind is running, a command that was rejected has started no script and published no
state, and a signed request is rejected only while an installer is running. -/
theorem updates_exclude_each_other (inputs : List UpdaterInput)
    (hOrderly : EveryStep (step defaultRetries) (fun s input => s.isOrderly input = true) start
      inputs) :
    (∀ script, (run (step defaultRetries) start inputs).Exclusive (Worker.runs script)) ∧
    (∀ call, .answered call .rejected ∈ (run (step defaultRetries) start inputs).shared.log →
      (∀ script, .started call script ∉ (run (step defaultRetries) start inputs).shared.log) ∧
      ∀ requestId status, .published call requestId status ∉
        (run (step defaultRetries) start inputs).shared.log) ∧
    EveryStep (step defaultRetries) (RejectsWhileInstalling defaultRetries) start inputs := by
  have hLocked (lock : UpdateLock) := run_invariant_of_everyStep
    (Parties.Locked (Worker.holds lock) (·.isSet lock)) (locked_start lock)
    (fun _ _ => locked_step lock) inputs hOrderly
  have hAccounted := run_invariant_of_everyStep Accounted accounted_start
    (fun _ _ => accounted_step) inputs hOrderly
  refine ⟨?_, ?_, ?_⟩
  · intro script
    exact (hLocked script.lock).exclusive.mono fun _ => Worker.holds_of_runs
  · intro call hRejected
    refine ⟨?_, ?_⟩
    · intro script hStarted
      cases hAccounted.rejected hRejected hStarted rfl
    · intro requestId status hPublished
      cases hAccounted.rejected hRejected hPublished rfl
  · exact hOrderly.mono fun before input _ => rejectsWhileInstalling_of_isOrderly defaultRetries

/-- A second standard request comes while the script of the first one is running. -/
theorem updates_exclude_each_other_two_requests :
    ∃ inputs, (run (step 1) start inputs).parties.countP (Worker.runs .firmwareUpdater) = 1 ∧
      .answered 2 .rejected ∈ (run (step 1) start inputs).shared.log ∧
      ∀ script, (run (step 1) start inputs).Exclusive (Worker.runs script) :=
  let inputs : List UpdaterInput :=
    [.updateFirmware { requestId := -1 }, .turn 0 (.proceed 0), .turn 0 (.proceed 0),
      .turn 1 (.proceed 0), .turn 1 (.proceed 0), .updateFirmware { requestId := -1 },
      .turn 2 (.proceed 0)]
  ⟨inputs, by decide, by decide,
    (updates_exclude_each_other 1 inputs (by decide)).1⟩

/-- A signed request up to the end of its installation: the command is worker 0, its
download worker 1 and its installation worker 2. -/
def installed : List UpdaterInput :=
  [.updateFirmware { requestId := 1 }, .turn 0 (.proceed 0), .turn 0 (.proceed 0),
    .turn 0 (.proceed 0), .turn 1 (.proceed 0), .turn 1 (.proceed 0), .turn 1 (.proceed 0),
    .turn 1 (.line .signatureVerified), .turn 1 .scriptEnds, .turn 1 (.proceed 0),
    .turn 1 (.proceed 0), .turn 1 (.proceed 0), .turn 1 (.proceed 0), .turn 2 (.proceed 0),
    .turn 2 (.proceed 0), .turn 2 (.line .installed), .turn 2 .scriptEnds]

/-- Two standard requests that come before the first update has set its flag, and a
signed request that comes after an installation. -/
theorem updates_overlap :
    (∃ inputs, ¬ (run (step 1) start inputs).Exclusive (Worker.runs .firmwareUpdater)) ∧
    (∃ inputs, .answered 3 .rejected ∈ (run (step 1) start inputs).shared.log ∧
      .started 3 .signedFirmwareDownloader ∈ (run (step 1) start inputs).shared.log) ∧
    ∃ inputs, ¬ EveryStep (step 1) (RejectsWhileInstalling 1) start inputs := by
  refine ⟨?_, ?_, ?_⟩
  · refine ⟨[.updateFirmware { requestId := -1 }, .updateFirmware { requestId := -1 },
      .turn 0 (.proceed 0), .turn 1 (.proceed 0), .turn 0 (.proceed 0), .turn 1 (.proceed 0),
      .turn 2 (.proceed 0), .turn 3 (.proceed 0), .turn 2 (.proceed 0), .turn 3 (.proceed 0)], ?_⟩
    decide
  · refine ⟨installed ++ [.updateFirmware { requestId := 2 }, .turn 3 (.proceed 0),
      .turn 3 (.proceed 0), .turn 3 (.proceed 0), .turn 4 (.proceed 0), .turn 4 (.proceed 0),
      .turn 4 (.proceed 0)], ?_⟩
    decide
  · refine ⟨installed ++ [.updateFirmware { requestId := 2 }, .turn 3 (.proceed 0),
      .turn 3 (.proceed 0)] ++ [.turn 3 (.proceed 0)], ?_⟩
    rw [everyStep_snoc]
    rintro ⟨-, hLast⟩
    obtain ⟨other, hOther, hRuns⟩ := hLast 3 (.proceed 0) ⟨3, { requestId := 2 }, .looked⟩ rfl
      (by decide) (by decide) (by decide) (by decide)
    have hNone : ∀ other ∈ (run (step 1) start (installed ++
        [.updateFirmware { requestId := 2 }, .turn 3 (.proceed 0), .turn 3 (.proceed 0)])).parties,
        other.runs .signedFirmwareInstaller = false := by
      decide
    rw [hNone other hOther] at hRuns
    cases hRuns

end Updater

end EverestCore.Firmware
