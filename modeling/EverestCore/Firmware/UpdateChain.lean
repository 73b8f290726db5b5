import EverestCore.Firmware.UpdateSteps

/-! The update of a command is carried on by one worker at a time, or waits in a timer for
one. A handler hands it to a thread or to a timer, the end of a download to the thread or
the timer of the installation, and only the one that has it publishes its states. -/
namespace EverestCore.Firmware
open Machine

/-- The worker has still to carry on the update of its command. -/
def WorkerStage.isActive : WorkerStage → Bool
  | .launched | .looked | .answered _ | .downloadFinish | .downloadUnlock | .finished => false
  | _ => true

namespace Worker

def carries (call : ℕ) (worker : Worker) : Bool :=
  worker.call = call && worker.stage.isActive


end Worker

/-- How many timers wait to carry on the update of a command. -/
def UpdateFlags.waiting (call : ℕ) (flags : UpdateFlags) : ℕ :=
  flags.callbacks.countP (·.call = call)

namespace Worker

variable {defaultRetries : ℤ} {flags : UpdateFlags} {worker : Worker} {move : WorkerMove}

/-- What a step hands on: what a worker writes about the update, a callback or a thread
comes from one that has it, and it has it no more. -/
structure HandsOn (flags : UpdateFlags) (worker : Worker)
    (next : UpdateFlags × WorkerStage × Option WorkerStage) : Prop where
  noted : ∃ entries, next.1.log = flags.log ++ entries ∧ ∀ entry ∈ entries,
    entry.call = worker.call ∧
      (worker.stage.isActive = true ∨ ∃ response, entry = .answered worker.call response)
  callbacks : ∀ callback ∈ next.1.callbacks,
    callback ∈ flags.callbacks ∨ callback = worker.callback
  count : ∀ call, ({ worker with stage := next.2.1 } ::
      next.2.2.toList.map fun stage => { worker with stage := stage }).countP (carries call) +
        next.1.waiting call ≤
    [worker].countP (carries call) + flags.waiting call

/-- A step without a new callback or thread. -/
theorem handsOn_of_entries {next : UpdateFlags} {stage : WorkerStage}
    (entries : List UpdateEntry) (hLog : next.log = flags.log ++ entries)
    (hEntries : ∀ entry ∈ entries, entry.call = worker.call ∧
      (worker.stage.isActive = true ∨ ∃ response, entry = .answered worker.call response))
    (hCallbacks : next.callbacks = flags.callbacks)
    (hActive : stage.isActive = true → worker.stage.isActive = true) :
    HandsOn flags worker (next, stage, none) where
  noted := ⟨entries, hLog, hEntries⟩
  callbacks callback hCallback := .inl (hCallbacks ▸ hCallback)
  count call := by
    have hCount : [{ worker with stage := stage }].countP (carries call) ≤
        [worker].countP (carries call) := by
      rw [List.countP_singleton, List.countP_singleton, carries, carries]
      cases hStage : stage.isActive with
      | false => simp
      | true => rw [hActive hStage]
    simpa [UpdateFlags.waiting, hCallbacks] using hCount

/-- A step that logs nothing and arms no timer, of a worker that has not come to life by it. -/
theorem handsOn_of_quiet {next : UpdateFlags} {stage : WorkerStage} (hLog : next.log = flags.log)
    (hCallbacks : next.callbacks = flags.callbacks)
    (hActive : stage.isActive = true → worker.stage.isActive = true) :
    HandsOn flags worker (next, stage, none) :=
  handsOn_of_entries [] (by simp [hLog]) (by simp) hCallbacks hActive

/-- A worker that rests. -/
theorem handsOn_rests : HandsOn flags worker (flags, worker.stage, none) :=
  handsOn_of_quiet rfl rfl id

/-- The answer is noted for the call of the worker. -/
theorem handsOn_answer (response : UpdateFirmwareResponse) :
    HandsOn flags worker (worker.answer flags response) :=
  handsOn_of_entries [.answered worker.call response] rfl
    (by simp [UpdateEntry.call]) rfl (by simp [WorkerStage.isActive])

/-- A status is published by an active worker only. -/
theorem handsOn_publish {stage : WorkerStage} (status : FirmwareUpdateStatus)
    (hActive : worker.stage.isActive = true) :
    HandsOn flags worker (worker.publish flags status, stage, none) :=
  handsOn_of_entries [.published worker.call worker.request.requestId status] rfl
    (by simp [UpdateEntry.call, hActive]) rfl fun _ => hActive

/-- The start of a script leaves the worker active. -/
theorem handsOn_start {next : UpdateFlags} {stage : WorkerStage} (script : Script)
    (hLog : next.log = flags.log) (hCallbacks : next.callbacks = flags.callbacks)
    (hActive : worker.stage.isActive = true) :
    HandsOn flags worker (worker.start next script, stage, none) :=
  handsOn_of_entries [.started worker.call script] (by simp [start, UpdateFlags.note, hLog])
    (by simp [UpdateEntry.call, hActive]) hCallbacks fun _ => hActive

/-- The update is handed to a thread. -/
theorem handsOn_of_thread {next : UpdateFlags} {stage thread : WorkerStage}
    (entries : List UpdateEntry) (hLog : next.log = flags.log ++ entries)
    (hEntries : ∀ entry ∈ entries, entry.call = worker.call)
    (hCallbacks : next.callbacks = flags.callbacks) (hStage : stage.isActive = false)
    (hActive : worker.stage.isActive = true) :
    HandsOn flags worker (next, stage, some thread) where
  noted := ⟨entries, hLog, fun entry hEntry => ⟨hEntries entry hEntry, .inl hActive⟩⟩
  callbacks callback hCallback := .inl (hCallbacks ▸ hCallback)
  count call := by
    have hCount : [{ worker with stage := thread }].countP (carries call) ≤
        [worker].countP (carries call) := by
      rw [List.countP_singleton, List.countP_singleton, carries, carries, hActive]
      cases thread.isActive <;> simp
    rw [List.countP_cons, if_neg (by simp [carries, hStage]), UpdateFlags.waiting, hCallbacks]
    exact Nat.add_le_add_right hCount _

/-- The update is handed to a timer, and what this timer was set for is lost. -/
theorem handsOn_of_timer {next : UpdateFlags} {stage : WorkerStage}
    (entries : List UpdateEntry) (hLog : next.log = flags.log ++ entries)
    (hEntries : ∀ entry ∈ entries, entry.call = worker.call)
    (before : List TimerCallback) (lost : Option TimerCallback) (after : List TimerCallback)
    (hBefore : flags.callbacks = before ++ lost.toList ++ after)
    (hAfter : next.callbacks = before ++ [worker.callback] ++ after)
    (hStage : stage.isActive = false) (hActive : worker.stage.isActive = true) :
    HandsOn flags worker (next, stage, none) where
  noted := ⟨entries, hLog, fun entry hEntry => ⟨hEntries entry hEntry, .inl hActive⟩⟩
  callbacks callback hCallback := by
    rw [hAfter] at hCallback
    rw [hBefore]
    simp only [List.mem_append, List.mem_singleton] at hCallback ⊢
    tauto
  count call := by
    have hSelf : [worker].countP (carries call) =
        [worker.callback].countP (fun callback => callback.call = call) := by
      simp [carries, callback, hActive]
    rw [Option.toList_none, List.map_nil, List.countP_singleton,
      if_neg (by simp [carries, hStage]), UpdateFlags.waiting, UpdateFlags.waiting, hBefore,
      hAfter, hSelf]
    simp only [List.countP_append]
    omega

/-- An update that is launched or handed to its timer has one place still. -/
theorem handsOn_launchStandard (now : ℤ) (hStage : worker.stage = .cleared) :
    HandsOn flags worker (worker.launchStandard flags now) := by
  have hActive : worker.stage.isActive = true := by
    rw [hStage]
    rfl
  have hAnswered : ∀ entry ∈ [UpdateEntry.answered worker.call .accepted],
      entry.call = worker.call := by
    simp [UpdateEntry.call]
  unfold launchStandard
  dsimp only
  split
  · exact handsOn_of_timer _ rfl hAnswered [] flags.standardUpdateFirmwareTimer
      (flags.signedFirmwareUpdateDownloadTimer.toList ++
        flags.signedFirmwareUpdateInstallTimer.toList)
      (by simp [UpdateFlags.callbacks]) (by simp [UpdateFlags.callbacks, answer, UpdateFlags.note])
      rfl hActive
  · exact handsOn_of_thread _ rfl hAnswered rfl rfl hActive

/-- A download that is launched or handed to its timer has one place still. -/
theorem handsOn_launchDownload (now : ℤ) (hActive : worker.stage.isActive = true) :
    HandsOn flags worker (worker.launchDownload flags now) := by
  unfold launchDownload
  split
  · exact handsOn_of_timer
      [.published worker.call worker.request.requestId .downloadScheduled] rfl
      (by simp [UpdateEntry.call]) flags.standardUpdateFirmwareTimer.toList
      flags.signedFirmwareUpdateDownloadTimer flags.signedFirmwareUpdateInstallTimer.toList
      (by simp [UpdateFlags.callbacks])
      (by simp [UpdateFlags.callbacks, publish, UpdateFlags.note]) rfl hActive
  · exact handsOn_of_thread [] (by simp) (by simp) rfl rfl hActive

/-- An installation that is launched or handed to its timer has one place still. -/
theorem handsOn_initializeFirmwareInstallation (now : ℤ)
    (hActive : worker.stage.isActive = true) :
    HandsOn flags worker (worker.initializeFirmwareInstallation flags now) := by
  unfold initializeFirmwareInstallation
  split
  · split
    · exact handsOn_of_timer
        [.published worker.call worker.request.requestId .installScheduled] rfl
        (by simp [UpdateEntry.call])
        (flags.standardUpdateFirmwareTimer.toList ++
          flags.signedFirmwareUpdateDownloadTimer.toList)
        flags.signedFirmwareUpdateInstallTimer []
        (by simp [UpdateFlags.callbacks])
        (by simp [UpdateFlags.callbacks, publish, UpdateFlags.note]) rfl hActive
    · exact handsOn_of_quiet rfl rfl id
  · exact handsOn_of_thread [] (by simp) (by simp) rfl rfl hActive

/-- Every step of a worker leaves its call no more places than it had. One case for each stage. -/
theorem handsOn_advance : HandsOn flags worker (worker.advance defaultRetries flags move) := by
  obtain ⟨call, request, stage⟩ := worker
  cases move with
  | line status =>
      cases stage with
      | standardScript | installScript => exact handsOn_publish status rfl
      | downloadScript =>
          simp only [advance]
          split
          · exact handsOn_rests
          · exact handsOn_publish status rfl
      | _ => exact handsOn_rests
  | scriptEnds =>
      cases stage with
      | standardScript | downloadScript | installScript =>
          exact handsOn_of_quiet rfl rfl fun _ => rfl
      | _ => exact handsOn_rests
  | proceed now =>
      cases stage with
      | received =>
          simp only [advance]
          split
          · unfold checkStandard
            split
            · exact handsOn_of_quiet rfl rfl id
            · exact handsOn_answer .rejected
          · exact handsOn_launchDownload now rfl
      | cleared => exact handsOn_launchStandard now rfl
      | launched =>
          simp only [advance]
          split
          · exact handsOn_answer .acceptedCancelled
          · exact handsOn_of_quiet rfl rfl id
      | looked =>
          simp only [advance]
          split
          · exact handsOn_answer .rejected
          · exact handsOn_answer .accepted
      | standardBegin | downloadFinish | downloadUnlock => exact handsOn_of_quiet rfl rfl id
      | standardLoop retries status =>
          simp only [advance]
          split
          · exact handsOn_start .firmwareUpdater rfl rfl rfl
          · exact handsOn_of_quiet rfl rfl fun _ => rfl
      | downloadBegin | downloadWaiting | downloadLocking =>
          simp only [advance]
          split <;> exact handsOn_of_quiet rfl rfl id
      | downloadLoop retries status =>
          simp only [advance]
          split
          · exact handsOn_start .signedFirmwareDownloader rfl rfl rfl
          · exact handsOn_of_quiet rfl rfl id
      | downloadEnd status =>
          simp only [advance]
          split
          · exact handsOn_initializeFirmwareInstallation now rfl
          · exact handsOn_of_quiet rfl rfl fun _ => rfl
      | installBegin =>
          simp only [advance]
          split
          · exact handsOn_of_quiet rfl rfl id
          · exact handsOn_publish .installationFailed rfl
      | installCleared => exact handsOn_start .signedFirmwareInstaller rfl rfl rfl
      | answered | standardScript | downloadScript | installScript | finished =>
          exact handsOn_rests

end Worker

def UpdateFlags.timer (flags : UpdateFlags) : TimerName → Option TimerCallback
  | .standardUpdateFirmware => flags.standardUpdateFirmwareTimer
  | .signedFirmwareUpdateDownload => flags.signedFirmwareUpdateDownloadTimer
  | .signedFirmwareUpdateInstall => flags.signedFirmwareUpdateInstallTimer

def UpdateFlags.clearTimer (flags : UpdateFlags) : TimerName → UpdateFlags
  | .standardUpdateFirmware => { flags with standardUpdateFirmwareTimer := none }
  | .signedFirmwareUpdateDownload => { flags with signedFirmwareUpdateDownloadTimer := none }
  | .signedFirmwareUpdateInstall => { flags with signedFirmwareUpdateInstallTimer := none }

/-- Where the callback of a timer begins. -/
def TimerName.stage : TimerName → WorkerStage
  | .standardUpdateFirmware => .standardBegin
  | .signedFirmwareUpdateDownload => .downloadBegin
  | .signedFirmwareUpdateInstall => .installBegin

/-- A timer that is cleared leaves the log as it is. -/
theorem UpdateFlags.log_clearTimer (flags : UpdateFlags) (name : TimerName) :
    (flags.clearTimer name).log = flags.log := by
  cases name <;> rfl

/-- A timer that is set is one of the callbacks, and the others stay. -/
theorem UpdateFlags.callbacks_clearTimer {flags : UpdateFlags} {name : TimerName}
    {callback : TimerCallback} (h : flags.timer name = some callback) :
    ∃ before after, flags.callbacks = before ++ [callback] ++ after ∧
      (flags.clearTimer name).callbacks = before ++ after := by
  cases name with
  | standardUpdateFirmware =>
      refine ⟨[], flags.signedFirmwareUpdateDownloadTimer.toList ++
        flags.signedFirmwareUpdateInstallTimer.toList, ?_, ?_⟩
      · rw [timer] at h
        rw [callbacks, h, List.append_assoc]
        rfl
      · simp [callbacks, clearTimer]
  | signedFirmwareUpdateDownload =>
      refine ⟨flags.standardUpdateFirmwareTimer.toList,
        flags.signedFirmwareUpdateInstallTimer.toList, ?_, ?_⟩
      · rw [timer] at h
        rw [callbacks, h]
        rfl
      · simp [callbacks, clearTimer]
  | signedFirmwareUpdateInstall =>
      refine ⟨flags.standardUpdateFirmwareTimer.toList ++
        flags.signedFirmwareUpdateDownloadTimer.toList, [], ?_, ?_⟩
      · rw [timer] at h
        rw [callbacks, h, List.append_nil]
        rfl
      · simp [callbacks, clearTimer]

namespace Updater

variable {defaultRetries : ℤ} {s : Updater} {i : ℕ} {move : WorkerMove}

/-- The request that the command has brought: its handler is found at its place. -/
def requestOf (call : ℕ) (s : Updater) : Option FirmwareUpdateRequest :=
  s.parties[call]?.map Worker.request

/-- A worker that does not exist does nothing. -/
theorem work_of_none (h : s.parties[i]? = none) : s.work defaultRetries i move = s := by
  rw [work, h, Parties.turn_of_none h]
  rfl

/-- What a step of a worker does to the system. -/
theorem work_of_some {worker : Worker} (h : s.parties[i]? = some worker) :
    s.work defaultRetries i move =
      ⟨(worker.advance defaultRetries s.shared move).1,
        s.parties.set i
            { worker with stage := (worker.advance defaultRetries s.shared move).2.1 } ++
          (worker.advance defaultRetries s.shared move).2.2.toList.map
            fun stage => { worker with stage := stage }⟩ := by
  rw [work, h, Parties.turn_of_some h, Option.bind_some, Worker.spawns]
  cases (worker.advance defaultRetries s.shared move).2.2 with
  | none => simp [Worker.act]
  | some stage => rfl

/-- A timer that is not armed does nothing when it fires. One that is armed starts a worker with its
callback. -/
theorem fire_cases (s : Updater) (name : TimerName) :
    (s.shared.timer name = none ∧ s.fire name = s) ∨
      ∃ callback, s.shared.timer name = some callback ∧
        s.fire name = Parties.join ⟨callback.call, callback.request, name.stage⟩
          { s with shared := s.shared.clearTimer name } := by
  cases hTimer : s.shared.timer name with
  | none =>
      refine .inl ⟨rfl, ?_⟩
      cases name with
      | standardUpdateFirmware | signedFirmwareUpdateDownload | signedFirmwareUpdateInstall =>
          rw [UpdateFlags.timer] at hTimer
          simp only [fire, hTimer]
  | some callback =>
      refine .inr ⟨callback, rfl, ?_⟩
      cases name with
      | standardUpdateFirmware | signedFirmwareUpdateDownload | signedFirmwareUpdateInstall =>
          rw [UpdateFlags.timer] at hTimer
          simp only [fire, hTimer]
          rfl

/-- A new worker does not change which request a call has. -/
theorem requestOf_join {call : ℕ} {request : FirmwareUpdateRequest}
    (h : s.requestOf call = some request) (worker : Worker) (shared : UpdateFlags) :
    requestOf call (Parties.join worker { s with shared := shared }) = some request := by
  obtain ⟨other, hOther, hRequest⟩ := Option.map_eq_some_iff.mp h
  obtain ⟨hBound, -⟩ := List.getElem?_eq_some_iff.mp hOther
  rw [requestOf, Parties.join, List.getElem?_append_left hBound, hOther, Option.map_some,
    hRequest]

/-- A step of a worker does not change which request a call has. -/
theorem requestOf_work {call : ℕ} {request : FirmwareUpdateRequest}
    (h : s.requestOf call = some request) :
    (s.work defaultRetries i move).requestOf call = some request := by
  cases hWorker : s.parties[i]? with
  | none =>
      rw [work_of_none hWorker]
      exact h
  | some worker =>
      obtain ⟨other, hOther, hRequest⟩ := Option.map_eq_some_iff.mp h
      obtain ⟨hBound, -⟩ := List.getElem?_eq_some_iff.mp hOther
      rw [work_of_some hWorker, requestOf,
        List.getElem?_append_left (by rwa [List.length_set])]
      by_cases hSame : i = call
      · subst hSame
        rw [List.getElem?_set_self hBound]
        cases hWorker.symm.trans hOther
        exact congrArg some hRequest
      · rw [List.getElem?_set_ne hSame, hOther, Option.map_some, hRequest]

/-- The update of every command is in one pair of hands, and whoever has a part in it has
the request of the command. -/
structure Chained (s : Updater) : Prop where
  sole : ∀ call, s.Sole (Worker.carries call) (UpdateFlags.waiting call)
  workers : ∀ worker ∈ s.parties, s.requestOf worker.call = some worker.request
  callbacks : ∀ callback ∈ s.shared.callbacks, s.requestOf callback.call = some callback.request

/-- At the start no call has a place. -/
theorem chained_start : start.Chained where
  sole _ := Nat.zero_le 1
  workers := by simp [start]
  callbacks := by simp [start, UpdateFlags.callbacks]

/-- A command comes in, for which nobody does anything yet. -/
theorem Chained.updateFirmware (h : s.Chained) (request : FirmwareUpdateRequest) :
    Chained (s.join ⟨s.parties.length, request, .received⟩) := by
  have hNone : s.requestOf s.parties.length = none := by
    rw [requestOf, List.getElem?_eq_none (Nat.le_refl _), Option.map_none]
  constructor
  · intro call
    rw [Parties.Sole, Parties.join, List.countP_append, List.countP_singleton]
    by_cases hCall : s.parties.length = call
    · -- no worker and no timer has a command that has not come yet
      have hWorkers : s.parties.countP (Worker.carries call) = 0 := by
        rw [List.countP_eq_zero]
        intro worker hWorker hCarries
        have hSame : worker.call = call := by
          simp only [Worker.carries, Bool.and_eq_true, decide_eq_true_eq] at hCarries
          exact hCarries.1
        have hSome := h.workers worker hWorker
        rw [hSame, ← hCall, hNone] at hSome
        cases hSome
      have hWaiting : s.shared.waiting call = 0 := by
        rw [UpdateFlags.waiting, List.countP_eq_zero]
        intro callback hCallback hSame
        have hSome := h.callbacks callback hCallback
        rw [of_decide_eq_true hSame, ← hCall, hNone] at hSome
        cases hSome
      dsimp only
      rw [hWorkers, hWaiting]
      split <;> decide
    · rw [if_neg (by simp [Worker.carries, hCall])]
      exact h.sole call
  · apply Parties.forall_join
    · intro worker hWorker
      exact requestOf_join (h.workers worker hWorker) _ _
    · rw [requestOf, Parties.join, List.getElem?_concat_length]
      rfl
  · intro callback hCallback
    exact requestOf_join (h.callbacks callback hCallback) _ _

/-- A timer that fires hands the place of its call to a worker. -/
theorem Chained.fire (h : s.Chained) (name : TimerName) : Chained (s.fire name) := by
  rcases fire_cases s name with ⟨-, hSame⟩ | ⟨callback, hTimer, hFire⟩
  · rw [hSame]
    exact h
  · obtain ⟨before, after, hCallbacks, hCleared⟩ := UpdateFlags.callbacks_clearTimer hTimer
    have hMem : callback ∈ s.shared.callbacks := by
      rw [hCallbacks]
      simp
    rw [hFire]
    constructor
    · intro call
      have hSole := h.sole call
      rw [Parties.Sole, UpdateFlags.waiting, hCallbacks] at hSole
      rw [Parties.Sole, Parties.join, UpdateFlags.waiting, hCleared]
      have hNew : [(⟨callback.call, callback.request, name.stage⟩ : Worker)].countP
          (Worker.carries call) = [callback].countP (fun callback => callback.call = call) := by
        cases name <;> simp [Worker.carries, TimerName.stage, WorkerStage.isActive]
      rw [List.countP_append, hNew]
      simp only [List.countP_append] at hSole ⊢
      omega
    · apply Parties.forall_join
      · intro worker hWorker
        exact requestOf_join (h.workers worker hWorker) _ _
      · exact requestOf_join (h.callbacks callback hMem) _ _
    · intro other hOther
      apply requestOf_join
      apply h.callbacks
      dsimp only [Parties.join] at hOther
      rw [hCleared] at hOther
      rw [hCallbacks]
      simp only [List.mem_append] at hOther ⊢
      tauto

/-- A step of a worker leaves each call one place at most. -/
theorem Chained.work (h : s.Chained) : Chained (s.work defaultRetries i move) := by
  cases hWorker : s.parties[i]? with
  | none =>
      rw [work_of_none hWorker]
      exact h
  | some worker =>
      have hHandsOn := @Worker.handsOn_advance defaultRetries s.shared worker move
      have hRequest := h.workers worker (List.mem_of_getElem? hWorker)
      constructor
      · intro call
        rw [work_of_some hWorker]
        exact (h.sole call).handOver hWorker (hHandsOn.count call)
      · intro other hOther
        apply requestOf_work
        rw [work_of_some hWorker, List.mem_append] at hOther
        rcases hOther with hOld | hNew
        · rcases List.mem_or_eq_of_mem_set hOld with hBefore | hMoved
          · exact h.workers other hBefore
          · rw [hMoved]
            exact hRequest
        · obtain ⟨stage, -, rfl⟩ := List.mem_map.mp hNew
          exact hRequest
      · intro callback hCallback
        apply requestOf_work
        rw [work_of_some hWorker] at hCallback
        rcases hHandsOn.callbacks callback hCallback with hOld | rfl
        · exact h.callbacks callback hOld
        · exact hRequest

/-- Every input leaves each call one place at most. -/
theorem chained_step (h : s.Chained) (input : UpdaterInput) :
    Chained (s.step defaultRetries input) := by
  unfold step
  split
  · exact h
  · cases input with
    | updateFirmware request => exact h.updateFirmware request
    | turn i move => exact h.work
    | timer name => exact h.fire name

/-- In every run, the updates follow each other as they should, in whatever order the workers and
the timers come. -/
theorem chained_run (inputs : List UpdaterInput) :
    Chained (run (step defaultRetries) start inputs) :=
  run_invariant Chained chained_start (fun _ input h => chained_step h input) inputs

/-- Nobody but the worker that has it has a part in the update of its command. -/
theorem Chained.others (h : s.Chained) {worker : Worker} (hWorker : s.parties[i]? = some worker)
    (hActive : worker.stage.isActive = true) :
    (∀ other ∈ s.others i, other.stage.isActive = true → other.call ≠ worker.call) ∧
      ∀ callback ∈ s.shared.callbacks, callback.call ≠ worker.call := by
  have hCarries : worker.carries worker.call = true := by simp [Worker.carries, hActive]
  obtain ⟨hOthers, hWaiting⟩ := (h.sole worker.call).others hWorker hCarries
  constructor
  · intro other hOther hOtherActive hSame
    have hNot := hOthers other hOther
    simp [Worker.carries, hSame, hOtherActive] at hNot
  · intro callback hCallback hSame
    have hNot := List.countP_eq_zero.mp hWaiting callback hCallback
    simp [hSame] at hNot

end Updater

end EverestCore.Firmware
