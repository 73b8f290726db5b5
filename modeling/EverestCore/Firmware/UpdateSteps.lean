import EverestCore.Firmware.UpdateThreads

/-! What one step of a worker does: to the flags and the mutex that are to keep the updates
apart, and to what is left behind of a command. The downloads of signed firmware hold a
mutex. The other two kinds have a flag only, which is set without looking at it in the
same step. -/
namespace EverestCore.Firmware
open Machine

inductive UpdateLock where
  | standard
  | download
  | install
  deriving DecidableEq, Repr

def Script.lock : Script → UpdateLock
  | .firmwareUpdater => .standard
  | .signedFirmwareDownloader => .download
  | .signedFirmwareInstaller => .install

/-- The flag or the mutex of a kind of updates. -/
def UpdateFlags.isSet (flags : UpdateFlags) : UpdateLock → Bool
  | .standard => flags.standardFirmwareUpdateRunning
  | .download => flags.firmwareUpdateMutex
  | .install => flags.firmwareInstallationRunning

/-- What a worker has set and not reset yet. The flag of the installer is never reset,
so there it is the script itself that counts. -/
def WorkerStage.lock : WorkerStage → Option UpdateLock
  | .standardLoop _ _ | .standardScript _ _ => some .standard
  | .downloadLoop _ _ | .downloadScript _ _ | .downloadEnd _ | .downloadFinish
  | .downloadUnlock => some .download
  | .installScript => some .install
  | _ => none

/-- The worker is the handler of a command. -/
def WorkerStage.isHandler : WorkerStage → Bool
  | .received | .cleared | .launched | .looked | .answered _ => true
  | _ => false

/-- The update of the command was launched. Threads and callbacks are there for this
reason only. -/
def WorkerStage.hasLaunched : WorkerStage → Bool
  | .received | .cleared | .answered .rejected => false
  | _ => true

def UpdateEntry.call : UpdateEntry → ℕ
  | .answered call _ | .started call _ | .published call _ _ => call

/-- The entry may come from a handler or a thread that has come so far. -/
def UpdateEntry.fits (stage : WorkerStage) : UpdateEntry → Bool
  | .answered _ response => stage = .answered response
  | .started _ _ | .published _ _ _ => stage.hasLaunched

/-- The callbacks of the timers that are set. -/
def UpdateFlags.callbacks (flags : UpdateFlags) : List TimerCallback :=
  flags.standardUpdateFirmwareTimer.toList ++ flags.signedFirmwareUpdateDownloadTimer.toList ++
    flags.signedFirmwareUpdateInstallTimer.toList

/-- The callbacks that wait are those of the three timers. -/
theorem UpdateFlags.mem_callbacks {flags : UpdateFlags} {callback : TimerCallback} :
    callback ∈ flags.callbacks ↔ flags.standardUpdateFirmwareTimer = some callback ∨
      flags.signedFirmwareUpdateDownloadTimer = some callback ∨
      flags.signedFirmwareUpdateInstallTimer = some callback := by
  simp [callbacks]

namespace Worker

variable {defaultRetries : ℤ} {flags : UpdateFlags} {worker : Worker} {move : WorkerMove}

/-- The flags of the standard updates and of the installer are set only while they are not
set, and a signed request does not find an installation. -/
def isOrderly (flags : UpdateFlags) (worker : Worker) (move : WorkerMove) : Bool :=
  match worker.stage, move with
  | .standardBegin, .proceed _ => !flags.standardFirmwareUpdateRunning
  | .installCleared, .proceed _ | .looked, .proceed _ => !flags.firmwareInstallationRunning
  | _, _ => true

def holds (lock : UpdateLock) (worker : Worker) : Bool := worker.stage.lock = some lock

@[simp] theorem isSet_note (entry : UpdateEntry) (lock : UpdateLock) :
    (flags.note entry).isSet lock = flags.isSet lock := by
  cases lock <;> rfl

@[simp] theorem isSet_publish (status : FirmwareUpdateStatus) (lock : UpdateLock) :
    (worker.publish flags status).isSet lock = flags.isSet lock := isSet_note _ lock

@[simp] theorem isSet_start (script : Script) (lock : UpdateLock) :
    (worker.start flags script).isSet lock = flags.isSet lock := isSet_note _ lock

/-- What a step can do to the locks. -/
inductive LockStep (flags next : UpdateFlags) (before after : Option UpdateLock) : Prop
  | keeps (hStage : after = before) (hFlags : ∀ lock, next.isSet lock = flags.isSet lock)
  | takes (lock : UpdateLock) (hBefore : before = none) (hAfter : after = some lock)
      (hFree : flags.isSet lock = false) (hSet : next.isSet lock = true)
      (hOthers : ∀ other, other ≠ lock → next.isSet other = flags.isSet other)
  | frees (lock : UpdateLock) (hBefore : before = some lock) (hAfter : after = none)
      (hOthers : ∀ other, other ≠ lock → next.isSet other = flags.isSet other)

/-- A lock is taken while it is free. -/
theorem LockStep.gain {next : UpdateFlags} {before after : Option UpdateLock}
    (h : LockStep flags next before after) {lock : UpdateLock} (hBefore : before ≠ some lock)
    (hAfter : after = some lock) : flags.isSet lock = false := by
  cases h with
  | keeps hStage => exact absurd (hStage.symm.trans hAfter) hBefore
  | takes other _ hTaken hFree =>
      cases hTaken.symm.trans hAfter
      exact hFree
  | frees other _ hFreed => cases hFreed.symm.trans hAfter

/-- A lock is free after the step of the worker that has freed it, or because it was. -/
theorem LockStep.reset {next : UpdateFlags} {before after : Option UpdateLock}
    (h : LockStep flags next before after) {lock : UpdateLock}
    (hHolder : before = some lock → flags.isSet lock = true) (hFree : next.isSet lock = false) :
    after ≠ some lock ∧ (flags.isSet lock = true → before = some lock) := by
  cases h with
  | keeps hStage hFlags =>
      rw [hFlags] at hFree
      refine ⟨?_, fun hSet => absurd (hFree.symm.trans hSet) Bool.false_ne_true⟩
      intro hAfter
      exact Bool.false_ne_true (hFree.symm.trans (hHolder (hStage.symm.trans hAfter)))
  | takes other hBefore hTaken _ hSet hOthers =>
      have hDiffer : lock ≠ other := by
        rintro rfl
        exact Bool.false_ne_true (hFree.symm.trans hSet)
      rw [hOthers lock hDiffer] at hFree
      refine ⟨?_, fun hSet => absurd (hFree.symm.trans hSet) Bool.false_ne_true⟩
      rw [hTaken]
      exact fun hSame => hDiffer (Option.some.inj hSame).symm
  | frees other hBefore hFreed hOthers =>
      refine ⟨by simp [hFreed], ?_⟩
      intro hSet
      by_contra hNot
      have hDiffer : lock ≠ other := by
        rintro rfl
        exact hNot hBefore
      rw [hOthers lock hDiffer] at hFree
      exact Bool.false_ne_true (hFree.symm.trans hSet)

/-- What an orderly step of a worker does to the locks. One case for each stage. -/
theorem lockStep_advance (hOrderly : worker.isOrderly flags move = true) :
    LockStep flags (worker.advance defaultRetries flags move).1 worker.stage.lock
      (worker.advance defaultRetries flags move).2.1.lock := by
  obtain ⟨call, request, stage⟩ := worker
  -- a lock is set, or reset, by a step of its own; all other steps keep them as they are
  cases move with
  | line status =>
      cases stage with
      | standardScript | installScript => exact .keeps rfl (isSet_publish _)
      | downloadScript =>
          simp only [advance]
          split
          · exact .keeps rfl fun _ => rfl
          · exact .keeps rfl (isSet_publish _)
      | _ => exact .keeps rfl fun _ => rfl
  | scriptEnds =>
      cases stage with
      | installScript => exact .frees .install rfl rfl fun _ _ => rfl
      | _ => exact .keeps rfl fun _ => rfl
  | proceed now =>
      cases stage with
      | standardBegin =>
          have hFree : flags.standardFirmwareUpdateRunning = false := by
            simpa [isOrderly] using hOrderly
          exact .takes .standard rfl rfl hFree rfl (by rintro (_ | _ | _) hOther <;> trivial)
      | standardLoop retries status =>
          simp only [advance]
          split
          · exact .keeps rfl (isSet_start _)
          · exact .frees .standard rfl rfl (by rintro (_ | _ | _) hOther <;> trivial)
      | downloadLocking =>
          simp only [advance]
          split
          · next hMutex =>
            have hFree : flags.firmwareUpdateMutex = false := by simpa using hMutex
            exact .takes .download rfl rfl hFree rfl (by rintro (_ | _ | _) hOther <;> trivial)
          · exact .keeps rfl fun _ => rfl
      | downloadUnlock =>
          exact .frees .download rfl rfl (by rintro (_ | _ | _) hOther <;> trivial)
      | installCleared =>
          have hFree : flags.firmwareInstallationRunning = false := by
            simpa [isOrderly] using hOrderly
          exact .takes .install rfl rfl hFree rfl (by rintro (_ | _ | _) hOther <;> trivial)
      | received | cleared | launched | looked | downloadBegin | downloadWaiting | downloadLoop
      | downloadEnd | downloadFinish | installBegin =>
          simp only [advance, checkStandard, launchStandard, launchDownload,
            initializeFirmwareInstallation, answer]
          (repeat' split) <;> exact .keeps rfl (by rintro (_ | _ | _) <;> rfl)
      | answered | standardScript | downloadScript | installScript | finished =>
          exact .keeps rfl fun _ => rfl

/-- What a step leaves behind: only a handler that has launched its update has threads,
callbacks, scripts and published states. -/
structure Recorded (flags : UpdateFlags) (worker : Worker)
    (next : UpdateFlags × WorkerStage × Option WorkerStage) : Prop where
  handler : next.2.1.isHandler = worker.stage.isHandler
  launched : worker.stage.hasLaunched = true → next.2.1.hasLaunched = true
  answered : ∀ response, worker.stage = .answered response → next.2.1 = .answered response
  noted : ∃ entries, next.1.log = flags.log ++ entries ∧
    ∀ entry ∈ entries, entry.call = worker.call ∧ entry.fits next.2.1 = true
  callbacks : ∀ callback ∈ next.1.callbacks, callback ∈ flags.callbacks ∨
    callback = worker.callback ∧ next.2.1.hasLaunched = true
  spawned : ∀ stage ∈ next.2.2, stage.lock = none ∧ stage.isHandler = false ∧
    next.2.1.hasLaunched = true

/-- Steps of a worker that has not answered yet, without a new callback or thread. -/
theorem recorded_of_entries {next : UpdateFlags} {stage : WorkerStage}
    (entries : List UpdateEntry) (hLog : next.log = flags.log ++ entries)
    (hEntries : ∀ entry ∈ entries, entry.call = worker.call ∧ entry.fits stage = true)
    (hCallbacks : next.callbacks = flags.callbacks)
    (hHandler : stage.isHandler = worker.stage.isHandler)
    (hLaunched : worker.stage.hasLaunched = true → stage.hasLaunched = true)
    (hOpen : ∀ response, worker.stage ≠ .answered response) :
    Recorded flags worker (next, stage, none) where
  handler := hHandler
  launched := hLaunched
  answered response hAnswered := absurd hAnswered (hOpen response)
  noted := ⟨entries, hLog, hEntries⟩
  callbacks callback hCallback := .inl (hCallbacks ▸ hCallback)
  spawned := by simp

/-- A step that logs nothing and arms no timer, of a worker that has not answered. -/
theorem recorded_of_quiet {next : UpdateFlags} {stage : WorkerStage}
    (hLog : next.log = flags.log) (hCallbacks : next.callbacks = flags.callbacks)
    (hHandler : stage.isHandler = worker.stage.isHandler)
    (hLaunched : worker.stage.hasLaunched = true → stage.hasLaunched = true)
    (hOpen : ∀ response, worker.stage ≠ .answered response) :
    Recorded flags worker (next, stage, none) :=
  recorded_of_entries [] (by simp [hLog]) (by simp) hCallbacks hHandler hLaunched hOpen

/-- A worker that rests. -/
theorem recorded_rests : Recorded flags worker (flags, worker.stage, none) where
  handler := rfl
  launched := id
  answered _ := id
  noted := ⟨[], by simp, by simp⟩
  callbacks _ := .inl
  spawned := by simp

/-- The answer of the handler, which is no refusal once the update is launched. -/
theorem recorded_answer {response : UpdateFirmwareResponse}
    (hHandler : worker.stage.isHandler = true)
    (hLaunched : worker.stage.hasLaunched = true → response ≠ .rejected)
    (hOpen : ∀ response, worker.stage ≠ .answered response) :
    Recorded flags worker (worker.answer flags response) := by
  refine recorded_of_entries [.answered worker.call response] rfl ?_ rfl ?_ ?_ hOpen
  · simp [UpdateEntry.call, UpdateEntry.fits]
  · rw [hHandler]
    rfl
  · intro hBefore
    have hResponse := hLaunched hBefore
    cases response with
    | rejected => exact absurd rfl hResponse
    | accepted | acceptedCancelled => rfl

/-- A thread that sets a timer or starts another thread. -/
theorem recorded_of_launch {next : UpdateFlags} {stage : WorkerStage}
    {spawned : Option WorkerStage} (entries : List UpdateEntry)
    (hLog : next.log = flags.log ++ entries)
    (hEntries : ∀ entry ∈ entries, entry.call = worker.call ∧ entry.fits stage = true)
    (hCallbacks : ∀ callback ∈ next.callbacks, callback ∈ flags.callbacks ∨ callback = worker.callback)
    (hHandler : stage.isHandler = worker.stage.isHandler) (hStage : stage.hasLaunched = true)
    (hOpen : ∀ response, worker.stage ≠ .answered response)
    (hSpawned : ∀ stage ∈ spawned, stage.lock = none ∧ stage.isHandler = false) :
    Recorded flags worker (next, stage, spawned) where
  handler := hHandler
  launched _ := hStage
  answered response hAnswered := absurd hAnswered (hOpen response)
  noted := ⟨entries, hLog, hEntries⟩
  callbacks callback hCallback := (hCallbacks callback hCallback).imp_right fun hNew => ⟨hNew, hStage⟩
  spawned stage hStart := ⟨(hSpawned stage hStart).1, (hSpawned stage hStart).2, hStage⟩

/-- A thread that publishes a state or starts a script. -/
theorem recorded_publish {stage : WorkerStage} (status : FirmwareUpdateStatus)
    (hHandler : stage.isHandler = worker.stage.isHandler) (hStage : stage.hasLaunched = true)
    (hOpen : ∀ response, worker.stage ≠ .answered response) :
    Recorded flags worker (worker.publish flags status, stage, none) :=
  recorded_of_entries [.published worker.call worker.request.requestId status] rfl
    (by simpa [UpdateEntry.call, UpdateEntry.fits] using hStage) rfl hHandler (fun _ => hStage) hOpen

/-- A script that is started belongs to a launched update. -/
theorem recorded_start {next : UpdateFlags} {stage : WorkerStage} (script : Script)
    (hLog : next.log = flags.log) (hCallbacks : next.callbacks = flags.callbacks)
    (hHandler : stage.isHandler = worker.stage.isHandler) (hStage : stage.hasLaunched = true)
    (hOpen : ∀ response, worker.stage ≠ .answered response) :
    Recorded flags worker (worker.start next script, stage, none) :=
  recorded_of_entries [.started worker.call script] (by simp [start, UpdateFlags.note, hLog])
    (by simpa [UpdateEntry.call, UpdateEntry.fits] using hStage) hCallbacks hHandler
    (fun _ => hStage) hOpen

/-- The launch of an update, or the timer that waits for it. -/
theorem recorded_launchStandard (now : ℤ) (hStage : worker.stage = .cleared) :
    Recorded flags worker (worker.launchStandard flags now) := by
  have hAnswered : ∀ entry ∈ [UpdateEntry.answered worker.call .accepted],
      entry.call = worker.call ∧ entry.fits (.answered .accepted) = true := by
    simp [UpdateEntry.call, UpdateEntry.fits]
  have hHandler : (WorkerStage.answered .accepted).isHandler = worker.stage.isHandler := by
    rw [hStage]
    rfl
  unfold launchStandard
  dsimp only
  split
  · refine recorded_of_launch _ rfl hAnswered ?_ hHandler rfl (by simp [hStage]) (by simp)
    intro callback hCallback
    rw [UpdateFlags.mem_callbacks] at hCallback ⊢
    rcases hCallback with hNew | hOld | hOld
    · exact .inr (Option.some.inj hNew).symm
    · exact .inl (.inr (.inl hOld))
    · exact .inl (.inr (.inr hOld))
  · exact recorded_of_launch _ rfl hAnswered (fun _ => .inl) hHandler rfl (by simp [hStage])
      (by simp [WorkerStage.lock, WorkerStage.isHandler])

/-- The launch of a download, or the timer that waits for it. -/
theorem recorded_launchDownload (now : ℤ) (hStage : worker.stage = .received) :
    Recorded flags worker (worker.launchDownload flags now) := by
  have hHandler : WorkerStage.launched.isHandler = worker.stage.isHandler := by
    rw [hStage]
    rfl
  unfold launchDownload
  split
  · refine recorded_of_launch [.published worker.call worker.request.requestId .downloadScheduled]
      rfl (by simp [UpdateEntry.call, UpdateEntry.fits, WorkerStage.hasLaunched]) ?_ hHandler rfl
      (by simp [hStage]) (by simp)
    intro callback hCallback
    rw [UpdateFlags.mem_callbacks] at hCallback ⊢
    rcases hCallback with hOld | hNew | hOld
    · exact .inl (.inl hOld)
    · exact .inr (Option.some.inj hNew).symm
    · exact .inl (.inr (.inr hOld))
  · exact recorded_of_launch [] (by simp) (by simp) (fun _ => .inl) hHandler rfl (by simp [hStage])
      (by simp [WorkerStage.lock, WorkerStage.isHandler])

/-- The installation, or the timer that waits for it, of a launched update. -/
theorem recorded_initializeFirmwareInstallation (now : ℤ) {status : FirmwareUpdateStatus}
    (hStage : worker.stage = .downloadEnd status) :
    Recorded flags worker (worker.initializeFirmwareInstallation flags now) := by
  have hHandler : WorkerStage.downloadFinish.isHandler = worker.stage.isHandler := by
    rw [hStage]
    rfl
  unfold initializeFirmwareInstallation
  split
  · split
    · refine recorded_of_launch [.published worker.call worker.request.requestId .installScheduled]
        rfl (by simp [UpdateEntry.call, UpdateEntry.fits, WorkerStage.hasLaunched]) ?_ hHandler rfl
        (by simp [hStage]) (by simp)
      intro callback hCallback
      rw [UpdateFlags.mem_callbacks] at hCallback ⊢
      rcases hCallback with hOld | hOld | hNew
      · exact .inl (.inl hOld)
      · exact .inl (.inr (.inl hOld))
      · exact .inr (Option.some.inj hNew).symm
    · exact recorded_of_quiet rfl rfl rfl id (by simp [hStage])
  · exact recorded_of_launch [] (by simp) (by simp) (fun _ => .inl) hHandler rfl (by simp [hStage])
      (by simp [WorkerStage.lock, WorkerStage.isHandler])

/-- Every orderly step of a worker is recorded. One case for each stage. -/
theorem recorded_advance (hOrderly : worker.isOrderly flags move = true) :
    Recorded flags worker (worker.advance defaultRetries flags move) := by
  obtain ⟨call, request, stage⟩ := worker
  cases move with
  | line status =>
      cases stage with
      | standardScript | installScript => exact recorded_publish status rfl rfl nofun
      | downloadScript =>
          simp only [advance]
          split
          · exact recorded_rests
          · exact recorded_publish status rfl rfl nofun
      | _ => exact recorded_rests
  | scriptEnds =>
      cases stage with
      | standardScript | downloadScript | installScript =>
          exact recorded_of_quiet rfl rfl rfl (fun _ => rfl) nofun
      | _ => exact recorded_rests
  | proceed now =>
      cases stage with
      | received =>
          simp only [advance]
          split
          · unfold checkStandard
            split
            · exact recorded_of_quiet rfl rfl rfl id nofun
            · exact recorded_answer rfl nofun nofun
          · exact recorded_launchDownload now rfl
      | cleared => exact recorded_launchStandard now rfl
      | launched =>
          simp only [advance]
          split
          · exact recorded_answer rfl (fun _ => nofun) nofun
          · exact recorded_of_quiet rfl rfl rfl id nofun
      | looked =>
          have hNone : flags.firmwareInstallationRunning = false := by
            simpa [isOrderly] using hOrderly
          simp only [advance, hNone]
          exact recorded_answer rfl (fun _ => nofun) nofun
      | standardBegin | downloadFinish | downloadUnlock =>
          exact recorded_of_quiet rfl rfl rfl id nofun
      | standardLoop retries status =>
          simp only [advance]
          split
          · exact recorded_start .firmwareUpdater rfl rfl rfl rfl nofun
          · exact recorded_of_quiet rfl rfl rfl id nofun
      | downloadBegin | downloadWaiting | downloadLocking =>
          simp only [advance]
          split <;> exact recorded_of_quiet rfl rfl rfl id nofun
      | downloadLoop retries status =>
          simp only [advance]
          split
          · exact recorded_start .signedFirmwareDownloader rfl rfl rfl rfl nofun
          · exact recorded_of_quiet rfl rfl rfl id nofun
      | downloadEnd status =>
          simp only [advance]
          split
          · exact recorded_initializeFirmwareInstallation now rfl
          · exact recorded_of_quiet rfl rfl rfl id nofun
      | installBegin =>
          simp only [advance]
          split
          · exact recorded_of_quiet rfl rfl rfl id nofun
          · exact recorded_publish .installationFailed rfl rfl nofun
      | installCleared => exact recorded_start .signedFirmwareInstaller rfl rfl rfl rfl nofun
      | answered | standardScript | downloadScript | installScript | finished =>
          exact recorded_rests

/-- A script runs only while the lock of its kind is held. -/
theorem holds_of_runs {script : Script} (h : worker.runs script = true) :
    worker.holds script.lock = true := by
  have hRunning : worker.runningScript = some script := by simpa [runs] using h
  unfold runningScript at hRunning
  split at hRunning
  · next hStage =>
    cases hRunning
    simp [holds, hStage, WorkerStage.lock, Script.lock]
  · next hStage =>
    cases hRunning
    simp [holds, hStage, WorkerStage.lock, Script.lock]
  · next hStage =>
    cases hRunning
    simp [holds, hStage, WorkerStage.lock, Script.lock]
  · cases hRunning

end Worker

end EverestCore.Firmware
