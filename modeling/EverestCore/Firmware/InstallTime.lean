import EverestCore.Firmware.UpdateChain

/-! When signed firmware is installed. A timer is to put the installation off to its time
stamp, but it is set for the time stamp of the download. The installer of a request is
therefore started in time as long as no timer is set for a time before the installation. -/
namespace EverestCore.Firmware
open Machine

/-- The time that a timer is set for. That is the time stamp of the download in all three
cases: `initialize_firmware_installation` takes it for the time of the installation. -/
def TimerCallback.due (callback : TimerCallback) : Option ℤ :=
  callback.request.retrieveTimestamp

/-- The time that a worker finds when it looks at the clock in a step. -/
def WorkerMove.time? : WorkerMove → Option ℤ
  | .proceed now => some now
  | .line _ | .scriptEnds => none

/-- A status of the download of a command. `InstallScheduled` is published when the download
has been found verified. -/
def UpdateEntry.downloadStatus? (call : ℕ) : UpdateEntry → Option FirmwareUpdateStatus
  | .published other _ status =>
      if other = call ∧ status ≠ .installScheduled then some status else none
  | .answered _ _ | .started _ _ => none

/-- The last status of the download of a command, up to the start of its installer. -/
def downloadStatus (call : ℕ) (log : List UpdateEntry) : Option FirmwareUpdateStatus :=
  (log.filterMap (·.downloadStatus? call)).getLast?

theorem downloadStatus_snoc (call : ℕ) (log : List UpdateEntry) (entry : UpdateEntry) :
    downloadStatus call (log ++ [entry]) =
      (entry.downloadStatus? call).or (downloadStatus call log) := by
  rw [downloadStatus, List.filterMap_append, List.getLast?_append]
  cases hStatus : entry.downloadStatus? call with
  | none =>
      rw [List.filterMap_cons_none hStatus]
      rfl
  | some status =>
      rw [List.filterMap_cons_some hStatus]
      rfl

/-- What is written about other commands or as an answer does not matter. -/
theorem downloadStatus_append {call : ℕ} {entries : List UpdateEntry} (log : List UpdateEntry)
    (hEntries : ∀ entry ∈ entries, entry.downloadStatus? call = none) :
    downloadStatus call (log ++ entries) = downloadStatus call log := by
  have hNone : entries.filterMap (·.downloadStatus? call) = [] := by
    rw [List.filterMap_eq_nil_iff]
    exact hEntries
  rw [downloadStatus, List.filterMap_append, hNone, List.append_nil]
  rfl

theorem downloadStatus?_of_call_ne {call : ℕ} {entry : UpdateEntry} (h : entry.call ≠ call) :
    entry.downloadStatus? call = none := by
  cases entry with
  | published other requestId status =>
      have hOther : other ≠ call := h
      simp [UpdateEntry.downloadStatus?, hOther]
  | answered | started => rfl

namespace WorkerStage

/-- The status of a download that goes on. -/
def downloaded : WorkerStage → Option FirmwareUpdateStatus
  | .downloadLoop _ status | .downloadScript _ status | .downloadEnd status => some status
  | _ => none

/-- The installer is still to be started. -/
def installs : WorkerStage → Bool
  | .installBegin | .installCleared => true
  | _ => false

/-- A worker that is not active has neither a download nor an installation before it. -/
theorem idle_of_not_isActive {stage : WorkerStage} (h : stage.isActive = false) :
    stage.downloaded = none ∧ stage.installs = false := by
  cases stage with
  | launched | looked | answered | downloadFinish | downloadUnlock | finished => exact ⟨rfl, rfl⟩
  | _ => cases h

end WorkerStage

namespace Worker

/-- A download has published its status, and an installation comes after a verified download
and in time. -/
structure Justified (log : List UpdateEntry) (clock : ℤ) (worker : Worker) : Prop where
  verified : worker.stage.downloaded = some .signatureVerified →
    downloadStatus worker.call log = some .signatureVerified
  installs : worker.stage.installs = true →
    downloadStatus worker.call log = some .signatureVerified ∧
      ∀ install ∈ worker.request.installTimestamp, install ≤ clock

/-- The timer for the installation is not set for a time before it. -/
def SchedulesInTime (worker : Worker) : WorkerMove → Prop
  | .proceed now => worker.stage = .downloadEnd .signatureVerified →
      isLater worker.request.installTimestamp now = true →
        ∀ retrieve ∈ worker.request.retrieveTimestamp,
          ∀ install ∈ worker.request.installTimestamp, install ≤ retrieve
  | .line _ | .scriptEnds => True

instance (worker : Worker) (move : WorkerMove) : Decidable (worker.SchedulesInTime move) :=
  match move with
  | .proceed _ => inferInstanceAs (Decidable (_ → _))
  | .line _ | .scriptEnds => inferInstanceAs (Decidable True)

end Worker

/-- The callback for an installation waits for a time that is not too early. -/
structure TimerCallback.Justified (log : List UpdateEntry) (callback : TimerCallback) : Prop where
  verified : downloadStatus callback.call log = some .signatureVerified
  inTime : ∃ due, callback.due = some due ∧
    ∀ install ∈ callback.request.installTimestamp, install ≤ due

namespace Worker

variable {defaultRetries : ℤ} {flags : UpdateFlags} {worker : Worker} {clock now : ℤ}

theorem justified_of_idle {log : List UpdateEntry} (hDownloaded : worker.stage.downloaded = none)
    (hInstalls : worker.stage.installs = false) : worker.Justified log clock where
  verified h := by
    rw [hDownloaded] at h
    cases h
  installs h := absurd (hInstalls.symm.trans h) Bool.false_ne_true

theorem justified_of_download {log : List UpdateEntry} {status : FirmwareUpdateStatus}
    (hDownloaded : worker.stage.downloaded = some status)
    (hInstalls : worker.stage.installs = false)
    (hStatus : status = .signatureVerified →
      downloadStatus worker.call log = some .signatureVerified) : worker.Justified log clock where
  verified h := hStatus (Option.some.inj (hDownloaded.symm.trans h))
  installs h := absurd (hInstalls.symm.trans h) Bool.false_ne_true

theorem justified_of_install {log : List UpdateEntry}
    (hVerified : downloadStatus worker.call log = some .signatureVerified)
    (hInTime : ∀ install ∈ worker.request.installTimestamp, install ≤ clock) :
    worker.Justified log clock where
  verified _ := hVerified
  installs _ := ⟨hVerified, hInTime⟩

/-- What others write, and later times, change nothing. -/
theorem Justified.mono {log entries : List UpdateEntry} (h : worker.Justified log clock)
    (hEntries : worker.stage.isActive = true →
      ∀ entry ∈ entries, entry.downloadStatus? worker.call = none)
    (hClock : clock ≤ now) : worker.Justified (log ++ entries) now := by
  by_cases hActive : worker.stage.isActive = true
  · have hSame := downloadStatus_append log (hEntries hActive)
    constructor
    · rw [hSame]
      exact h.verified
    · intro hInstalls
      rw [hSame]
      exact ⟨(h.installs hInstalls).1,
        fun install hInstall => Int.le_trans ((h.installs hInstalls).2 install hInstall) hClock⟩
  · obtain ⟨hDownloaded, hInstalls⟩ :=
      WorkerStage.idle_of_not_isActive (Bool.not_eq_true _ ▸ hActive)
    exact justified_of_idle hDownloaded hInstalls

/-- What a step of a justified worker leads to. -/
structure LeadsTo (flags : UpdateFlags) (worker : Worker) (now : ℤ)
    (next : UpdateFlags × WorkerStage × Option WorkerStage) : Prop where
  moved : Justified next.1.log now { worker with stage := next.2.1 }
  spawned : ∀ stage ∈ next.2.2, Justified next.1.log now { worker with stage := stage }
  installTimer : ∀ callback ∈ next.1.signedFirmwareUpdateInstallTimer,
    callback ∈ flags.signedFirmwareUpdateInstallTimer ∨ callback.Justified next.1.log
  installer : ∀ call, .started call .signedFirmwareInstaller ∈ next.1.log.drop flags.log.length →
    call = worker.call ∧ worker.stage = .installCleared

theorem leadsTo_of_entries {next : UpdateFlags} {stage : WorkerStage}
    (entries : List UpdateEntry) (hLog : next.log = flags.log ++ entries)
    (hMoved : Justified (flags.log ++ entries) now { worker with stage := stage })
    (hTimer : next.signedFirmwareUpdateInstallTimer = flags.signedFirmwareUpdateInstallTimer)
    (hInstaller : ∀ call, .started call .signedFirmwareInstaller ∈ entries →
      call = worker.call ∧ worker.stage = .installCleared) :
    LeadsTo flags worker now (next, stage, none) where
  moved := by
    rw [hLog]
    exact hMoved
  spawned := by simp
  installTimer callback hCallback := .inl (hTimer ▸ hCallback)
  installer call hStarted := by
    rw [hLog, List.drop_left] at hStarted
    exact hInstaller call hStarted

/-- A step that is far from an installation. -/
theorem leadsTo_of_stage {next : UpdateFlags} {stage : WorkerStage}
    (entries : List UpdateEntry) (hLog : next.log = flags.log ++ entries)
    (hTimer : next.signedFirmwareUpdateInstallTimer = flags.signedFirmwareUpdateInstallTimer)
    (hDownloaded : stage.downloaded = none) (hInstalls : stage.installs = false)
    (hEntries : ∀ call, .started call .signedFirmwareInstaller ∉ entries) :
    LeadsTo flags worker now (next, stage, none) :=
  leadsTo_of_entries entries hLog (justified_of_idle hDownloaded hInstalls) hTimer
    fun call hStarted => absurd hStarted (hEntries call)

/-- A step without a word. -/
theorem leadsTo_of_quiet {next : UpdateFlags} {stage : WorkerStage} (hLog : next.log = flags.log)
    (hTimer : next.signedFirmwareUpdateInstallTimer = flags.signedFirmwareUpdateInstallTimer)
    (hMoved : Justified flags.log now { worker with stage := stage }) :
    LeadsTo flags worker now (next, stage, none) :=
  leadsTo_of_entries [] (by rw [hLog, List.append_nil]) (by rwa [List.append_nil]) hTimer
    (by simp)

theorem leadsTo_answer (response : UpdateFirmwareResponse) :
    LeadsTo flags worker now (worker.answer flags response) :=
  leadsTo_of_stage [.answered worker.call response] rfl rfl rfl rfl (by simp)

theorem leadsTo_launchStandard : LeadsTo flags worker now (worker.launchStandard flags now) := by
  unfold launchStandard
  dsimp only
  split
  · exact leadsTo_of_stage [.answered worker.call .accepted] rfl rfl rfl rfl (by simp)
  · refine ⟨justified_of_idle rfl rfl, ?_, fun _ hCallback => .inl hCallback, ?_⟩
    · rintro stage ⟨rfl⟩
      exact justified_of_idle rfl rfl
    · intro call hStarted
      simp [answer, UpdateFlags.note] at hStarted

theorem leadsTo_launchDownload : LeadsTo flags worker now (worker.launchDownload flags now) := by
  unfold launchDownload
  split
  · exact leadsTo_of_stage
      [.published worker.call worker.request.requestId .downloadScheduled] rfl rfl rfl rfl
      (by simp)
  · refine ⟨justified_of_idle rfl rfl, ?_, fun _ hCallback => .inl hCallback, by simp⟩
    rintro stage ⟨rfl⟩
    exact justified_of_idle rfl rfl

/-- The end of a verified download leads to an installation in time, if its timer is not set
too early. -/
theorem leadsTo_initializeFirmwareInstallation (h : worker.Justified flags.log clock)
    (hClock : clock ≤ now) (hStage : worker.stage = .downloadEnd .signatureVerified)
    (hInTime : worker.SchedulesInTime (.proceed now)) :
    LeadsTo flags worker now (worker.initializeFirmwareInstallation flags now) := by
  have hVerified : downloadStatus worker.call flags.log = some .signatureVerified := by
    apply h.verified
    rw [hStage]
    rfl
  unfold initializeFirmwareInstallation
  split
  · next hLater =>
    split
    · next hRetrieve =>
      obtain ⟨retrieve, hRetrieve⟩ := Option.isSome_iff_exists.mp hRetrieve
      refine ⟨justified_of_idle rfl rfl, by simp, ?_, ?_⟩
      · rintro callback ⟨rfl⟩
        refine .inr ⟨?_, retrieve, hRetrieve, ?_⟩
        · -- `InstallScheduled` is not a status of the download
          rw [publish, UpdateFlags.note, downloadStatus_snoc]
          simpa [UpdateEntry.downloadStatus?, callback] using hVerified
        · exact hInTime hStage hLater retrieve hRetrieve
      · intro call hStarted
        simp [publish, UpdateFlags.note] at hStarted
    · have hMoved := @Justified.mono worker clock now flags.log [] h (by simp) hClock
      rw [List.append_nil] at hMoved
      exact leadsTo_of_quiet rfl rfl hMoved
  · next hNow =>
    refine ⟨justified_of_idle rfl rfl, ?_, fun _ hCallback => .inl hCallback, by simp⟩
    rintro stage ⟨rfl⟩
    refine @justified_of_install { worker with stage := .installBegin } _ _ hVerified ?_
    intro install hInstall
    rw [isLater, hInstall] at hNow
    simpa using hNow

theorem leadsTo_advance {move : WorkerMove} (h : worker.Justified flags.log clock)
    (hClock : clock ≤ now) (hMove : ∀ time ∈ move.time?, time = now)
    (hInTime : worker.SchedulesInTime move) :
    LeadsTo flags worker now (worker.advance defaultRetries flags move) := by
  have hRests : LeadsTo flags worker now (flags, worker.stage, none) := by
    apply leadsTo_of_quiet rfl rfl
    have hMoved := @Justified.mono worker clock now flags.log [] h (by simp) hClock
    rwa [List.append_nil] at hMoved
  obtain ⟨call, request, stage⟩ := worker
  cases move with
  | line status =>
      cases stage with
      | standardScript | installScript =>
          exact leadsTo_of_stage [.published call request.requestId status] rfl rfl rfl rfl
            (by simp)
      | downloadScript retries before =>
          simp only [advance]
          split
          · exact hRests
          · refine leadsTo_of_entries [.published call request.requestId status] rfl ?_ rfl
              (by simp)
            refine justified_of_download rfl rfl fun hVerified => ?_
            subst hVerified
            rw [downloadStatus_snoc]
            simp [UpdateEntry.downloadStatus?]
      | _ => exact hRests
  | scriptEnds =>
      cases stage with
      | standardScript | installScript =>
          exact leadsTo_of_quiet rfl rfl (justified_of_idle rfl rfl)
      | downloadScript retries status =>
          exact leadsTo_of_quiet rfl rfl (justified_of_download rfl rfl fun hStatus =>
            h.verified (congrArg some hStatus))
      | _ => exact hRests
  | proceed time =>
      obtain rfl := hMove time rfl
      cases stage with
      | received =>
          simp only [advance]
          split
          · unfold checkStandard
            split
            · exact leadsTo_of_quiet rfl rfl (justified_of_idle rfl rfl)
            · exact leadsTo_answer .rejected
          · exact leadsTo_launchDownload
      | cleared => exact leadsTo_launchStandard
      | launched =>
          simp only [advance]
          split
          · exact leadsTo_answer .acceptedCancelled
          · exact leadsTo_of_quiet rfl rfl (justified_of_idle rfl rfl)
      | looked =>
          simp only [advance]
          split
          · exact leadsTo_answer .rejected
          · exact leadsTo_answer .accepted
      | standardBegin | downloadFinish | downloadUnlock =>
          exact leadsTo_of_quiet rfl rfl (justified_of_idle rfl rfl)
      | standardLoop retries status =>
          simp only [advance]
          split
          · exact leadsTo_of_stage [.started call .firmwareUpdater] rfl rfl rfl rfl (by simp)
          · exact leadsTo_of_quiet rfl rfl (justified_of_idle rfl rfl)
      | downloadBegin | downloadWaiting =>
          simp only [advance]
          split <;> exact leadsTo_of_quiet rfl rfl (justified_of_idle rfl rfl)
      | downloadLocking =>
          simp only [advance]
          split
          · exact leadsTo_of_quiet rfl rfl (justified_of_download rfl rfl (by simp))
          · exact leadsTo_of_quiet rfl rfl (justified_of_idle rfl rfl)
      | downloadLoop retries status =>
          simp only [advance]
          split
          · next hTry =>
            -- the status of a download that tries once more is still `DownloadFailed`
            exact leadsTo_of_entries [.started call .signedFirmwareDownloader] rfl
              (justified_of_download rfl rfl (by simp [hTry.1])) rfl (by simp)
          · exact leadsTo_of_quiet rfl rfl (justified_of_download rfl rfl fun hStatus =>
              h.verified (congrArg some hStatus))
      | downloadEnd status =>
          simp only [advance]
          split
          · next hVerified =>
            subst hVerified
            exact leadsTo_initializeFirmwareInstallation h hClock rfl hInTime
          · exact leadsTo_of_quiet rfl rfl (justified_of_idle rfl rfl)
      | installBegin =>
          simp only [advance]
          split
          · obtain ⟨hVerified, hInstall⟩ := h.installs rfl
            exact leadsTo_of_quiet rfl rfl (justified_of_install hVerified fun install hMem =>
              Int.le_trans (hInstall install hMem) hClock)
          · exact leadsTo_of_stage [.published call request.requestId .installationFailed] rfl rfl
              rfl rfl (by simp)
      | installCleared =>
          exact leadsTo_of_entries [.started call .signedFirmwareInstaller] rfl
            (justified_of_idle rfl rfl) rfl (by simp)
      | answered | standardScript | downloadScript | installScript | finished => exact hRests

end Worker

/-- What happens at a time. -/
structure TimedInput where
  now : ℤ
  input : UpdaterInput
  deriving DecidableEq, Repr

/-- The module and the time of its last step. -/
structure TimedUpdater where
  updater : Updater
  clock : ℤ

namespace TimedUpdater

variable (defaultRetries : ℤ)

def start (clock : ℤ) : TimedUpdater := ⟨.start, clock⟩

def step (s : TimedUpdater) (event : TimedInput) : TimedUpdater :=
  ⟨s.updater.step defaultRetries event.input, event.now⟩

/-- The clock is not set back, every worker looks at it, and no timer is over before the time
it was set for. -/
def KeepsTime (s : TimedUpdater) (event : TimedInput) : Prop :=
  s.clock ≤ event.now ∧
    match event.input with
    | .updateFirmware _ => True
    | .turn _ move => ∀ time ∈ move.time?, time = event.now
    | .timer name => ∀ callback ∈ s.updater.shared.timer name, ∀ due ∈ callback.due,
        due ≤ event.now

instance (s : TimedUpdater) (event : TimedInput) : Decidable (s.KeepsTime event) :=
  match event with
  | ⟨_, .updateFirmware _⟩ => inferInstanceAs (Decidable (_ ∧ True))
  | ⟨_, .turn _ move⟩ => inferInstanceAs (Decidable (_ ∧ ∀ time ∈ move.time?, _))
  | ⟨_, .timer name⟩ =>
      inferInstanceAs (Decidable (_ ∧ ∀ callback ∈ s.updater.shared.timer name,
        ∀ due ∈ callback.due, _))

/-- The timer for an installation is not set for a time before it. -/
def SchedulesInTime (s : TimedUpdater) (event : TimedInput) : Prop :=
  match event.input with
  | .turn i move => ∀ worker ∈ s.updater.parties[i]?, worker.SchedulesInTime move
  | .updateFirmware _ | .timer _ => True

instance (s : TimedUpdater) (event : TimedInput) : Decidable (s.SchedulesInTime event) :=
  match event with
  | ⟨_, .turn i move⟩ =>
      inferInstanceAs (Decidable (∀ worker ∈ s.updater.parties[i]?, worker.SchedulesInTime move))
  | ⟨_, .updateFirmware _⟩ | ⟨_, .timer _⟩ => inferInstanceAs (Decidable True)

/-- An installer is started at the time stamp of its installation or later, and the last
status of its download was `SignatureVerified`. -/
def InstallsInTime (s : TimedUpdater) (event : TimedInput) : Prop :=
  ∀ call, .started call .signedFirmwareInstaller ∈
      (s.step defaultRetries event).updater.shared.log.drop s.updater.shared.log.length →
    ∃ request, s.updater.requestOf call = some request ∧
      (∀ install ∈ request.installTimestamp, install ≤ event.now) ∧
      downloadStatus call s.updater.shared.log = some .signatureVerified

/-- Workers and timers are ready for installations in time only. -/
structure Justified (s : TimedUpdater) : Prop where
  chained : s.updater.Chained
  workers : ∀ worker ∈ s.updater.parties, worker.Justified s.updater.shared.log s.clock
  installTimer : ∀ callback ∈ s.updater.shared.signedFirmwareUpdateInstallTimer,
    callback.Justified s.updater.shared.log

theorem justified_start (clock : ℤ) : (start clock).Justified where
  chained := Updater.chained_start
  workers := by simp [start, Updater.start]
  installTimer := by simp [start, Updater.start]

variable {defaultRetries} {s : TimedUpdater} {event : TimedInput}

/-- Time passes. -/
theorem Justified.later (h : s.Justified) {worker : Worker} (hWorker : worker ∈ s.updater.parties)
    {now : ℤ} (hNow : s.clock ≤ now) : worker.Justified s.updater.shared.log now := by
  have hMoved := @Worker.Justified.mono worker s.clock now s.updater.shared.log []
    (h.workers worker hWorker) (by simp) hNow
  rwa [List.append_nil] at hMoved

theorem Justified.fire (h : s.Justified) (name : TimerName) {now : ℤ} (hNow : s.clock ≤ now)
    (hDue : ∀ callback ∈ s.updater.shared.timer name, ∀ due ∈ callback.due, due ≤ now) :
    Justified ⟨s.updater.fire name, now⟩ := by
  have hChained := h.chained.fire name
  rcases s.updater.fire_cases name with ⟨-, hSame⟩ | ⟨callback, hTimer, hFire⟩
  · rw [hSame]
    exact ⟨h.chained, fun worker hWorker => h.later hWorker hNow, h.installTimer⟩
  · rw [hFire] at hChained ⊢
    refine ⟨hChained, ?_, ?_⟩
    · apply Parties.forall_join
      · intro worker hWorker
        show worker.Justified (s.updater.shared.clearTimer name).log now
        rw [UpdateFlags.log_clearTimer]
        exact h.later hWorker hNow
      · show Worker.Justified (s.updater.shared.clearTimer name).log now _
        rw [UpdateFlags.log_clearTimer]
        cases name with
        | standardUpdateFirmware | signedFirmwareUpdateDownload =>
            exact Worker.justified_of_idle rfl rfl
        | signedFirmwareUpdateInstall =>
            obtain ⟨hVerified, due, hAt, hInstall⟩ := h.installTimer callback hTimer
            apply Worker.justified_of_install hVerified
            intro install hMem
            exact Int.le_trans (hInstall install hMem) (hDue callback hTimer due hAt)
    · cases name with
      | standardUpdateFirmware | signedFirmwareUpdateDownload => exact h.installTimer
      | signedFirmwareUpdateInstall =>
          intro other hOther
          cases hOther

/-- What the worker whose turn it is writes does not matter to anyone else. -/
theorem Justified.work (h : s.Justified) {i : ℕ} {move : WorkerMove} {now : ℤ}
    (hNow : s.clock ≤ now) (hMove : ∀ time ∈ move.time?, time = now)
    (hInTime : ∀ worker ∈ s.updater.parties[i]?, worker.SchedulesInTime move) :
    Justified ⟨s.updater.work defaultRetries i move, now⟩ := by
  have hChained : (s.updater.work defaultRetries i move).Chained := h.chained.work
  cases hWorker : s.updater.parties[i]? with
  | none =>
      rw [Updater.work_of_none hWorker]
      exact ⟨h.chained, fun worker hMem => h.later hMem hNow, h.installTimer⟩
  | some worker =>
      have hMem := List.mem_of_getElem? hWorker
      have hLeads := @Worker.leadsTo_advance defaultRetries s.updater.shared worker s.clock now
        move (h.workers worker hMem) hNow hMove (hInTime worker hWorker)
      obtain ⟨entries, hLog, hEntries⟩ :=
        (@Worker.handsOn_advance defaultRetries s.updater.shared worker move).noted
      -- an entry of somebody who has not the update of a command says nothing about it
      have hSilent {call : ℕ} (hCall : worker.stage.isActive = true → call ≠ worker.call) :
          ∀ entry ∈ entries, entry.downloadStatus? call = none := by
        intro entry hEntry
        obtain ⟨hOwn, hActive | ⟨response, rfl⟩⟩ := hEntries entry hEntry
        · exact downloadStatus?_of_call_ne (hOwn ▸ (hCall hActive).symm)
        · rfl
      refine ⟨hChained, ?_, ?_⟩
      · rw [Updater.work_of_some hWorker]
        intro other hOther
        rcases List.mem_append.mp hOther with hOld | hNew
        · have hOld : other ∈ (Parties.turn (Worker.act defaultRetries) i move
              s.updater).parties := by
            rwa [Parties.turn_of_some hWorker]
          rcases (Parties.mem_turn hWorker).mp hOld with rfl | hOther
          · exact hLeads.moved
          · have hJustified := h.workers other (Parties.mem_of_mem_others hOther)
            rw [hLog]
            apply hJustified.mono _ hNow
            intro hOtherActive
            exact hSilent fun hActive =>
              (h.chained.others hWorker hActive).1 other hOther hOtherActive
        · obtain ⟨stage, hStage, rfl⟩ := List.mem_map.mp hNew
          exact hLeads.spawned stage (Option.mem_toList.mp hStage)
      · rw [Updater.work_of_some hWorker]
        intro callback hCallback
        rcases hLeads.installTimer callback hCallback with hOld | hNew
        · have hCallbacks : callback ∈ s.updater.shared.callbacks :=
            UpdateFlags.mem_callbacks.mpr (.inr (.inr hOld))
          obtain ⟨hVerified, hDue⟩ := h.installTimer callback hOld
          refine ⟨?_, hDue⟩
          rw [hLog, downloadStatus_append _ (hSilent fun hActive =>
            (h.chained.others hWorker hActive).2 callback hCallbacks)]
          exact hVerified
        · exact hNew

theorem justified_step (h : s.Justified) (hTime : s.KeepsTime event)
    (hInTime : s.SchedulesInTime event) : (s.step defaultRetries event).Justified := by
  obtain ⟨now, input⟩ := event
  obtain ⟨hNow, hTime⟩ := hTime
  rw [step]
  dsimp only at hNow
  unfold Updater.step
  split
  · exact ⟨h.chained, fun worker hWorker => h.later hWorker hNow, h.installTimer⟩
  · cases input with
    | updateFirmware request =>
        refine ⟨h.chained.updateFirmware request, ?_, h.installTimer⟩
        exact Parties.forall_join (fun worker hWorker => h.later hWorker hNow)
          (Worker.justified_of_idle rfl rfl)
    | turn i move => exact h.work hNow hTime hInTime
    | timer name => exact h.fire name hNow hTime

/-- Only a worker that is justified in it starts an installer. -/
theorem installsInTime_of_justified (h : s.Justified) (hTime : s.KeepsTime event)
    (hInTime : s.SchedulesInTime event) : s.InstallsInTime defaultRetries event := by
  obtain ⟨now, input⟩ := event
  obtain ⟨hNow, hTime⟩ := hTime
  dsimp only at hNow
  intro call hStarted
  change _ ∈ (s.updater.step defaultRetries input).shared.log.drop _ at hStarted
  unfold Updater.step at hStarted
  split at hStarted
  · simp at hStarted
  · cases input with
    | updateFirmware request => simp [Parties.join] at hStarted
    | timer name =>
        rcases s.updater.fire_cases name with ⟨-, hSame⟩ | ⟨callback, -, hFire⟩
        · simp [hSame] at hStarted
        · simp [hFire, Parties.join, UpdateFlags.log_clearTimer] at hStarted
    | turn i move =>
        cases hWorker : s.updater.parties[i]? with
        | none => simp [Updater.work_of_none hWorker] at hStarted
        | some worker =>
            have hMem := List.mem_of_getElem? hWorker
            have hLeads := @Worker.leadsTo_advance defaultRetries s.updater.shared worker s.clock
              now move (h.workers worker hMem) hNow hTime (hInTime worker hWorker)
            dsimp only at hStarted
            rw [Updater.work_of_some hWorker] at hStarted
            obtain ⟨rfl, hStage⟩ := hLeads.installer call hStarted
            obtain ⟨hVerified, hInstall⟩ := (h.workers worker hMem).installs (by rw [hStage]; rfl)
            exact ⟨worker.request, h.chained.workers worker hMem,
              fun install hAt => Int.le_trans (hInstall install hAt) hNow, hVerified⟩

/-- No installer is started before its time or without a verified download, in any run in
which no timer for an installation is set for a time before it. -/
theorem installs_in_time (defaultRetries clock : ℤ) (events : List TimedInput)
    (hTime : EveryStep (step defaultRetries) KeepsTime (start clock) events)
    (hInTime : EveryStep (step defaultRetries) SchedulesInTime (start clock) events) :
    EveryStep (step defaultRetries) (InstallsInTime defaultRetries) (start clock) events := by
  apply @everyStep_of_invariant _ _ _ _
    (fun s event => s.KeepsTime event ∧ s.SchedulesInTime event) _ Justified
    (justified_start clock)
  · exact fun _ _ h hOk => justified_step h hOk.1 hOk.2
  · exact fun _ _ h hOk => installsInTime_of_justified h hOk.1 hOk.2
  · exact fun before event hBefore => ⟨hTime before event hBefore, hInTime before event hBefore⟩

/-- A request that comes at its time of retrieval and is found verified later: the command is
worker 0, its download worker 1. -/
def download (request : FirmwareUpdateRequest) (retrieved verified : ℤ) : List TimedInput :=
  [⟨retrieved, .updateFirmware request⟩, ⟨retrieved, .turn 0 (.proceed retrieved)⟩,
    ⟨retrieved, .turn 1 (.proceed retrieved)⟩, ⟨retrieved, .turn 1 (.proceed retrieved)⟩,
    ⟨retrieved, .turn 1 (.proceed retrieved)⟩, ⟨verified, .turn 1 (.line .signatureVerified)⟩,
    ⟨verified, .turn 1 .scriptEnds⟩, ⟨verified, .turn 1 (.proceed verified)⟩,
    ⟨verified, .turn 1 (.proceed verified)⟩]

/-- A download that takes until after the time of the installation. -/
theorem installs_in_time_after_download :
    ∃ events, .started 0 .signedFirmwareInstaller ∈
        (run (step 1) (start 0) events).updater.shared.log ∧
      EveryStep (step 1) (InstallsInTime 1) (start 0) events :=
  let events := download
      { requestId := 1, retrieveTimestamp := some 5, installTimestamp := some 10 } 5 12 ++
    [⟨12, .turn 2 (.proceed 12)⟩, ⟨13, .turn 2 (.proceed 13)⟩]
  ⟨events, by decide, installs_in_time 1 0 events (by decide) (by decide)⟩

/-- The installation is put off to time 100 and begins at time 6. -/
theorem installs_too_early :
    ∃ events, EveryStep (step 1) KeepsTime (start 0) events ∧
      ¬ EveryStep (step 1) (InstallsInTime 1) (start 0) events := by
  refine ⟨download
      { requestId := 1, retrieveTimestamp := some 5, installTimestamp := some 100 } 5 6 ++
    [⟨6, .timer .signedFirmwareUpdateInstall⟩, ⟨6, .turn 2 (.proceed 6)⟩] ++
    [⟨6, .turn 2 (.proceed 6)⟩], by decide, ?_⟩
  rw [everyStep_snoc]
  rintro ⟨-, hLast⟩
  obtain ⟨request, hRequest, hInstall, -⟩ := hLast 0 (by decide)
  cases hRequest
  exact absurd (hInstall 100 rfl) (by decide)

end TimedUpdater

end EverestCore.Firmware
