import EverestCore.Machine.Parties

/-! The firmware updates of the System module. Every `update_firmware` command, every
thread that it starts and every callback of a timer is a worker, and the workers take
their steps in any order. The flags that are to keep the updates apart are plain
variables, which are read and written in different steps. -/
namespace EverestCore.Firmware
open Machine

inductive FirmwareUpdateStatus where
  | downloaded
  | downloadFailed
  | downloading
  | downloadScheduled
  | downloadPaused
  | idle
  | installationFailed
  | installing
  | installed
  | installRebooting
  | installScheduled
  | installVerificationFailed
  | invalidSignature
  | signatureVerified
  deriving DecidableEq, Repr

inductive UpdateFirmwareResponse where
  | accepted
  | rejected
  | acceptedCancelled
  deriving DecidableEq, Repr

/-- `FirmwareUpdateRequest`, with the time stamps as numbers. -/
structure FirmwareUpdateRequest where
  requestId : ℤ
  location : String := ""
  signature : String := ""
  signingCertificate : String := ""
  retries : Option ℤ := none
  retrieveTimestamp : Option ℤ := none
  installTimestamp : Option ℤ := none
  deriving DecidableEq, Repr

/-- The time stamp is there and lies ahead. -/
def isLater (timestamp : Option ℤ) (now : ℤ) : Bool := timestamp.any (now < ·)

inductive Script where
  | firmwareUpdater
  | signedFirmwareDownloader
  | signedFirmwareInstaller
  deriving DecidableEq, Repr

/-- How far a worker is. Where it is the thread that waits for the output of a script,
the script is running. -/
inductive WorkerStage where
  -- `handle_update_firmware`, up to its answer
  | received
  | cleared
  | launched
  | looked
  | answered (response : UpdateFirmwareResponse)
  -- `standard_firmware_update`
  | standardBegin
  | standardLoop (retries : ℤ) (status : FirmwareUpdateStatus)
  | standardScript (retries : ℤ) (status : FirmwareUpdateStatus)
  -- `download_signed_firmware`
  | downloadBegin
  | downloadWaiting
  | downloadLocking
  | downloadLoop (retries : ℤ) (status : FirmwareUpdateStatus)
  | downloadScript (retries : ℤ) (status : FirmwareUpdateStatus)
  | downloadEnd (status : FirmwareUpdateStatus)
  | downloadFinish
  | downloadUnlock
  -- `install_signed_firmware`
  | installBegin
  | installCleared
  | installScript
  | finished
  deriving DecidableEq, Repr

/-- A worker, with the command that it goes back to: `call` is the place of the handler
of that command among the workers. -/
structure Worker where
  call : ℕ
  request : FirmwareUpdateRequest
  stage : WorkerStage
  deriving DecidableEq, Repr

inductive UpdateEntry where
  | answered (call : ℕ) (response : UpdateFirmwareResponse)
  | started (call : ℕ) (script : Script)
  | published (call : ℕ) (requestId : ℤ) (status : FirmwareUpdateStatus)
  deriving DecidableEq, Repr

/-- What is called when a timer is over. -/
structure TimerCallback where
  call : ℕ
  request : FirmwareUpdateRequest
  deriving DecidableEq, Repr

/-- The members of `systemImpl` that the updates share. -/
structure UpdateFlags where
  standardFirmwareUpdateRunning : Bool := false
  firmwareDownloadRunning : Bool := false
  firmwareInstallationRunning : Bool := false
  interruptFirmwareDownload : Bool := false
  -- whether `firmware_update_mutex` is held
  firmwareUpdateMutex : Bool := false
  standardUpdateFirmwareTimer : Option TimerCallback := none
  signedFirmwareUpdateDownloadTimer : Option TimerCallback := none
  signedFirmwareUpdateInstallTimer : Option TimerCallback := none
  -- an exception that nobody catches has ended the module
  terminated : Bool := false
  log : List UpdateEntry := []
  deriving DecidableEq, Repr

def UpdateFlags.note (entry : UpdateEntry) (flags : UpdateFlags) : UpdateFlags :=
  { flags with log := flags.log ++ [entry] }

/-- The next step of a worker, at a time, or what the script that it waits for does. -/
inductive WorkerMove where
  | proceed (now : ℤ)
  | line (status : FirmwareUpdateStatus)
  | scriptEnds
  deriving DecidableEq, Repr

namespace Worker

variable (defaultRetries : ℤ) (flags : UpdateFlags) (worker : Worker)

def publish (status : FirmwareUpdateStatus) : UpdateFlags :=
  flags.note (.published worker.call worker.request.requestId status)

def start (script : Script) : UpdateFlags := flags.note (.started worker.call script)

def callback : TimerCallback := ⟨worker.call, worker.request⟩

/-- `total_retries`. -/
def totalRetries : ℤ := worker.request.retries.getD defaultRetries

/-- The answer of `handle_update_firmware`. -/
def answer (response : UpdateFirmwareResponse) : UpdateFlags × WorkerStage × Option WorkerStage :=
  (flags.note (.answered worker.call response), .answered response, none)

/-- `handle_standard_firmware_update`: the flag is looked at. -/
def checkStandard : UpdateFlags × WorkerStage × Option WorkerStage :=
  if !flags.standardFirmwareUpdateRunning then (flags, .cleared, none)
  else worker.answer flags .rejected

/-- The rest of it: the update begins now or later. -/
def launchStandard (now : ℤ) : UpdateFlags × WorkerStage × Option WorkerStage :=
  let (flags, _) := worker.answer flags .accepted
  if isLater worker.request.retrieveTimestamp now then
    ({ flags with standardUpdateFirmwareTimer := some worker.callback },
      .answered .accepted, none)
  else (flags, .answered .accepted, some .standardBegin)

/-- `handle_signed_fimware_update`, up to the answer. -/
def launchDownload (now : ℤ) : UpdateFlags × WorkerStage × Option WorkerStage :=
  if isLater worker.request.retrieveTimestamp now then
    (worker.publish { flags with signedFirmwareUpdateDownloadTimer := some worker.callback }
      .downloadScheduled, .launched, none)
  else (flags, .launched, some .downloadBegin)

/-- `initialize_firmware_installation`. It is scheduled for the time of the download,
and where there is none, the exception of the missing value ends the module. -/
def initializeFirmwareInstallation (now : ℤ) :
    UpdateFlags × WorkerStage × Option WorkerStage :=
  if isLater worker.request.installTimestamp now then
    if worker.request.retrieveTimestamp.isSome then
      (worker.publish { flags with signedFirmwareUpdateInstallTimer := some worker.callback }
        .installScheduled, .downloadFinish, none)
    else ({ flags with terminated := true }, worker.stage, none)
  else (flags, .downloadFinish, some .installBegin)

/-- A step of a worker: the shared data, where it is then, and the thread that it has
started. A move that does not fit the stage has no effect. -/
def advance (move : WorkerMove) : UpdateFlags × WorkerStage × Option WorkerStage :=
  match worker.stage, move with
  | .received, .proceed now =>
      if worker.request.requestId = -1 then worker.checkStandard flags
      else worker.launchDownload flags now
  | .cleared, .proceed now => worker.launchStandard flags now
  | .launched, .proceed _ =>
      if flags.firmwareDownloadRunning then worker.answer flags .acceptedCancelled
      else (flags, .looked, none)
  | .looked, .proceed _ =>
      if flags.firmwareInstallationRunning then worker.answer flags .rejected
      else worker.answer flags .accepted
  -- the thread that sets the flag does nothing but start another one
  | .standardBegin, .proceed _ =>
      ({ flags with standardFirmwareUpdateRunning := true }, .standardLoop 0 .downloadFailed, none)
  | .standardLoop retries status, .proceed _ =>
      if status = .downloadFailed ∧ retries ≤ worker.totalRetries defaultRetries then
        (worker.start flags .firmwareUpdater, .standardScript (retries + 1) status, none)
      else ({ flags with standardFirmwareUpdateRunning := false }, .finished, none)
  | .standardScript retries _, .line status =>
      (worker.publish flags status, .standardScript retries status, none)
  | .standardScript retries status, .scriptEnds => (flags, .standardLoop retries status, none)
  | .downloadBegin, .proceed _ =>
      if flags.firmwareDownloadRunning then
        ({ flags with interruptFirmwareDownload := true }, .downloadWaiting, none)
      else (flags, .downloadLocking, none)
  | .downloadWaiting, .proceed _ =>
      if !flags.firmwareUpdateMutex && !flags.firmwareDownloadRunning then
        (flags, .downloadLocking, none)
      else (flags, .downloadWaiting, none)
  | .downloadLocking, .proceed _ =>
      if !flags.firmwareUpdateMutex then
        ({ flags with
          firmwareUpdateMutex := true
          interruptFirmwareDownload := false
          firmwareDownloadRunning := true }, .downloadLoop 0 .downloadFailed, none)
      else (flags, .downloadLocking, none)
  | .downloadLoop retries status, .proceed _ =>
      if status = .downloadFailed ∧ retries ≤ worker.totalRetries defaultRetries ∧
          !flags.interruptFirmwareDownload then
        (worker.start flags .signedFirmwareDownloader, .downloadScript (retries + 1) status, none)
      else (flags, .downloadEnd status, none)
  | .downloadScript retries status, .line next =>
      -- an interrupted download does not look at what it has read
      if flags.interruptFirmwareDownload then (flags, .downloadScript retries status, none)
      else (worker.publish flags next, .downloadScript retries next, none)
  | .downloadScript retries status, .scriptEnds => (flags, .downloadLoop retries status, none)
  | .downloadEnd status, .proceed now =>
      if status = .signatureVerified then worker.initializeFirmwareInstallation flags now
      else (flags, .downloadFinish, none)
  | .downloadFinish, .proceed _ =>
      ({ flags with firmwareDownloadRunning := false }, .downloadUnlock, none)
  | .downloadUnlock, .proceed _ =>
      ({ flags with firmwareUpdateMutex := false }, .finished, none)
  | .installBegin, .proceed _ =>
      if !flags.firmwareInstallationRunning then (flags, .installCleared, none)
      else (worker.publish flags .installationFailed, .finished, none)
  | .installCleared, .proceed _ =>
      (worker.start { flags with firmwareInstallationRunning := true } .signedFirmwareInstaller,
        .installScript, none)
  | .installScript, .line status => (worker.publish flags status, .installScript, none)
  | .installScript, .scriptEnds => (flags, .finished, none)
  | stage, _ => (flags, stage, none)

def act (worker : Worker) (move : WorkerMove) : UpdateFlags × Worker :=
  ((worker.advance defaultRetries flags move).1,
    { worker with stage := (worker.advance defaultRetries flags move).2.1 })

/-- The thread that a step starts. -/
def spawns (move : WorkerMove) : Option Worker :=
  (worker.advance defaultRetries flags move).2.2.map fun stage => { worker with stage := stage }

/-- The script that the worker has started and that is still running. -/
def runningScript : Option Script :=
  match worker.stage with
  | .standardScript _ _ => some .firmwareUpdater
  | .downloadScript _ _ => some .signedFirmwareDownloader
  | .installScript => some .signedFirmwareInstaller
  | _ => none

def runs (script : Script) (worker : Worker) : Bool := worker.runningScript = some script

end Worker

inductive TimerName where
  | standardUpdateFirmware
  | signedFirmwareUpdateDownload
  | signedFirmwareUpdateInstall
  deriving DecidableEq, Repr

/-- The System module, for its firmware updates. -/
abbrev Updater := Parties UpdateFlags Worker

inductive UpdaterInput where
  | updateFirmware (request : FirmwareUpdateRequest)
  | turn (i : ℕ) (move : WorkerMove)
  | timer (name : TimerName)
  deriving DecidableEq, Repr

namespace Updater

variable (defaultRetries : ℤ)

def start : Updater := ⟨{}, []⟩

/-- A timer that is set is over: its callback is called, and it is not set any more. -/
def fire (s : Updater) (name : TimerName) : Updater :=
  match name with
  | .standardUpdateFirmware =>
      match s.shared.standardUpdateFirmwareTimer with
      | none => s
      | some ⟨call, request⟩ =>
          Parties.join ⟨call, request, .standardBegin⟩
            { s with shared := { s.shared with standardUpdateFirmwareTimer := none } }
  | .signedFirmwareUpdateDownload =>
      match s.shared.signedFirmwareUpdateDownloadTimer with
      | none => s
      | some ⟨call, request⟩ =>
          Parties.join ⟨call, request, .downloadBegin⟩
            { s with shared := { s.shared with signedFirmwareUpdateDownloadTimer := none } }
  | .signedFirmwareUpdateInstall =>
      match s.shared.signedFirmwareUpdateInstallTimer with
      | none => s
      | some ⟨call, request⟩ =>
          Parties.join ⟨call, request, .installBegin⟩
            { s with shared := { s.shared with signedFirmwareUpdateInstallTimer := none } }

/-- A step of a worker, with the thread that it starts. -/
def work (s : Updater) (i : ℕ) (move : WorkerMove) : Updater :=
  let next := s.turn (Worker.act defaultRetries) i move
  match s.parties[i]?.bind (Worker.spawns defaultRetries s.shared · move) with
  | none => next
  | some worker => next.join worker

def step (s : Updater) (input : UpdaterInput) : Updater :=
  if s.shared.terminated then s
  else
    match input with
    | .updateFirmware request => s.join ⟨s.parties.length, request, .received⟩
    | .turn i move => s.work defaultRetries i move
    | .timer name => s.fire name

end Updater

end EverestCore.Firmware
