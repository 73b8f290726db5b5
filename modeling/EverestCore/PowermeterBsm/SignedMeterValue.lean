import EverestCore.Data.Decimal
import EverestCore.PowermeterBsm.SunspecModels

/-! `handle_get_signed_meter_value` of `PowermeterBSM`: the trigger of a snapshot, its polls,
the read of the snapshot and the exceptions on the way. -/
namespace EverestCore.PowermeterBsm

open Modbus

def statusCodeEnumToString : StatusCode → String
  | .success => "Success"
  | .error => "Error"

/-- `41795_sma`. -/
def ocmfTriggerRegister : ModbusRegisterAddress := .ofSunspec ⟨41795⟩

/-- `known_model::BSM_OCMF_CurrentSnapshot`. -/
def bsmOCMFCurrentSnapshot : AddressData :=
  ⟨⟨1792⟩, bsmOCMFSnapshotPointInitList.modelSizeInRegister⟩

def signedMeterValueError : List UInt8 := asciiBytes "get_signed_meter_value_error"

/-- `SignedOCMFSnapshot::O`. -/
def ocmfText (snapshot : SunspecModelBase bsmOCMFSnapshotPointInitList) : List UInt8 :=
  let point := bsmOCMFSnapshotPointInitList.pointAt SignedOCMFSnapshot.o.index
  (SunspecDecoder.stringAtWithLength point.offset.toNat point.lengthInBytes.toNat).value
    (cells snapshot.mData)

/-- The `catch` of the handler takes runtime errors only. -/
def caught : Except Thrown (List UInt8) → Except Thrown (List UInt8)
  | .error (.runtimeError _) => .ok signedMeterValueError
  | .error (.string text) => .error (.string text)
  | .ok text => .ok text

namespace SerialCommHubTransport

variable (transport : SerialCommHubTransport)

/-- A read of the register that the trigger was written to. The count is the `true` of the
source. -/
def poll (snapshotTriggerRegister : ModbusRegisterAddress) (call : ℕ) : Option (List ℤ) :=
  (transport.serialHub.callModbusReadHoldingRegisters call transport.unitId
    snapshotTriggerRegister.val 1).value

/-- The loop of `trigger_snapshot_generation`, and the number of the next call. -/
def pollSnapshot (snapshotTriggerRegister : ModbusRegisterAddress) :
    (counter call : ℕ) → Except Thrown Bool × ℕ
  | 0, call => (.ok false, call)
  | counter + 1, call =>
      match transport.poll snapshotTriggerRegister call with
      | none => (.error (.runtimeError "no result from serial com hub!"), call + 1)
      | some snapshotGenerationCode =>
          if snapshotGenerationCode.head? = some 0 then (.ok true, call + 1)
          else pollSnapshot snapshotTriggerRegister counter (call + 1)

/-- The write that asks for a snapshot. -/
def writeResult (snapshotTriggerRegister : ModbusRegisterAddress) (call : ℕ) : StatusCode :=
  transport.serialHub.callModbusWriteMultipleRegisters call transport.unitId
    snapshotTriggerRegister.val [0x0002]

def triggerSnapshotGeneration (prettyFunction : String)
    (snapshotTriggerRegister : ModbusRegisterAddress) (call : ℕ) : Except Thrown Bool × ℕ :=
  let writeResult := transport.writeResult snapshotTriggerRegister call
  if writeResult = .success then transport.pollSnapshot snapshotTriggerRegister 10 (call + 1)
  else
    (.error (.string (prettyFunction ++ " SerialCommHub error : " ++
      statusCodeEnumToString writeResult)), call + 1)

variable (prettyFunction : String) (maxRegisterPerMessage fuel : ℕ)

/-- What the handler fetches from a call on, and the text in it. -/
def snapshotText? (call : ℕ) : Option (Except Thrown (List UInt8)) :=
  (transport.fetchKnown? maxRegisterPerMessage fuel call bsmOCMFCurrentSnapshot).map fun data => do
    let data ← data
    let signedSnapshot ← SunspecModelBase.construct bsmOCMFSnapshotPointInitList prettyFunction data
    pure (ocmfText signedSnapshot)

/-- The handler, from a call of the hub on. A trigger that fails is only logged. -/
def handleGetSignedMeterValue? (call : ℕ) : Option (Except Thrown (List UInt8)) :=
  match transport.triggerSnapshotGeneration prettyFunction ocmfTriggerRegister call with
  | (.error thrown, _) => some (caught (.error thrown))
  | (.ok _, next) =>
      (transport.snapshotText? prettyFunction maxRegisterPerMessage fuel next).map caught

/-- The poll finds the snapshot ready. -/
def PollsZero (snapshotTriggerRegister : ModbusRegisterAddress) (call : ℕ) : Prop :=
  ∃ code, transport.poll snapshotTriggerRegister call = some code ∧ code.head? = some 0

/-- The poll is answered, and the snapshot is not ready. -/
def PollsOther (snapshotTriggerRegister : ModbusRegisterAddress) (call : ℕ) : Prop :=
  ∃ code, transport.poll snapshotTriggerRegister call = some code ∧ code.head? ≠ some 0

/-- The text is from the snapshot of this call: its trigger has been written, then the status
has been read as zero, and then the text has been fetched. -/
def IsFresh (call : ℕ) (text : List UInt8) : Prop :=
  transport.writeResult ocmfTriggerRegister call = .success ∧
    ∃ k < 10, transport.PollsZero ocmfTriggerRegister (call + 1 + k) ∧
      transport.snapshotText? prettyFunction maxRegisterPerMessage fuel (call + 1 + k + 1) =
        some (.ok text)

/-- The handler returns, and what it returns is fresh or the text of an error. -/
def AnswersFresh (call : ℕ) : Prop :=
  ∃ answer, transport.handleGetSignedMeterValue? prettyFunction maxRegisterPerMessage fuel call =
      some (.ok answer) ∧
    (answer = signedMeterValueError ∨
      transport.IsFresh prettyFunction maxRegisterPerMessage fuel call answer)

/-- The trigger is written, and where ten polls are answered without a zero, no other text can
be fetched after them. -/
def NothingStale (call : ℕ) : Prop :=
  transport.writeResult ocmfTriggerRegister call = .success ∧
    ((∀ k < 10, transport.PollsOther ocmfTriggerRegister (call + 1 + k)) →
      ∀ text, transport.snapshotText? prettyFunction maxRegisterPerMessage fuel (call + 1 + 10) =
        some (.ok text) → text = signedMeterValueError)

variable {transport prettyFunction maxRegisterPerMessage fuel}

/-- The polls end with a zero, without an answer, or with the last of them. -/
theorem pollSnapshot_cases (register : ModbusRegisterAddress) (counter call : ℕ) :
    (∃ k < counter, transport.PollsZero register (call + k) ∧
      transport.pollSnapshot register counter call = (.ok true, call + k + 1)) ∨
    (∃ k < counter, transport.poll register (call + k) = none ∧
      ∃ what, (transport.pollSnapshot register counter call).1 = .error (.runtimeError what)) ∨
    ((∀ k < counter, transport.PollsOther register (call + k)) ∧
      transport.pollSnapshot register counter call = (.ok false, call + counter)) := by
  induction counter generalizing call with
  | zero => exact Or.inr (Or.inr ⟨fun k hk => absurd hk (Nat.not_lt_zero k), rfl⟩)
  | succ counter ih =>
      cases hPoll : transport.poll register call with
      | none =>
          refine Or.inr (Or.inl ⟨0, Nat.succ_pos _, hPoll, "no result from serial com hub!", ?_⟩)
          simp only [pollSnapshot, hPoll]
      | some code =>
          by_cases hZero : code.head? = some 0
          · refine Or.inl ⟨0, Nat.succ_pos _, ⟨code, hPoll, hZero⟩, ?_⟩
            simp only [pollSnapshot, hPoll, if_pos hZero, Nat.add_zero]
          · have hNext : transport.pollSnapshot register (counter + 1) call =
                transport.pollSnapshot register counter (call + 1) := by
              simp only [pollSnapshot, hPoll, if_neg hZero]
            have hShift : ∀ k, call + (k + 1) = call + 1 + k := fun k => by omega
            rw [hNext]
            rcases ih (call + 1) with ⟨k, hk, hFound, hResult⟩ | ⟨k, hk, hNone, hResult⟩ |
              ⟨hOther, hResult⟩
            · refine Or.inl ⟨k + 1, by omega, ?_, ?_⟩
              · rwa [hShift k]
              · rw [hResult, hShift k]
            · refine Or.inr (Or.inl ⟨k + 1, by omega, ?_, hResult⟩)
              rwa [hShift k]
            · refine Or.inr (Or.inr ⟨fun k hk => ?_, ?_⟩)
              · cases k with
                | zero => exact ⟨code, hPoll, hZero⟩
                | succ k =>
                    rw [hShift k]
                    exact hOther k (by omega)
              · rw [hResult, hShift counter]

/-- The hub makes a fetch throw runtime errors only. -/
theorem isRuntimeError_of_readChunk {call n : ℕ} {address : UInt16} {thrown : Thrown}
    (hRead : transport.readChunk call address n = .error thrown) :
    ∃ what, thrown = .runtimeError what := by
  rw [readChunk] at hRead
  split at hRead
  · cases hRead
    exact ⟨_, rfl⟩
  · cases hRead

/-- The fetch ends, and so do the constructor and the accessor, with a text or a runtime
error. -/
theorem snapshotText?_ends (hMax : 0 < maxRegisterPerMessage) (hFuel : 500 < fuel) (call : ℕ) :
    (∃ text, transport.snapshotText? prettyFunction maxRegisterPerMessage fuel call =
      some (.ok text)) ∨
    ∃ what, transport.snapshotText? prettyFunction maxRegisterPerMessage fuel call =
      some (.error (.runtimeError what)) := by
  have hLength : (UInt16.ofNat bsmOCMFCurrentSnapshot.modelSize).toNat = 500 := by decide
  obtain ⟨outcome, hFetch, hThrown⟩ := @PowermeterBsm.fetch?_ends Thrown transport.readChunk
    maxRegisterPerMessage hMax transport.baseAddress bsmOCMFCurrentSnapshot.baseOffset _ fuel
    (hLength.symm ▸ hFuel) call
  change transport.fetchKnown? maxRegisterPerMessage fuel call bsmOCMFCurrentSnapshot =
    some outcome at hFetch
  rw [snapshotText?, hFetch]
  cases outcome with
  | error thrown =>
      obtain ⟨_, _, _, hRead⟩ := hThrown thrown rfl
      obtain ⟨what, rfl⟩ := isRuntimeError_of_readChunk hRead
      exact Or.inr ⟨what, rfl⟩
  | ok data =>
      change (∃ text, some (SunspecModelBase.construct _ prettyFunction data >>= fun snapshot =>
          pure (ocmfText snapshot)) = some (Except.ok text)) ∨
        ∃ what, some (SunspecModelBase.construct _ prettyFunction data >>= fun snapshot =>
          pure (ocmfText snapshot)) = some (Except.error (Thrown.runtimeError what))
      rw [SunspecModelBase.construct]
      by_cases hSize : bsmOCMFSnapshotPointInitList.modelSizeInBytes ≤ data.length
      · rw [dif_pos hSize]
        exact Or.inl ⟨ocmfText ⟨data, hSize⟩, rfl⟩
      · rw [dif_neg hSize]
        exact Or.inr ⟨_, rfl⟩

theorem not_pollsOther_of_zero {register : ModbusRegisterAddress} {call : ℕ}
    (hZero : transport.PollsZero register call) : ¬transport.PollsOther register call := by
  obtain ⟨code, hPoll, hHead⟩ := hZero
  rintro ⟨other, hOther, hNot⟩
  rw [Option.some.inj (hPoll.symm.trans hOther)] at hHead
  exact hNot hHead

theorem handle_of_trigger_ok {call next : ℕ} {found : Bool}
    (hTrigger : transport.triggerSnapshotGeneration prettyFunction ocmfTriggerRegister call =
      (.ok found, next)) :
    transport.handleGetSignedMeterValue? prettyFunction maxRegisterPerMessage fuel call =
      (transport.snapshotText? prettyFunction maxRegisterPerMessage fuel next).map caught := by
  rw [handleGetSignedMeterValue?, hTrigger]

theorem handle_of_trigger_error {call : ℕ} {thrown : Thrown}
    (hTrigger : (transport.triggerSnapshotGeneration prettyFunction ocmfTriggerRegister call).1 =
      .error thrown) :
    transport.handleGetSignedMeterValue? prettyFunction maxRegisterPerMessage fuel call =
      some (caught (.error thrown)) := by
  rw [handleGetSignedMeterValue?]
  generalize transport.triggerSnapshotGeneration prettyFunction ocmfTriggerRegister call = result
    at hTrigger
  obtain ⟨found, next⟩ := result
  cases hTrigger
  rfl

/-- What the handler returns is fresh right if the trigger is written and no stale text can be
fetched. -/
theorem handleGetSignedMeterValue?_fresh_iff (transport : SerialCommHubTransport)
    (prettyFunction : String) {maxRegisterPerMessage : ℕ} (hMax : 0 < maxRegisterPerMessage)
    {fuel : ℕ} (hFuel : 500 < fuel) (call : ℕ) :
    transport.AnswersFresh prettyFunction maxRegisterPerMessage fuel call ↔
      transport.NothingStale prettyFunction maxRegisterPerMessage fuel call := by
  by_cases hWritten : transport.writeResult ocmfTriggerRegister call = .success
  · have hTrigger : transport.triggerSnapshotGeneration prettyFunction ocmfTriggerRegister call =
        transport.pollSnapshot ocmfTriggerRegister 10 (call + 1) := if_pos hWritten
    have hEnds := fun next => @snapshotText?_ends transport prettyFunction _ _ hMax hFuel next
    rw [NothingStale, and_iff_right hWritten]
    rcases @pollSnapshot_cases transport ocmfTriggerRegister 10 (call + 1) with
      ⟨k, hk, hZero, hResult⟩ | ⟨k, hk, hNone, what, hResult⟩ | ⟨hOther, hResult⟩
    · -- A poll finds zero: what is fetched then is fresh.
      have hHandle := @handle_of_trigger_ok _ _ maxRegisterPerMessage fuel _ _ _
        (hTrigger.trans hResult)
      refine iff_of_true ?_ fun hOther => absurd (hOther k hk) (not_pollsOther_of_zero hZero)
      rcases hEnds (call + 1 + k + 1) with ⟨text, hText⟩ | ⟨what, hText⟩
      · exact ⟨text, hHandle.trans (congrArg _ hText), Or.inr ⟨hWritten, k, hk, hZero, hText⟩⟩
      · exact ⟨signedMeterValueError, hHandle.trans (congrArg _ hText), Or.inl rfl⟩
    · -- A poll is not answered, which is a runtime error.
      have hHandle := @handle_of_trigger_error _ _ maxRegisterPerMessage fuel _ _
        ((congrArg Prod.fst hTrigger).trans hResult)
      refine iff_of_true ⟨signedMeterValueError, hHandle, Or.inl rfl⟩ fun hOther => ?_
      obtain ⟨code, hCode, _⟩ := hOther k hk
      rw [hNone] at hCode
      cases hCode
    · -- Every poll finds something else, and what is fetched then is stale.
      have hHandle := @handle_of_trigger_ok _ _ maxRegisterPerMessage fuel _ _ _
        (hTrigger.trans hResult)
      rw [forall_prop_of_true hOther]
      rcases hEnds (call + 1 + 10) with ⟨text, hText⟩ | ⟨what, hText⟩
      · rw [hText] at hHandle ⊢
        refine ⟨?_, fun hSame => ⟨text, hHandle, Or.inl (hSame text rfl)⟩⟩
        rintro ⟨answer, hAnswer, hFresh⟩ other hOtherText
        cases hOtherText
        cases hHandle.symm.trans hAnswer
        rcases hFresh with hError | ⟨_, k, hk, hZero, _⟩
        · exact hError
        · exact absurd (hOther k hk) (not_pollsOther_of_zero hZero)
      · rw [hText] at hHandle ⊢
        refine iff_of_true ⟨signedMeterValueError, hHandle, Or.inl rfl⟩ fun text hNone => ?_
        cases hNone
  · -- The string that the trigger throws leaves the handler.
    have hTrigger : (transport.triggerSnapshotGeneration prettyFunction ocmfTriggerRegister
        call).1 = _ := congrArg Prod.fst (if_neg hWritten)
    have hHandle := @handle_of_trigger_error transport prettyFunction maxRegisterPerMessage fuel
      call _ hTrigger
    refine iff_of_false ?_ fun hNothing => hWritten hNothing.1
    rintro ⟨answer, hAnswer, _⟩
    cases hHandle.symm.trans hAnswer

/-- A hub that reads zero everywhere. -/
theorem handleGetSignedMeterValue?_fresh_ready :
    AnswersFresh ⟨⟨fun _ _ _ n => ⟨.success, some (List.replicate n 0)⟩, fun _ _ _ _ => .success⟩,
      1, ⟨40000⟩⟩ "" 125 501 0 :=
  (handleGetSignedMeterValue?_fresh_iff _ "" (by decide) (by decide) 0).mpr
    ⟨rfl, fun hOther => absurd (hOther 0 (by decide)) (not_pollsOther_of_zero ⟨[0], rfl, rfl⟩)⟩

/-- A hub that reports an error for the write: nobody catches the string. -/
theorem handleGetSignedMeterValue?_fresh_unwritten :
    ¬∀ (transport : SerialCommHubTransport) (prettyFunction : String)
      (maxRegisterPerMessage fuel call : ℕ), 0 < maxRegisterPerMessage → 500 < fuel →
        transport.AnswersFresh prettyFunction maxRegisterPerMessage fuel call := by
  intro hAll
  obtain ⟨answer, hAnswer, _⟩ := hAll
    ⟨⟨fun _ _ _ _ => ⟨.error, none⟩, fun _ _ _ _ => .error⟩, 1, ⟨40000⟩⟩ "" 125 501 0 (by decide)
    (by decide)
  cases hAnswer

end SerialCommHubTransport

end EverestCore.PowermeterBsm
