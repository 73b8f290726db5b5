import EverestCore.GenericPowermeter.Registers

/-! The reading thread of `GenericPowermeter`: the reads of a cycle, what becomes of their
results, and where the values are stored. -/
namespace EverestCore.GenericPowermeter

open Modbus (Result StatusCode)

/-- How the thread dies: by an exception that nobody catches, by taking the value of an empty
optional, or by reading behind the end of a vector. -/
inductive Fault where
  | thrown (what : String)
  | emptyOptional
  | outOfBounds
  deriving DecidableEq

/-- The arithmetic of `float`: zero, and the product of the bits of a value as a `float`, a
multiplier and a power of ten. -/
structure FloatArithmetic (F : Type) where
  zero : F
  scaled : UInt32 → F → Int16 → F

structure Conf where
  powermeterDeviceId : ℤ
  modbusBaseAddress : ℤ

/-- The hub answers each of its calls anew. -/
abbrev SerialCommHub :=
  (call : ℕ) → (function : ModbusFunctionType) → (deviceId address numRegisters : ℤ) → Result

/-- A `Result` that no call has filled: zero is `Success`. -/
def emptyResult : Result := ⟨.success, none⟩

/-- What a response does to the record. -/
inductive Effect (F : Type) where
  | nothing
  | store (place : Place) (value : F)

variable {F : Type}

def Effect.apply (record : Powermeter F) : Effect F → Powermeter F
  | .nothing => record
  | .store place value => record.store place value

section Reads

variable (conf : Conf) (hub : SerialCommHub)

/-- One of the reads of `readRegister`. -/
def request (call : ℕ) (function : ModbusFunctionType) (register : UInt16) (numRegisters : UInt16) :
    Result :=
  match function with
  | .readHoldingRegister =>
      hub call function conf.powermeterDeviceId register.toNat numRegisters.toNat
  | .readInputRegister =>
      hub call function conf.powermeterDeviceId (register.toNat - conf.modbusBaseAddress)
        numRegisters.toNat
  | .registerTypeUndefined => emptyResult

/-- The response to the read of the value, which is the first of two calls. -/
def registerResponse (n : ℕ) (registerConfig : RegisterData F) : Result :=
  request conf hub (2 * n) registerConfig.startRegisterFunction registerConfig.startRegister
    registerConfig.numRegisters

/-- The response to the read of the exponent, which asks for as many registers. -/
def exponentResponse (n : ℕ) (registerConfig : RegisterData F) : Result :=
  if registerConfig.exponentRegister ≠ 0 then
    request conf hub (2 * n + 1) registerConfig.exponentRegisterFunction
      registerConfig.exponentRegister registerConfig.numRegisters
  else emptyResult

end Reads

section Responses

variable (float : FloatArithmetic F)

/-- An `int` becomes a `uint32_t`. -/
def toUInt32 (n : ℤ) : UInt32 := .ofInt n

def mergeRegisterValuesIntoElement (regData : RegisterData F) (exponent : Int16)
    (regMessage : Result) : Except Fault F :=
  match regMessage.value with
  | none => .ok float.zero
  | some regValue =>
      match regData.numRegisters.toNat, regValue with
      | 1, [first] => .ok (float.scaled (toUInt32 first) regData.multiplier exponent)
      | 2, [first, second] =>
          .ok (float.scaled (toUInt32 (first * 65536) + toUInt32 second) regData.multiplier
            exponent)
      | _, _ =>
          .error (.thrown
            "Values of more than 2 registers in size are currently not supported!")

/-- The exponent in a response, where the program does not ask for the status. -/
def exponentOf (exponentMessage : Result) : Except Fault Int16 :=
  match exponentMessage.value with
  | none => .ok 0
  | some [] => .error .outOfBounds
  | some (first :: _) => .ok (.ofInt first)

/-- The record of a quantity is there. The energy from the grid is no optional. -/
def dereference (record : Powermeter F) (quantity : Quantity) : Except Fault Unit :=
  if quantity = .energyWhImport ∨ (record quantity).isSome then .ok () else .error .emptyOptional

def processResponse (registerData : RegisterData F) (registerMessage exponentMessage : Result)
    (record : Powermeter F) : Except Fault (Effect F) :=
  if registerMessage.statusCode = .success then do
    let exponent ← exponentOf exponentMessage
    dereference record registerData.type.storedPlace.1
    let value ← mergeRegisterValuesIntoElement float registerData exponent registerMessage
    pure (.store registerData.type.storedPlace value)
  else pure .nothing

variable (conf : Conf) (hub : SerialCommHub)

/-- What the `n`-th read of the thread does. -/
def readEffect (n : ℕ) (registerConfig : RegisterData F) (record : Powermeter F) :
    Except Fault (Effect F) :=
  processResponse float registerConfig (registerResponse conf hub n registerConfig)
    (exponentResponse conf hub n registerConfig) record

def readRegister (n : ℕ) (registerConfig : RegisterData F) (record : Powermeter F) :
    Except Fault (Powermeter F) := do
  let effect ← readEffect float conf hub n registerConfig record
  pure (effect.apply record)

/-- The loop of `read_powermeter_values`, from the `n`-th read on. -/
def readPowermeterValues : (n : ℕ) → List (RegisterData F) → Powermeter F →
    Except Fault (Powermeter F)
  | _, [], record => pure record
  | n, registerData :: rest, record => do
      let next ← readRegister float conf hub n registerData record
      readPowermeterValues (n + 1) rest next

variable (registers : LoadedRegisters F)

/-- The record after so many cycles of the thread, which is what they publish. -/
def published : (cycles : ℕ) → Except Fault (Powermeter F)
  | 0 => pure (initDefaultValues float.zero (pmConfiguration registers))
  | cycles + 1 => do
      let record ← published cycles
      readPowermeterValues float conf hub (cycles * (pmConfiguration registers).length)
        (pmConfiguration registers) record

/-- The thread runs, and comes with this record to this read of the data. -/
structure Reaches (n : ℕ) (registerData : RegisterData F) (record : Powermeter F) : Prop where
  loaded : configLoadedSuccessfully registers
  cycle : ∃ cycles done rest start,
    pmConfiguration registers = done ++ registerData :: rest ∧
    published float conf hub registers cycles = .ok start ∧
    readPowermeterValues float conf hub (cycles * (pmConfiguration registers).length) done start =
      .ok record ∧
    n = cycles * (pmConfiguration registers).length + done.length

end Responses

/-- The optional that a read of these data dereferences is there. -/
def Present (record : Powermeter F) (registerData : RegisterData F) : Prop :=
  registerData.type.storedPlace.1 = .energyWhImport ∨
    (record registerData.type.storedPlace.1).isSome

/-- An effect takes no quantity away. -/
theorem Present.apply {record : Powermeter F} {registerData : RegisterData F}
    (hPresent : Present record registerData) (effect : Effect F) :
    Present (effect.apply record) registerData := by
  cases effect with
  | nothing => exact hPresent
  | store stored new =>
      exact hPresent.imp_right fun hSome =>
        (Powermeter.isSome_store record stored new _).mpr (Or.inr hSome)

section Facts

variable {float : FloatArithmetic F} {conf : Conf} {hub : SerialCommHub}

theorem readEffect_of_error {n : ℕ} {data : RegisterData F}
    (hStatus : (registerResponse conf hub n data).statusCode ≠ .success) (record : Powermeter F) :
    readEffect float conf hub n data record = .ok .nothing := if_neg hStatus

/-- A response that is a success is stored in the place of its type, or a fault. -/
theorem readEffect_of_success {n : ℕ} {data : RegisterData F} {record : Powermeter F}
    (hStatus : (registerResponse conf hub n data).statusCode = .success)
    (hPresent : Present record data) :
    readEffect float conf hub n data record = (do
      let exponent ← exponentOf (exponentResponse conf hub n data)
      let value ← mergeRegisterValuesIntoElement float data exponent
        (registerResponse conf hub n data)
      pure (.store data.type.storedPlace value)) := by
  rw [readEffect, processResponse, if_pos hStatus]
  cases exponentOf (exponentResponse conf hub n data) with
  | error fault => rfl
  | ok exponent =>
      have hSome : dereference record data.type.storedPlace.1 = .ok () := if_pos hPresent
      change (dereference record data.type.storedPlace.1 >>= fun _ => _) = _
      rw [hSome]
      rfl

theorem readRegister_of_effect {n : ℕ} {data : RegisterData F} {record : Powermeter F}
    {effect : Effect F} (hEffect : readEffect float conf hub n data record = .ok effect) :
    readRegister float conf hub n data record = .ok (effect.apply record) := by
  rw [readRegister, hEffect]
  rfl

theorem exists_effect_of_readRegister {n : ℕ} {data : RegisterData F}
    {record after : Powermeter F}
    (hRead : readRegister float conf hub n data record = .ok after) :
    ∃ effect, readEffect float conf hub n data record = .ok effect ∧
      after = effect.apply record := by
  rw [readRegister] at hRead
  cases hEffect : readEffect float conf hub n data record with
  | error fault =>
      rw [hEffect] at hRead
      cases hRead
  | ok effect =>
      rw [hEffect] at hRead
      exact ⟨effect, rfl, (Except.ok.inj hRead).symm⟩

theorem readPowermeterValues_cons {n : ℕ} {data : RegisterData F} {rest : List (RegisterData F)}
    {record after : Powermeter F}
    (hCycle : readPowermeterValues float conf hub n (data :: rest) record = .ok after) :
    ∃ next, readRegister float conf hub n data record = .ok next ∧
      readPowermeterValues float conf hub (n + 1) rest next = .ok after := by
  rw [readPowermeterValues] at hCycle
  cases hRead : readRegister float conf hub n data record with
  | error fault =>
      rw [hRead] at hCycle
      cases hCycle
  | ok next =>
      rw [hRead] at hCycle
      exact ⟨next, rfl, hCycle⟩

/-- What holds of the record and is kept by every effect holds after a cycle. -/
theorem readPowermeterValues_keeps (inv : Powermeter F → Prop)
    (hApply : ∀ record effect, inv record → inv (Effect.apply record effect)) {n : ℕ}
    {data : List (RegisterData F)} {record after : Powermeter F} (hRecord : inv record)
    (hCycle : readPowermeterValues float conf hub n data record = .ok after) : inv after := by
  induction data generalizing n record with
  | nil =>
      cases hCycle
      exact hRecord
  | cons first rest ih =>
      obtain ⟨next, hRead, hRest⟩ := readPowermeterValues_cons hCycle
      obtain ⟨effect, _, rfl⟩ := exists_effect_of_readRegister hRead
      exact ih (hApply record effect hRecord) hRest

/-- The quantities of a configuration are present in all that its thread publishes. -/
theorem present_of_published {registers : LoadedRegisters F} {data : RegisterData F}
    (hData : data ∈ pmConfiguration registers) {cycles : ℕ} {record : Powermeter F}
    (hPublished : published float conf hub registers cycles = .ok record) :
    Present record data := by
  induction cycles generalizing record with
  | zero =>
      cases hPublished
      exact Or.inr (isSome_initDefaultValues _ hData)
  | succ cycles ih =>
      rw [published] at hPublished
      cases hBefore : published float conf hub registers cycles with
      | error fault =>
          rw [hBefore] at hPublished
          cases hPublished
      | ok before =>
          rw [hBefore] at hPublished
          exact readPowermeterValues_keeps (Present · data)
            (fun _ effect hPresent => hPresent.apply effect) (ih hBefore) hPublished

theorem Reaches.present {registers : LoadedRegisters F} {n : ℕ} {data : RegisterData F}
    {record : Powermeter F} (hReaches : Reaches float conf hub registers n data record) :
    data ∈ pmConfiguration registers ∧ Present record data := by
  obtain ⟨cycles, done, rest, start, hSplit, hStart, hDone, _⟩ := hReaches.cycle
  have hData : data ∈ pmConfiguration registers := by
    rw [hSplit]
    exact List.mem_append_right _ List.mem_cons_self
  exact ⟨hData, readPowermeterValues_keeps (Present · data)
    (fun _ effect hPresent => hPresent.apply effect) (present_of_published hData hStart) hDone⟩

/-- Without an empty optional, what is stored goes to the place of the type. -/
theorem readEffect_cases {n : ℕ} {data : RegisterData F} {record : Powermeter F}
    (hPresent : Present record data) :
    (∃ fault, fault ≠ .emptyOptional ∧
      readEffect float conf hub n data record = .error fault) ∨
    ((registerResponse conf hub n data).statusCode ≠ .success ∧
      readEffect float conf hub n data record = .ok .nothing) ∨
    ∃ new, readEffect float conf hub n data record = .ok (.store data.type.storedPlace new) := by
  by_cases hStatus : (registerResponse conf hub n data).statusCode = .success
  · rw [readEffect_of_success hStatus hPresent]
    cases hExponent : exponentOf (exponentResponse conf hub n data) with
    | error fault =>
        refine Or.inl ⟨fault, ?_, rfl⟩
        rintro rfl
        rw [exponentOf] at hExponent
        split at hExponent <;> cases hExponent
    | ok exponent =>
        cases hMerge : mergeRegisterValuesIntoElement float data exponent
            (registerResponse conf hub n data) with
        | error fault =>
            refine Or.inl ⟨fault, ?_, by simp only [Except.bind, bind, hMerge]⟩
            rintro rfl
            rw [mergeRegisterValuesIntoElement] at hMerge
            split at hMerge
            · cases hMerge
            · split at hMerge <;> cases hMerge
        | ok new =>
            exact Or.inr (Or.inr ⟨new, by simp only [Except.bind, bind, hMerge]; rfl⟩)
  · exact Or.inr (Or.inl ⟨hStatus, readEffect_of_error hStatus record⟩)

end Facts

/-- A read dereferences no empty optional, and what it stores goes to the field that the
registers are configured for, and to no other. Only a read without success stores nothing. -/
def StoresRight (float : FloatArithmetic F) (conf : Conf) (hub : SerialCommHub) (n : ℕ)
    (data : RegisterData F) (record : Powermeter F) : Prop :=
  match readEffect float conf hub n data record with
  | .error fault => fault ≠ .emptyOptional
  | .ok .nothing => (registerResponse conf hub n data).statusCode ≠ .success
  | .ok (.store stored new) =>
      stored = place data.origin.1 data.origin.2 ∧
        (record.store stored new).value stored = some new ∧
        ∀ other, other ≠ stored → (record.store stored new).value other = record.value other

/-- A read with data of the right number stores right. -/
theorem storesRight_of_place {float : FloatArithmetic F} {conf : Conf} {hub : SerialCommHub}
    {n : ℕ} {data : RegisterData F} {record : Powermeter F} (hPresent : Present record data)
    (hPlace : data.type.storedPlace = place data.origin.1 data.origin.2) :
    StoresRight float conf hub n data record := by
  rw [StoresRight]
  rcases @readEffect_cases F float conf hub n data record hPresent with
    ⟨fault, hFault, hEffect⟩ | ⟨hStatus, hEffect⟩ | ⟨new, hEffect⟩
  · rw [hEffect]
    exact hFault
  · rw [hEffect]
    exact hStatus
  · rw [hEffect]
    exact ⟨hPlace, record.value_store_self _ _, fun other hOther =>
      record.value_store_of_ne _ _ hOther⟩

/-- A hub that answers one call only, and without a value. -/
def soloHub (solo : ℕ) : SerialCommHub := fun call _ _ _ _ =>
  if call = solo then ⟨.success, none⟩ else ⟨.error, none⟩

theorem request_soloHub {conf : Conf} {solo call : ℕ} {function : ModbusFunctionType}
    (hFunction : function ≠ .registerTypeUndefined) (register numRegisters : UInt16) :
    request conf (soloHub solo) call function register numRegisters =
      if call = solo then ⟨.success, none⟩ else ⟨.error, none⟩ := by
  cases function with
  | readHoldingRegister | readInputRegister => rfl
  | registerTypeUndefined => exact absurd rfl hFunction

theorem value_request_soloHub (conf : Conf) (solo call : ℕ) (function : ModbusFunctionType)
    (register numRegisters : UInt16) :
    (request conf (soloHub solo) call function register numRegisters).value = none := by
  by_cases hFunction : function = .registerTypeUndefined
  · rw [hFunction]
    rfl
  · rw [request_soloHub hFunction]
    split <;> rfl

/-- All other reads leave the record alone. -/
theorem readPowermeterValues_soloHub {float : FloatArithmetic F} {conf : Conf} {solo : ℕ}
    {data : List (RegisterData F)} {n : ℕ} (hEarly : 2 * (n + data.length) ≤ solo)
    (hReads : ∀ registerData ∈ data, registerData.startRegisterFunction ≠ .registerTypeUndefined)
    (record : Powermeter F) :
    readPowermeterValues float conf (soloHub solo) n data record = .ok record := by
  induction data generalizing n with
  | nil => rfl
  | cons first rest ih =>
      rw [List.length_cons] at hEarly
      have hFirst := @request_soloHub conf solo (2 * n) _ (hReads first List.mem_cons_self)
        first.startRegister first.numRegisters
      rw [if_neg (by omega)] at hFirst
      have hError : (registerResponse conf (soloHub solo) n first).statusCode ≠ .success := by
        rw [registerResponse, hFirst]
        decide
      rw [readPowermeterValues, readRegister_of_effect (readEffect_of_error hError record)]
      exact ih (by omega) fun registerData hRest =>
        hReads registerData (List.mem_cons_of_mem _ hRest)

/-- The one answer is stored. -/
theorem readEffect_soloHub {float : FloatArithmetic F} {conf : Conf} {n : ℕ}
    {data : RegisterData F} {record : Powermeter F} (hPresent : Present record data)
    (hReads : data.startRegisterFunction ≠ .registerTypeUndefined) :
    readEffect float conf (soloHub (2 * n)) n data record =
      .ok (.store data.type.storedPlace float.zero) := by
  have hResponse : registerResponse conf (soloHub (2 * n)) n data = ⟨.success, none⟩ :=
    (request_soloHub hReads _ _).trans (if_pos rfl)
  have hExponent : (exponentResponse conf (soloHub (2 * n)) n data).value = none := by
    rw [exponentResponse]
    split
    · exact value_request_soloHub _ _ _ _ _ _
    · rfl
  rw [readEffect_of_success (by rw [hResponse]) hPresent, exponentOf, hExponent, hResponse]
  rfl

/-- A file with a frequency of phase L1 only. -/
def frequencyFile : LoadedRegisters ℤ := fun registerSelector =>
  if registerSelector = "frequency_Hz" then
    some ⟨⟨some 0, some 0, some 3, some 0, some 3, some 1⟩, fun sublevelSelector =>
      if sublevelSelector = "L1" then some ⟨some 1, some 10, some 3, some 0, some 3, some 1⟩
      else none⟩
  else none

end EverestCore.GenericPowermeter
