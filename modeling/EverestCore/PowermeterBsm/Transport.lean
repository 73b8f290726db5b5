import EverestCore.Machine.Loops
import EverestCore.Modbus.HubReads

/-! `PowermeterBSM/lib/transport.cpp`: how the transports read the registers of the meter,
as many in a request as a message takes. -/
namespace EverestCore.PowermeterBsm

open Machine Modbus

abbrev DataVector := List UInt8

/-- SunSpec counts registers from one. -/
structure SunspecDataModelAddress where
  val : UInt16

/-- Modbus counts registers from zero. -/
structure ModbusRegisterAddress where
  val : UInt16

namespace ModbusRegisterAddress

/-- The addresses are converted to `int` and back. -/
def ofSunspec (sma : SunspecDataModelAddress) : ModbusRegisterAddress :=
  ⟨.ofInt ((sma.val.toNat : ℤ) - 1)⟩

/-- `operator+`, with the address of a model on the right. -/
def add (m0 : ModbusRegisterAddress) (s1 : SunspecDataModelAddress) : ModbusRegisterAddress :=
  ⟨.ofInt ((m0.val.toNat : ℤ) + s1.val.toNat - 1)⟩

end ModbusRegisterAddress

/-- `known_model::AddressData`. -/
structure AddressData where
  baseOffset : SunspecDataModelAddress
  modelSize : ℕ

/-- What the transports throw: an exception of the standard library, or a string. -/
inductive Thrown where
  | runtimeError (what : String)
  | string (text : String)
  deriving DecidableEq

/-- The hub answers each of its calls anew. -/
structure SerialHub where
  callModbusReadHoldingRegisters : (call : ℕ) → (targetDeviceId firstRegisterAddress : UInt16) →
    (numRegistersToRead : ℕ) → Result
  callModbusWriteMultipleRegisters : (call : ℕ) → (targetDeviceId firstRegisterAddress : UInt16) →
    (dataRaw : List ℤ) → StatusCode

/-- The client of the modbus library, which may throw exceptions of its own. -/
structure ModbusClient (ε : Type) where
  readHoldingRegister : (call : ℕ) → (unitId firstRegisterAddress : UInt16) →
    (numRegistersToRead : ℕ) → Except ε DataVector

/-- The variables of the loops in `fetch`, the calls so far, and what has been thrown. -/
structure Fetch (ε : Type) where
  calls : ℕ
  response : DataVector
  remainingRegisterToRead : UInt16
  readAddress : ModbusRegisterAddress
  thrown : Option ε

namespace Fetch

variable {ε : Type}

def outcome (fetch : Fetch ε) : Except ε DataVector :=
  match fetch.thrown with
  | some thrown => .error thrown
  | none => .ok fetch.response

/-- `register_to_read`. -/
def registerToRead (maxRegisterRead : ℕ) (fetch : Fetch ε) : ℕ :=
  if fetch.remainingRegisterToRead.toNat > maxRegisterRead then maxRegisterRead
  else fetch.remainingRegisterToRead.toNat

/-- The end of a round, in 16 bits. -/
def advance (fetch : Fetch ε) (tmp : DataVector) (registerToRead : ℕ) : Fetch ε :=
  { fetch with
    calls := fetch.calls + 1
    response := fetch.response ++ tmp
    readAddress := ⟨.ofNat (fetch.readAddress.val.toNat + registerToRead)⟩
    remainingRegisterToRead :=
      .ofNat (fetch.remainingRegisterToRead.toNat - registerToRead) }

/-- A round of the loops in `fetch`, which differ in how they read a chunk. -/
def round (readChunk : ℕ → UInt16 → ℕ → Except ε DataVector) (maxRegisterRead : ℕ)
    (fetch : Fetch ε) : Option (Next (Fetch ε)) :=
  if fetch.remainingRegisterToRead.toNat > 0 then
    let registerToRead := fetch.registerToRead maxRegisterRead
    match readChunk fetch.calls fetch.readAddress.val registerToRead with
    | .error thrown => some (.leave { fetch with thrown := some thrown })
    | .ok tmp => some (.again (fetch.advance tmp registerToRead))
  else some (.leave fetch)

end Fetch

/-- Both `fetch` functions, followed for so many rounds. -/
def fetch? {ε : Type} (readChunk : ℕ → UInt16 → ℕ → Except ε DataVector)
    (maxRegisterRead : ℕ) (baseAddress : ModbusRegisterAddress) (fuel calls : ℕ)
    (modelAddress : SunspecDataModelAddress) (modelLength : UInt16) :
    Option (Except ε DataVector) :=
  (loop? (Fetch.round readChunk maxRegisterRead) fuel
    ⟨calls, [], modelLength, baseAddress.add modelAddress, none⟩).map Fetch.outcome

/-- The two low bytes of an `int32_t`, the higher one first. -/
def swapBytes (item : ℤ) : DataVector := [.ofInt (item / 256), .ofInt item]

structure SerialCommHubTransport where
  serialHub : SerialHub
  unitId : UInt16
  baseAddress : ModbusRegisterAddress

structure ModbusTransport (ε : Type) where
  modbusClient : ModbusClient ε
  unitId : UInt16
  baseAddress : ModbusRegisterAddress

namespace SerialCommHubTransport

variable (transport : SerialCommHubTransport)

def readChunk (call : ℕ) (readAddress : UInt16) (registerToRead : ℕ) :
    Except Thrown DataVector :=
  let serialComHubResult := transport.serialHub.callModbusReadHoldingRegisters call
    transport.unitId readAddress registerToRead
  match serialComHubResult.value with
  | none => .error (.runtimeError "no result from serial com hub!")
  | some value => .ok (value.flatMap swapBytes)

def fetch? (maxRegisterPerMessage : ℕ) : (fuel calls : ℕ) → (modelAddress :
    SunspecDataModelAddress) → (modelLength : UInt16) → Option (Except Thrown DataVector) :=
  PowermeterBsm.fetch? transport.readChunk maxRegisterPerMessage transport.baseAddress

/-- The size of a known model becomes a count of 16 bits. -/
def fetchKnown? (maxRegisterPerMessage fuel calls : ℕ) (ad : AddressData) :
    Option (Except Thrown DataVector) :=
  transport.fetch? maxRegisterPerMessage fuel calls ad.baseOffset (.ofNat ad.modelSize)

end SerialCommHubTransport

namespace ModbusTransport

variable {ε : Type} (transport : ModbusTransport ε)

def readChunk (call : ℕ) (readAddress : UInt16) (registerToRead : ℕ) : Except ε DataVector :=
  transport.modbusClient.readHoldingRegister call transport.unitId readAddress registerToRead

def fetch? (maxRegisterPerMessage : ℕ) : (fuel calls : ℕ) → (modelAddress :
    SunspecDataModelAddress) → (modelLength : UInt16) → Option (Except ε DataVector) :=
  PowermeterBsm.fetch? transport.readChunk maxRegisterPerMessage transport.baseAddress

end ModbusTransport

/-- The registers of a device from a first one on. -/
def contents (image : ℕ → UInt16) (first count : ℕ) : List UInt16 :=
  (List.range' first count).map image

@[simp] theorem length_contents (image : ℕ → UInt16) (first count : ℕ) :
    (contents image first count).length = count := by
  rw [contents, List.length_map, List.length_range']

theorem contents_append (image : ℕ → UInt16) (first m n : ℕ) :
    contents image first m ++ contents image (first + m) n = contents image first (m + n) := by
  rw [contents, contents, contents, ← List.map_append, List.range'_append_1]

/-- The two bytes that the union takes from a register. -/
theorem swapBytes_register (register : UInt16) : swapBytes register.toNat = wireBytes register := by
  have hHigh : UInt8.ofInt ((register.toNat : ℤ) / 256) = .ofNat (register.toNat / 256) := by
    apply UInt8.toNat_inj.mp
    simp only [UInt8.ofInt, UInt8.toNat_ofNat']
    omega
  have hLow : UInt8.ofInt (register.toNat : ℤ) = .ofNat register.toNat := by
    apply UInt8.toNat_inj.mp
    simp only [UInt8.ofInt, UInt8.toNat_ofNat']
    omega
  rw [swapBytes, hHigh, hLow, wireBytes]

theorem flatMap_swapBytes (registers : List UInt16) :
    (vectorToInt registers).flatMap swapBytes = registers.flatMap wireBytes := by
  rw [vectorToInt, List.flatMap_map]
  exact congrArg (registers.flatMap ·) (funext swapBytes_register)

/-- Every chunk of a range of registers is read as the device has it. -/
def ReadsRange {ε : Type} (readChunk : ℕ → UInt16 → ℕ → Except ε DataVector)
    (image : ℕ → UInt16) (first count : ℕ) : Prop :=
  ∀ call (address : UInt16) n, first ≤ address.toNat → address.toNat + n ≤ first + count →
    readChunk call address n = .ok ((contents image address.toNat n).flatMap wireBytes)

namespace Fetch

variable {ε : Type} {readChunk : ℕ → UInt16 → ℕ → Except ε DataVector} {maxRegisterRead : ℕ}

theorem registerToRead_le (fetch : Fetch ε) :
    fetch.registerToRead maxRegisterRead ≤ fetch.remainingRegisterToRead.toNat := by
  rw [registerToRead]
  split <;> omega

theorem registerToRead_pos (hMax : 0 < maxRegisterRead) {fetch : Fetch ε}
    (hLeft : fetch.remainingRegisterToRead.toNat > 0) :
    0 < fetch.registerToRead maxRegisterRead := by
  rw [registerToRead]
  split <;> assumption

theorem remaining_advance (fetch : Fetch ε) (tmp : DataVector) (chunk : ℕ) :
    (fetch.advance tmp chunk).remainingRegisterToRead.toNat =
      fetch.remainingRegisterToRead.toNat - chunk := by
  have hBound := fetch.remainingRegisterToRead.toNat_lt
  apply UInt16.toNat_ofNat_of_lt'
  rw [UInt16.size]
  omega

/-- Whatever is read, a round ends the loop or leaves less to come. What is thrown comes from
a read. -/
theorem round_ends (hMax : 0 < maxRegisterRead) {fetch : Fetch ε} (hThrown : fetch.thrown = none) :
    (∃ final, Fetch.round readChunk maxRegisterRead fetch = some (.leave final) ∧
      ∀ thrown, final.outcome = .error thrown →
        ∃ call address n, readChunk call address n = .error thrown) ∨
    ∃ next, Fetch.round readChunk maxRegisterRead fetch = some (.again next) ∧
      next.thrown = none ∧
      next.remainingRegisterToRead.toNat < fetch.remainingRegisterToRead.toNat := by
  by_cases hLeft : fetch.remainingRegisterToRead.toNat > 0
  · cases hRead : readChunk fetch.calls fetch.readAddress.val
        (fetch.registerToRead maxRegisterRead) with
    | error thrown =>
        refine Or.inl ⟨{ fetch with thrown := some thrown }, ?_, fun other hOther => ?_⟩
        · simp only [Fetch.round, if_pos hLeft, hRead]
        · cases hOther
          exact ⟨_, _, _, hRead⟩
    | ok tmp =>
        have hPos := registerToRead_pos hMax hLeft
        refine Or.inr ⟨fetch.advance tmp (fetch.registerToRead maxRegisterRead), ?_, hThrown, ?_⟩
        · simp only [Fetch.round, if_pos hLeft, hRead]
        · rw [remaining_advance]
          omega
  · refine Or.inl ⟨fetch, if_neg hLeft, fun thrown hOutcome => ?_⟩
    rw [outcome, hThrown] at hOutcome
    cases hOutcome

/-- What the loops keep: so many registers are to come, and the others have been read. -/
structure Reading (image : ℕ → UInt16) (first count : ℕ) (fetch : Fetch ε) : Prop where
  thrown : fetch.thrown = none
  remaining_le : fetch.remainingRegisterToRead.toNat ≤ count
  response : fetch.response = (contents image first
    (count - fetch.remainingRegisterToRead.toNat)).flatMap wireBytes
  address : 0 < fetch.remainingRegisterToRead.toNat →
    fetch.readAddress.val.toNat = first + (count - fetch.remainingRegisterToRead.toNat)

theorem Reading.advance {image : ℕ → UInt16} {first count chunk : ℕ} {fetch : Fetch ε}
    (hReading : Reading image first count fetch) (hRange : first + count ≤ 65536)
    (hLeft : 0 < fetch.remainingRegisterToRead.toNat)
    (hChunk : chunk ≤ fetch.remainingRegisterToRead.toNat) :
    Reading image first count (fetch.advance
      ((contents image fetch.readAddress.val.toNat chunk).flatMap wireBytes) chunk) := by
  have hRemaining := fun tmp => remaining_advance fetch tmp chunk
  have hLe := hReading.remaining_le
  have hAt := hReading.address hLeft
  have hSplit : count - fetch.remainingRegisterToRead.toNat + chunk =
      count - (fetch.remainingRegisterToRead.toNat - chunk) := by omega
  refine ⟨hReading.thrown, ?_, ?_, fun hMore => ?_⟩
  · rw [hRemaining]
    omega
  · rw [hRemaining, ← hSplit, ← contents_append, List.flatMap_append, ← hReading.response, ← hAt]
    rfl
  · rw [hRemaining] at hMore ⊢
    rw [← hSplit, ← Nat.add_assoc, ← hAt]
    apply UInt16.toNat_ofNat_of_lt'
    rw [UInt16.size]
    omega

/-- A round reads the next chunk, or finds the whole range read. -/
theorem Reading.round {image : ℕ → UInt16} {first count : ℕ} {fetch : Fetch ε}
    (hReading : Reading image first count fetch) (hMax : 0 < maxRegisterRead)
    (hRange : 0 < count → first + count ≤ 65536)
    (hReads : ReadsRange readChunk image first count) :
    (Fetch.round readChunk maxRegisterRead fetch = some (.leave fetch) ∧
      fetch.outcome = .ok ((contents image first count).flatMap wireBytes)) ∨
    ∃ next, Fetch.round readChunk maxRegisterRead fetch = some (.again next) ∧
      Reading image first count next ∧
      next.remainingRegisterToRead.toNat < fetch.remainingRegisterToRead.toNat := by
  have hLe := hReading.remaining_le
  by_cases hLeft : fetch.remainingRegisterToRead.toNat > 0
  · right
    have hChunk : fetch.registerToRead maxRegisterRead ≤ _ := fetch.registerToRead_le
    have hPos := registerToRead_pos hMax hLeft
    have hAt := hReading.address hLeft
    have hRead := hReads fetch.calls fetch.readAddress.val (fetch.registerToRead maxRegisterRead)
      (by omega) (by omega)
    refine ⟨_, ?_, hReading.advance (hRange (by omega)) hLeft hChunk, ?_⟩
    · simp only [Fetch.round, if_pos hLeft, hRead]
    · rw [remaining_advance]
      omega
  · left
    have hNone : fetch.remainingRegisterToRead.toNat = 0 := Nat.eq_zero_of_not_pos hLeft
    refine ⟨if_neg hLeft, ?_⟩
    rw [outcome, hReading.thrown, hReading.response, hNone, Nat.sub_zero]

end Fetch

/-- Every fetch ends. -/
theorem fetch?_ends {ε : Type} {readChunk : ℕ → UInt16 → ℕ → Except ε DataVector}
    {maxRegisterRead : ℕ} (hMax : 0 < maxRegisterRead) (base : ModbusRegisterAddress)
    (address : SunspecDataModelAddress) {modelLength : UInt16} {fuel : ℕ}
    (hFuel : modelLength.toNat < fuel) (calls : ℕ) :
    ∃ outcome, fetch? readChunk maxRegisterRead base fuel calls address modelLength =
        some outcome ∧
      ∀ thrown, outcome = .error thrown →
        ∃ call address n, readChunk call address n = .error thrown := by
  set start : Fetch ε := ⟨calls, [], modelLength, base.add address, none⟩
  have hStart : modelLength.toNat = start.remainingRegisterToRead.toNat ∧ start.thrown = none :=
    ⟨rfl, rfl⟩
  obtain ⟨final, hFinal, hOutcome⟩ := loop?_ends
    (fun rank (fetch : Fetch ε) =>
      rank = fetch.remainingRegisterToRead.toNat ∧ fetch.thrown = none)
    (fun final => ∀ thrown, final.outcome = .error thrown →
      ∃ call address n, readChunk call address n = .error thrown)
    (fun rank fetch hFetch => by
      obtain ⟨rfl, hThrown⟩ := hFetch
      rcases Fetch.round_ends hMax hThrown with hLeave | ⟨next, hAgain, hNext, hLower⟩
      · exact Or.inl hLeave
      · exact Or.inr ⟨next, hAgain, _, hLower, rfl, hNext⟩)
    hStart hFuel
  exact ⟨final.outcome, by rw [fetch?, hFinal, Option.map_some], hOutcome⟩

/-- The first register of a model, in the count of Modbus. -/
theorem toNat_add {base : ModbusRegisterAddress} {address : SunspecDataModelAddress}
    (hOne : 1 ≤ base.val.toNat + address.val.toNat)
    (hBelow : base.val.toNat + address.val.toNat - 1 < 65536) :
    (base.add address).val.toNat = base.val.toNat + address.val.toNat - 1 := by
  have hNat : (base.val.toNat : ℤ) + address.val.toNat - 1 =
      ((base.val.toNat + address.val.toNat - 1 : ℕ) : ℤ) := by omega
  rw [ModbusRegisterAddress.add, hNat]
  simp only [UInt16.ofInt, UInt16.toNat_ofNat']
  omega

/-- The chunks of a range make up the range. -/
theorem fetch?_of_readsRange {ε : Type} {readChunk : ℕ → UInt16 → ℕ → Except ε DataVector}
    {maxRegisterRead : ℕ} (hMax : 0 < maxRegisterRead) {image : ℕ → UInt16}
    {base : ModbusRegisterAddress} {address : SunspecDataModelAddress} {modelLength : UInt16}
    (hRange : ∀ i < modelLength.toNat, 0 ≤ (base.val.toNat : ℤ) + address.val.toNat - 1 + i ∧
      (base.val.toNat : ℤ) + address.val.toNat - 1 + i < 65536)
    (hReads : ReadsRange readChunk image (base.val.toNat + address.val.toNat - 1)
      modelLength.toNat)
    {fuel : ℕ} (hFuel : modelLength.toNat < fuel) (calls : ℕ) :
    fetch? readChunk maxRegisterRead base fuel calls address modelLength =
      some (.ok ((contents image (base.val.toNat + address.val.toNat - 1)
        modelLength.toNat).flatMap wireBytes)) := by
  set first := base.val.toNat + address.val.toNat - 1 with hFirst
  have hStart : Fetch.Reading image first modelLength.toNat
      (⟨calls, [], modelLength, base.add address, none⟩ : Fetch ε) := by
    refine ⟨rfl, Nat.le_refl _, ?_, fun hSome => ?_⟩
    · rw [Nat.sub_self]
      rfl
    · obtain ⟨hOne, hBelow⟩ := hRange 0 hSome
      rw [toNat_add (by omega) (by omega), Nat.sub_self, Nat.add_zero]
  have hEnd : 0 < modelLength.toNat → first + modelLength.toNat ≤ 65536 := fun hSome => by
    obtain ⟨hOne, _⟩ := hRange 0 hSome
    obtain ⟨_, hBelow⟩ := hRange (modelLength.toNat - 1) (by omega)
    omega
  obtain ⟨final, hFinal, hOutcome⟩ := loop?_ends
    (fun rank fetch => rank = fetch.remainingRegisterToRead.toNat ∧
      Fetch.Reading image first modelLength.toNat fetch)
    (fun final => final.outcome = .ok ((contents image first modelLength.toNat).flatMap wireBytes))
    (fun rank fetch hFetch => by
      obtain ⟨rfl, hReading⟩ := hFetch
      rcases hReading.round hMax hEnd hReads with hLeave | ⟨next, hAgain, hNext, hLower⟩
      · exact Or.inl ⟨fetch, hLeave⟩
      · exact Or.inr ⟨next, hAgain, _, hLower, rfl, hNext⟩)
    ⟨rfl, hStart⟩ hFuel
  rw [fetch?, hFinal, Option.map_some, hOutcome]

/-- The hub answers with the registers of the device. -/
def SerialHub.Delivers (hub : SerialHub) (unitId : UInt16) (image : ℕ → UInt16)
    (first count : ℕ) : Prop :=
  ∀ call (address : UInt16) n, first ≤ address.toNat → address.toNat + n ≤ first + count →
    (hub.callModbusReadHoldingRegisters call unitId address n).value =
      some (vectorToInt (contents image address.toNat n))

/-- The client returns the bytes of the reply, which Modbus sends with the high byte first. -/
def ModbusClient.Delivers {ε : Type} (client : ModbusClient ε) (unitId : UInt16)
    (image : ℕ → UInt16) (first count : ℕ) : Prop :=
  ReadsRange (fun call address n => client.readHoldingRegister call unitId address n) image first
    count

theorem SerialCommHubTransport.readsRange {transport : SerialCommHubTransport}
    {image : ℕ → UInt16} {first count : ℕ}
    (hDelivers : transport.serialHub.Delivers transport.unitId image first count) :
    ReadsRange transport.readChunk image first count := by
  intro call address n hFirst hLast
  rw [readChunk, hDelivers call address n hFirst hLast]
  exact congrArg Except.ok (flatMap_swapBytes _)

/-- Both transports end, with the registers of the range. -/
theorem fetch_eq_contents (image : ℕ → UInt16) (maxRegisterPerMessage : ℕ)
    (hMax : 0 < maxRegisterPerMessage) (serialHub : SerialHub) {ε : Type}
    (modbusClient : ModbusClient ε) (unitId : UInt16) (baseAddress : ModbusRegisterAddress)
    (modelAddress : SunspecDataModelAddress) (modelLength : UInt16)
    (hRange : ∀ i < modelLength.toNat,
      0 ≤ (baseAddress.val.toNat : ℤ) + modelAddress.val.toNat - 1 + i ∧
      (baseAddress.val.toNat : ℤ) + modelAddress.val.toNat - 1 + i < 65536)
    (hHub : serialHub.Delivers unitId image (baseAddress.val.toNat + modelAddress.val.toNat - 1)
      modelLength.toNat)
    (hClient : modbusClient.Delivers unitId image
      (baseAddress.val.toNat + modelAddress.val.toNat - 1) modelLength.toNat) :
    ∃ bytes, bytes = (contents image (baseAddress.val.toNat + modelAddress.val.toNat - 1)
        modelLength.toNat).flatMap wireBytes ∧
      bytes.length = 2 * modelLength.toNat ∧
      ∀ fuel > modelLength.toNat, ∀ calls,
        SerialCommHubTransport.fetch? ⟨serialHub, unitId, baseAddress⟩ maxRegisterPerMessage fuel
          calls modelAddress modelLength = some (.ok bytes) ∧
        ModbusTransport.fetch? ⟨modbusClient, unitId, baseAddress⟩ maxRegisterPerMessage fuel
          calls modelAddress modelLength = some (.ok bytes) := by
  refine ⟨_, rfl, ?_, fun fuel hFuel calls => ⟨?_, ?_⟩⟩
  · rw [length_flatMap_wireBytes, length_contents]
  · exact fetch?_of_readsRange hMax hRange (SerialCommHubTransport.readsRange hHub) hFuel calls
  · exact fetch?_of_readsRange hMax hRange hClient hFuel calls

/-- A device whose registers hold their addresses. -/
theorem fetch_eq_contents_own :
    ∃ bytes, bytes = (contents UInt16.ofNat 40002 500).flatMap wireBytes ∧ bytes.length = 1000 ∧
      ∀ fuel > 500, ∀ calls,
        SerialCommHubTransport.fetch?
          ⟨⟨fun _ _ address n => ⟨.success, some (vectorToInt (contents .ofNat address.toNat n))⟩,
            fun _ _ _ _ => .success⟩, 1, ⟨40000⟩⟩ 125 fuel calls ⟨3⟩ 500 = some (.ok bytes) ∧
        ModbusTransport.fetch? (ε := String)
          ⟨⟨fun _ _ address n => .ok ((contents .ofNat address.toNat n).flatMap wireBytes)⟩, 1,
            ⟨40000⟩⟩ 125 fuel calls ⟨3⟩ 500 = some (.ok bytes) :=
  fetch_eq_contents UInt16.ofNat 125 (by decide) _ _ 1 ⟨40000⟩ ⟨3⟩ 500
    (fun i hIndex => by
      have hBound : i < 500 := hIndex
      change 0 ≤ (40000 : ℤ) + 3 - 1 + i ∧ (40000 : ℤ) + 3 - 1 + i < 65536
      omega)
    (fun _ _ _ _ _ => rfl) (fun _ _ _ _ _ => rfl)

end EverestCore.PowermeterBsm
