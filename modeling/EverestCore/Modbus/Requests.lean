import EverestCore.Data.Memory
import EverestCore.Modbus.Basic

/-! The requests that `txrx` builds and writes to the port, against a reference decoder of a
device. -/
namespace EverestCore.Modbus

/-- The size of the buffer that is allocated for a request. -/
def requestLength (request : List UInt16) : ℕ :=
  (if request.length = 0 then 0 else 2 * request.length + 1) + modbusBasePayloadSize

/-- Copy a word, as it is in the host. -/
def storeWord (position : ℕ) (word : UInt16) (req : Memory UInt8) : Memory UInt8 :=
  req.storeAll position (hostBytes word)

/-- The loop over the request data. -/
def storeWords : ℕ → List UInt16 → Memory UInt8 → Memory UInt8
  | _, [], req => req
  | i, r :: rest, req => storeWords (i + 2) rest (storeWord i (htobe16 r) req)

/-- `append_checksum`. A byte that has not been written is what the heap held before. -/
def appendChecksum (heap : ℕ → UInt8) (msgLen : ℕ) (msg : Memory UInt8) : Memory UInt8 :=
  if msgLen < 5 then msg
  else
    let crcSum := calculateModbusCrc16 ((List.range (msgLen - 2)).map fun i =>
      (msg i).getD (heap i))
    storeWord (msgLen - 2) crcSum msg

section Txrx

variable (heap : ℕ → UInt8) (deviceAddress : UInt8) (function : FunctionCode)
  (firstRegisterAddress registerQuantity : UInt16) (request : List UInt16)

/-- The part of a request that all functions share. -/
def storeHeader : Memory UInt8 :=
  let req := Memory.empty.store deviceAddressPos deviceAddress
  let req := req.store functionCodePos function.value
  let req := storeWord reqTxFirstRegisterAddrPos (htobe16 firstRegisterAddress) req
  storeWord reqTxQuantityPos (htobe16 registerQuantity) req

/-- The byte count and the registers of a write. -/
def storeData (req : Memory UInt8) : Memory UInt8 :=
  if function = .writeMultipleHoldingRegisters then
    let req := req.store reqTxMultipleRegByteCountPos (.ofNat (request.length * 2))
    storeWords (reqTxMultipleRegByteCountPos + 1) request req
  else req

/-- The buffer that `txrx` fills. -/
def requestBuffer : Memory UInt8 :=
  let req := storeHeader deviceAddress function firstRegisterAddress registerQuantity
  let req := storeData function request req
  appendChecksum heap (requestLength request) req

/-- The bytes that `txrx` writes to the port. -/
def writtenRequest : List (Option UInt8) :=
  (requestBuffer heap deviceAddress function firstRegisterAddress registerQuantity request).content
    (requestLength request)

end Txrx

/-- What a device is asked to do. -/
structure Request where
  address : UInt8
  function : FunctionCode
  first : UInt16
  quantity : UInt16
  data : List UInt16
  deriving DecidableEq

/-- Words in network order. -/
def readWords : List UInt8 → Option (List UInt16)
  | [] => some []
  | [_] => none
  | high :: low :: rest => (readWords rest).map (.ofNat (256 * high.toNat + low.toNat) :: ·)

def FunctionCode.ofValue? (value : UInt8) : Option FunctionCode :=
  [readCoils, readDiscreteInputs, readMultipleHoldingRegisters, readInputRegisters,
    writeSingleCoil, writeSingleHoldingRegister, writeMultipleCoils,
    writeMultipleHoldingRegisters].find? (·.value = value)

/-- The data of a request, behind its header. Registers that are written follow their byte
count, and there are as many as the header says. -/
def readData (function : FunctionCode) (quantity : UInt16) : List UInt8 → Option (List UInt16)
  | [] => if function = .writeMultipleHoldingRegisters then none else some []
  | count :: bytes =>
      if function = .writeMultipleHoldingRegisters ∧ count.toNat = bytes.length ∧
          count.toNat = 2 * quantity.toNat then readWords bytes
      else none

/-- A device that decodes a request. The checksum covers all bytes in front of it, and its low
byte comes first. -/
def decodeRequest (frame : List UInt8) : Option Request :=
  let body := frame.take (frame.length - 2)
  if frame.drop (frame.length - 2) ≠ hostBytes (calculateModbusCrc16 body) then none
  else
    match body with
    | address :: code :: firstHigh :: firstLow :: quantityHigh :: quantityLow :: rest => do
        let function ← FunctionCode.ofValue? code
        let first := .ofNat (256 * firstHigh.toNat + firstLow.toNat)
        let quantity := .ofNat (256 * quantityHigh.toNat + quantityLow.toNat)
        let data ← readData function quantity rest
        some ⟨address, function, first, quantity, data⟩
    | _ => none

/-- The header of a frame. -/
def requestHeader (r : Request) : List UInt8 :=
  [r.address, r.function.value] ++ wireBytes r.first ++ wireBytes r.quantity

/-- A frame in front of its checksum. -/
def requestBody (r : Request) : List UInt8 :=
  requestHeader r ++ if r.function = .writeMultipleHoldingRegisters then
    .ofNat (r.data.length * 2) :: r.data.flatMap wireBytes else []

/-- The frame of a request. -/
def requestFrame (r : Request) : List UInt8 :=
  requestBody r ++ hostBytes (calculateModbusCrc16 (requestBody r))

/-- The requests that `txrx` is called with: reads without data, and writes with the data that
they announce. -/
def Request.IsSent (r : Request) : Prop :=
  r.function.IsRead ∧ r.data = [] ∨
    r.function = .writeMultipleHoldingRegisters ∧ 1 ≤ r.data.length ∧ r.data.length ≤ 123 ∧
      r.quantity.toNat = r.data.length

/-- The words are stored at the end of what has been stored, in network order. -/
theorem storeWord_ofList (values : List UInt8) (word : UInt16) :
    storeWord values.length (htobe16 word) (.ofList values) =
      .ofList (values ++ wireBytes word) := by
  rw [storeWord, hostBytes_htobe16, Memory.storeAll_ofList]

/-- The words of a request are stored behind what is there, high byte first. -/
theorem storeWords_ofList (values : List UInt8) (words : List UInt16) :
    storeWords values.length words (.ofList values) =
      .ofList (values ++ words.flatMap wireBytes) := by
  induction words generalizing values with
  | nil => rw [storeWords, List.flatMap_nil, List.append_nil]
  | cons word rest ih =>
      have hRest := ih (values ++ wireBytes word)
      rw [List.length_append, length_wireBytes, List.append_assoc, ← List.flatMap_cons] at hRest
      rw [storeWords, storeWord_ofList, hRest]

/-- The checksum is put over the last two bytes of the request. -/
theorem appendChecksum_ofList (heap : ℕ → UInt8) {values : List UInt8} (hLong : 3 ≤ values.length) :
    appendChecksum heap (values.length + 2) (.ofList values) =
      .ofList (values ++ hostBytes (calculateModbusCrc16 values)) := by
  have hValues : (List.range values.length).map (fun i => (Memory.ofList values i).getD (heap i)) =
      values := by
    apply List.ext_getElem
    · simp
    · intro i hLeft hRight
      simp [Memory.ofList, hRight]
  rw [appendChecksum, if_neg (by omega), Nat.add_sub_cancel, hValues, storeWord,
    Memory.storeAll_ofList]

variable {r : Request}

@[simp] theorem length_requestHeader (r : Request) : (requestHeader r).length = 6 := rfl

/-- The length that is computed leaves room for the body and the checksum. -/
theorem length_requestBody (hSent : r.IsSent) :
    requestLength r.data = (requestBody r).length + 2 := by
  rw [requestBody, List.length_append, length_requestHeader]
  rcases hSent with ⟨hRead, hNone⟩ | ⟨hWrite, hSome, _⟩
  · have hOther : r.function ≠ .writeMultipleHoldingRegisters := fun hSame => by
      rw [hSame] at hRead
      exact hRead
    rw [if_neg hOther, requestLength, hNone]
    rfl
  · have hNot : r.data.length ≠ 0 := by omega
    rw [if_pos hWrite, requestLength, if_neg hNot, modbusBasePayloadSize, List.length_cons,
      length_flatMap_wireBytes]
    omega

/-- The first bytes of a request are its header. -/
theorem storeHeader_eq (r : Request) :
    storeHeader r.address r.function r.first r.quantity = .ofList (requestHeader r) := by
  have hAddress : Memory.empty.store deviceAddressPos r.address = .ofList [r.address] :=
    Memory.store_ofList [] r.address
  have hFunction : (Memory.ofList [r.address]).store functionCodePos r.function.value =
      .ofList [r.address, r.function.value] :=
    Memory.store_ofList [r.address] r.function.value
  have hFirst : storeWord reqTxFirstRegisterAddrPos (htobe16 r.first)
      (.ofList [r.address, r.function.value]) =
      .ofList ([r.address, r.function.value] ++ wireBytes r.first) :=
    storeWord_ofList [r.address, r.function.value] r.first
  rw [storeHeader, hAddress, hFunction, hFirst]
  exact storeWord_ofList ([r.address, r.function.value] ++ wireBytes r.first) r.quantity

/-- Behind the header come the count and the words, for a write only. -/
theorem storeData_eq (r : Request) :
    storeData r.function r.data (.ofList (requestHeader r)) = .ofList (requestBody r) := by
  rw [storeData, requestBody]
  by_cases hWrite : r.function = .writeMultipleHoldingRegisters
  · have hCount : (Memory.ofList (requestHeader r)).store reqTxMultipleRegByteCountPos
        (.ofNat (r.data.length * 2)) =
        .ofList (requestHeader r ++ [.ofNat (r.data.length * 2)]) :=
      Memory.store_ofList (requestHeader r) _
    rw [if_pos hWrite, if_pos hWrite, hCount, List.append_cons]
    exact storeWords_ofList (requestHeader r ++ [.ofNat (r.data.length * 2)]) r.data
  · rw [if_neg hWrite, if_neg hWrite, List.append_nil]

/-- The stores fill the buffer from its beginning, each behind the one before. -/
theorem requestBuffer_eq (hSent : r.IsSent) (heap : ℕ → UInt8) :
    requestBuffer heap r.address r.function r.first r.quantity r.data =
      .ofList (requestFrame r) := by
  have hLong : 3 ≤ (requestBody r).length := by
    rw [requestBody, List.length_append, length_requestHeader]
    omega
  rw [requestBuffer, storeHeader_eq, storeData_eq, length_requestBody hSent, requestFrame]
  exact appendChecksum_ofList heap hLong

/-- The code of a function names it. -/
theorem ofValue?_value (function : FunctionCode) :
    FunctionCode.ofValue? function.value = some function := by
  cases function <;> rfl

/-- The words read from the bytes of words are those words. -/
theorem readWords_wireBytes (words : List UInt16) :
    readWords (words.flatMap wireBytes) = some words := by
  induction words with
  | nil => rfl
  | cons word rest ih =>
      rw [List.flatMap_cons, wireBytes, List.cons_append, List.singleton_append, readWords, ih,
        ofNat_wireBytes]
      rfl

/-- The data of a request are read back. -/
theorem readData_eq (hSent : r.IsSent) :
    readData r.function r.quantity (if r.function = .writeMultipleHoldingRegisters then
      .ofNat (r.data.length * 2) :: r.data.flatMap wireBytes else []) = some r.data := by
  rcases hSent with ⟨hRead, hNone⟩ | ⟨hWrite, hSome, hMost, hQuantity⟩
  · have hOther : r.function ≠ .writeMultipleHoldingRegisters := fun hSame => by
      rw [hSame] at hRead
      exact hRead
    rw [if_neg hOther, readData, if_neg hOther, hNone]
  · have hCount : (UInt8.ofNat (r.data.length * 2)).toNat = r.data.length * 2 := by
      apply UInt8.toNat_ofNat_of_lt'
      rw [UInt8.size]
      omega
    rw [if_pos hWrite, readData, hCount, length_flatMap_wireBytes, hQuantity,
      if_pos ⟨hWrite, Nat.mul_comm _ _, Nat.mul_comm _ _⟩, readWords_wireBytes]

/-- The device reads back what it is asked to do. -/
theorem decodeRequest_requestFrame (hSent : r.IsSent) :
    decodeRequest (requestFrame r) = some r := by
  have hLength : (requestFrame r).length - 2 = (requestBody r).length := by
    rw [requestFrame, List.length_append, length_hostBytes, Nat.add_sub_cancel]
  have hBody : (requestFrame r).take ((requestFrame r).length - 2) = requestBody r := by
    rw [hLength, requestFrame, List.take_left]
  have hCrc : (requestFrame r).drop ((requestFrame r).length - 2) =
      hostBytes (calculateModbusCrc16 (requestBody r)) := by
    rw [hLength, requestFrame, List.drop_left]
  rw [decodeRequest, hBody, hCrc, if_neg (not_not.mpr rfl), requestBody, requestHeader]
  simp only [wireBytes, List.cons_append, List.nil_append, ofValue?_value, ofNat_wireBytes,
    readData_eq hSent, Option.bind_eq_bind, Option.bind_some]

/-- What `txrx` writes to the port is a frame that the device decodes to the request, every byte
of it has been stored, and no byte is stored outside the buffer. -/
theorem txrx_request (heap : ℕ → UInt8) (hSent : r.IsSent) :
    (∃ frame, writtenRequest heap r.address r.function r.first r.quantity r.data =
        frame.map some ∧ decodeRequest frame = some r) ∧
      (requestBuffer heap r.address r.function r.first r.quantity r.data).WrittenBelow
        (requestLength r.data) := by
  have hLength : requestLength r.data = (requestFrame r).length := by
    rw [length_requestBody hSent, requestFrame, List.length_append, length_hostBytes]
  refine ⟨⟨requestFrame r, ?_, decodeRequest_requestFrame hSent⟩, ?_⟩
  · rw [writtenRequest, requestBuffer_eq hSent, hLength, Memory.content_ofList]
  · rw [requestBuffer_eq hSent, hLength]
    exact fun index hIndex => (Memory.isSome_ofList _ index).mp hIndex

theorem txrx_request_kept :
    ∃ frame, writtenRequest (fun _ => 0xCD) 1 .writeMultipleHoldingRegisters 0x0102 2 [3, 4] =
      frame.map some ∧
        decodeRequest frame = some ⟨1, .writeMultipleHoldingRegisters, 0x0102, 2, [3, 4]⟩ :=
  (@txrx_request ⟨1, .writeMultipleHoldingRegisters, 0x0102, 2, [3, 4]⟩ (fun _ => 0xCD)
    (.inr ⟨rfl, by decide, by decide, rfl⟩)).1

end EverestCore.Modbus
