import EverestCore.Data.Access
import EverestCore.PowermeterBsm.Transport

/-! `PowermeterBSM/lib/sunspec_base.hpp`: lists of points, where a point lies in the data of a
model, and the decoders. -/
namespace EverestCore.PowermeterBsm

open Modbus

inductive PointType where
  | acc32
  | bitfield32
  | enum16
  | int16
  | pad
  | sunssf
  | uint16
  | uint32
  | string
  | blob
  deriving DecidableEq

/-- The lengths of strings and pads come with the points. -/
def pointLengthInBytes : PointType → UInt16
  | .acc32 | .bitfield32 | .uint32 => 4
  | .enum16 | .int16 | .sunssf | .uint16 | .blob => 2
  | .string | .pad => 0

structure Point where
  id : String
  pointType : PointType
  lengthInBytes : UInt16 := 0
  offset : UInt16 := 0

/-- The length that `calc_offset` gives a point. -/
def Point.length (initItem : Point) : UInt16 :=
  let length := pointLengthInBytes initItem.pointType
  if length = 0 then .ofNat (initItem.lengthInBytes.toNat * 2) else length

/-- The list of a model. `calc_offset` throws on a point without a length, and as it runs in
the compiler there is no model with such a point. -/
structure PointInitializerList where
  points : List Point
  sized : ∀ point ∈ points, point.length ≠ 0

/-- The loop of `calc_offset`. -/
def calcOffset : (offset : UInt16) → List Point → List Point
  | _, [] => []
  | offset, initItem :: rest =>
      { initItem with lengthInBytes := initItem.length, offset } ::
        calcOffset (offset + initItem.length) rest

namespace PointInitializerList

variable (initList : PointInitializerList)

def model : List Point := calcOffset 0 initList.points

/-- `Model[index]`, for an index inside the list. -/
def pointAt (index : ℕ) : Point := initList.model.getD index ⟨"", .blob, 0, 0⟩

def modelSizeInBytes : ℕ := (initList.model.map fun point => point.lengthInBytes.toNat).sum

def modelSizeInRegister : ℕ := initList.modelSizeInBytes / 2

end PointInitializerList

/-- A model with its data. The constructor throws if there is less than the points take. -/
structure SunspecModelBase (initList : PointInitializerList) where
  mData : DataVector
  accepted : initList.modelSizeInBytes ≤ mData.length

/-- The constructor, with the text that the compiler has for its name. -/
def SunspecModelBase.construct (initList : PointInitializerList) (prettyFunction : String)
    (data : DataVector) : Except Thrown (SunspecModelBase initList) :=
  if hSize : initList.modelSizeInBytes ≤ data.length then .ok ⟨data, hSize⟩
  else .error (.runtimeError (prettyFunction ++ " Data container size (" ++
    toString data.length ++ ") is smaller than model size (" ++
    toString initList.modelSizeInBytes ++ ") !"))

/-- The cells of a vector. -/
def cells (data : DataVector) (index : ℕ) : UInt8 := data.getD index 0

/-- Four bytes as the host has them in a word. -/
def hostWord32 (b0 b1 b2 b3 : UInt8) : UInt32 :=
  .ofNat (b0.toNat + 256 * b1.toNat + 65536 * b2.toNat + 16777216 * b3.toNat)

/-- The bytes of a word, swapped. -/
def be32toh (word : UInt32) : UInt32 :=
  .ofNat (word.toNat / 16777216 + 256 * (word.toNat / 65536 % 256) +
    65536 * (word.toNat / 256 % 256) + 16777216 * (word.toNat % 256))

namespace SunspecDecoder

/-- The load of a word reads its two bytes. -/
def uint16At (offset : ℕ) : Access UInt8 UInt16 := do
  let first ← Access.read offset
  let second ← Access.read (offset + 1)
  pure (be16toh (hostWord first second))

def int16At (offset : ℕ) : Access UInt8 Int16 := do
  let word ← uint16At offset
  pure word.toInt16

def uint32At (offset : ℕ) : Access UInt8 UInt32 := do
  let b0 ← Access.read offset
  let b1 ← Access.read (offset + 1)
  let b2 ← Access.read (offset + 2)
  let b3 ← Access.read (offset + 3)
  pure (be32toh (hostWord32 b0 b1 b2 b3))

/-- The bytes become a string, and `c_str` ends at its first NUL. -/
def stringAtWithLength (offset length : ℕ) : Access UInt8 (List UInt8) := do
  let bytes ← Access.readAll offset length
  pure (bytes.takeWhile (· ≠ 0))

/-- Two hexadecimal digits, in ASCII. -/
def hexDigits (byte : UInt8) : List UInt8 :=
  let digit := fun n : ℕ => UInt8.ofNat (if n < 10 then 48 + n else 87 + n)
  [digit (byte.toNat / 16), digit (byte.toNat % 16)]

def stringAtWithLengthFromBinaryData (offset length : ℕ) : Access UInt8 (List UInt8) := do
  let bytes ← Access.readAll offset length
  pure (bytes.flatMap hexDigits)

end SunspecDecoder

/-- The values of points. -/
inductive PointValue where
  | unsigned (n : ℕ)
  | signed (z : ℤ)
  | text (bytes : List UInt8)
  deriving DecidableEq

/-- The decoding methods of `SunspecModelBase`. -/
inductive Decoder where
  | uint16At
  | enum16At
  | int16At
  | sunssfAt
  | uint32At
  | acc32At
  | bitfield32At
  | stringAtWithLength
  deriving DecidableEq

/-- What a method makes of a point of the list. -/
def Decoder.read : Decoder → Point → Access UInt8 PointValue
  | .uint16At, point | .enum16At, point => do
      let word ← SunspecDecoder.uint16At point.offset.toNat
      pure (.unsigned word.toNat)
  | .int16At, point | .sunssfAt, point => do
      let word ← SunspecDecoder.int16At point.offset.toNat
      pure (.signed word.toInt)
  | .uint32At, point | .acc32At, point | .bitfield32At, point => do
      let word ← SunspecDecoder.uint32At point.offset.toNat
      pure (.unsigned word.toNat)
  | .stringAtWithLength, point => do
      let bytes ← SunspecDecoder.stringAtWithLength point.offset.toNat point.lengthInBytes.toNat
      pure (.text bytes)

/-- An accessor that decodes a point: the point that it is named after, the method that it
calls, and its index into the list. -/
structure Accessor where
  point : String
  decoder : Decoder
  index : ℕ

def Accessor.read (initList : PointInitializerList) (accessor : Accessor) :
    Access UInt8 PointValue :=
  accessor.decoder.read (initList.pointAt accessor.index)

/-- Bytes with the highest first. -/
def bigEndian (bytes : List UInt8) : ℕ := bytes.foldl (fun n byte => 256 * n + byte.toNat) 0

/-- The value of 16 bits in two's complement. -/
def twosComplement16 (n : ℕ) : ℤ := if n < 32768 then n else n - 65536

/-- What the bytes of a point mean. -/
def PointType.decode : PointType → List UInt8 → PointValue
  | .acc32, bytes | .bitfield32, bytes | .uint32, bytes | .enum16, bytes | .uint16, bytes =>
      .unsigned (bigEndian bytes)
  | .int16, bytes | .sunssf, bytes | .pad, bytes => .signed (twosComplement16 (bigEndian bytes))
  | .string, bytes | .blob, bytes => .text (bytes.takeWhile (· ≠ 0))

namespace PointInitializerList

variable (initList : PointInitializerList)

/-- The points before the one at an index, end to end. -/
def position (index : ℕ) : ℕ :=
  ((initList.points.take index).map fun point => point.length.toNat).sum

def indexOf (name : String) : ℕ := initList.points.findIdx fun point => point.id == name

/-- The bytes that belong to the point at an index. -/
def bytesOf (data : DataVector) (index : ℕ) : List UInt8 :=
  match initList.points[index]? with
  | some point => (data.drop (initList.position index)).take point.length.toNat
  | none => []

/-- The value of the point of a name. -/
def valueOf (data : DataVector) (name : String) : Option PointValue :=
  initList.points[initList.indexOf name]?.map fun point =>
    point.pointType.decode (initList.bytesOf data (initList.indexOf name))

variable {initList}

/-- The running sum of the loop. -/
theorem getElem?_calcOffset (offset : UInt16) (points : List Point) (index : ℕ) :
    (calcOffset offset points)[index]? = points[index]?.map fun point =>
      { point with
        lengthInBytes := point.length
        offset := offset +
          .ofNat ((points.take index).map fun point => point.length.toNat).sum } := by
  induction points generalizing offset index with
  | nil => rfl
  | cons initItem rest ih =>
      cases index with
      | zero => simp [calcOffset]
      | succ index =>
          rw [calcOffset, List.getElem?_cons_succ, ih, List.getElem?_cons_succ,
            List.take_succ_cons, List.map_cons, List.sum_cons, UInt16.ofNat_add,
            UInt16.ofNat_toNat]
          simp only [UInt16.add_assoc]

/-- The size of a model is the sum of the lengths of its points. -/
theorem modelSizeInBytes_eq :
    initList.modelSizeInBytes = (initList.points.map fun point => point.length.toNat).sum := by
  have hLengths : ∀ offset points, (calcOffset offset points).map
      (fun point => point.lengthInBytes.toNat) =
        points.map fun point => point.length.toNat := by
    intro offset points
    induction points generalizing offset with
    | nil => rfl
    | cons initItem rest ih => rw [calcOffset, List.map_cons, List.map_cons, ih]
  rw [modelSizeInBytes, model, hLengths]

/-- A point lies inside the model. -/
theorem position_add_length_le {index : ℕ} {point : Point}
    (hPoint : initList.points[index]? = some point) :
    initList.position index + point.length.toNat ≤ initList.modelSizeInBytes := by
  obtain ⟨hIndex, rfl⟩ := List.getElem?_eq_some_iff.mp hPoint
  have hSplit := congrArg List.sum (congrArg (List.map fun point => point.length.toNat)
    (List.take_append_drop (index + 1) initList.points))
  rw [List.map_append, List.sum_append, ← modelSizeInBytes_eq, List.take_succ_eq_append_getElem
    hIndex, List.map_append, List.sum_append, List.map_singleton, List.sum_singleton] at hSplit
  rw [position]
  omega

/-- `calc_offset` finds the position of every point, as long as the model fits 16 bits. -/
theorem pointAt_eq (hFits : initList.modelSizeInBytes < 65536) {index : ℕ} {point : Point}
    (hPoint : initList.points[index]? = some point) :
    (initList.pointAt index).pointType = point.pointType ∧
      (initList.pointAt index).lengthInBytes = point.length ∧
      (initList.pointAt index).offset.toNat = initList.position index := by
  have hLe := position_add_length_le hPoint
  have hAt : initList.pointAt index = _ :=
    congrArg (Option.getD · _) ((getElem?_calcOffset 0 initList.points index).trans
      (congrArg _ hPoint))
  rw [hAt]
  refine ⟨rfl, rfl, ?_⟩
  rw [Option.map_some, Option.getD_some, UInt16.zero_add]
  apply UInt16.toNat_ofNat_of_lt'
  rw [UInt16.size]
  exact Nat.lt_of_le_of_lt (Nat.le_trans (Nat.le_add_right _ _) hLe) hFits

end PointInitializerList

section Decoders

/-- A word read as signed is its two's complement. -/
theorem toInt_toInt16 (word : UInt16) : word.toInt16.toInt = twosComplement16 word.toNat := by
  have hInt : word.toInt16.toInt = word.toBitVec.toInt := rfl
  have hNat : word.toBitVec.toNat = word.toNat := rfl
  rw [hInt, BitVec.toInt_eq_toNat_cond, hNat, twosComplement16]
  split <;> split <;> omega

/-- A word of the host has its lowest byte first. -/
theorem toNat_hostWord32 (b0 b1 b2 b3 : UInt8) : (hostWord32 b0 b1 b2 b3).toNat =
    b0.toNat + 256 * b1.toNat + 65536 * b2.toNat + 16777216 * b3.toNat := by
  have h0 := b0.toNat_lt
  have h1 := b1.toNat_lt
  have h2 := b2.toNat_lt
  have h3 := b3.toNat_lt
  apply UInt32.toNat_ofNat_of_lt'
  rw [UInt32.size]
  omega

/-- A swapped word of the host has its highest byte first. -/
theorem toNat_be32toh_hostWord32 (b0 b1 b2 b3 : UInt8) :
    (be32toh (hostWord32 b0 b1 b2 b3)).toNat =
      16777216 * b0.toNat + 65536 * b1.toNat + 256 * b2.toNat + b3.toNat := by
  have h0 := b0.toNat_lt
  have h1 := b1.toNat_lt
  have h2 := b2.toNat_lt
  have h3 := b3.toNat_lt
  rw [be32toh, toNat_hostWord32, UInt32.toNat_ofNat_of_lt']
  · omega
  · rw [UInt32.size]
    omega

variable (buf : ℕ → UInt8) (offset : ℕ)

/-- An unsigned word is read from two bytes, the high one first. -/
theorem toNat_uint16At : ((SunspecDecoder.uint16At offset).value buf).toNat =
    bigEndian ((List.range' offset 2).map buf) := by
  simp only [SunspecDecoder.uint16At, Access.value_bind, Access.value_read, Access.value_pure]
  rw [toNat_be16toh_hostWord]
  simp [bigEndian, List.range'_succ]

/-- An unsigned word is read from two bytes. -/
theorem reads_uint16At : (SunspecDecoder.uint16At offset).reads buf = List.range' offset 2 := by
  simp [SunspecDecoder.uint16At, List.range'_succ]

/-- A signed word is the two's complement of its two bytes. -/
theorem toInt_int16At : ((SunspecDecoder.int16At offset).value buf).toInt =
    twosComplement16 (bigEndian ((List.range' offset 2).map buf)) := by
  rw [← toNat_uint16At]
  simp only [SunspecDecoder.int16At, Access.value_bind, Access.value_pure]
  exact toInt_toInt16 _

/-- A signed word is read from two bytes. -/
theorem reads_int16At : (SunspecDecoder.int16At offset).reads buf = List.range' offset 2 := by
  simp [SunspecDecoder.int16At, reads_uint16At]

/-- A double word is read from four bytes, the highest one first. -/
theorem toNat_uint32At : ((SunspecDecoder.uint32At offset).value buf).toNat =
    bigEndian ((List.range' offset 4).map buf) := by
  simp only [SunspecDecoder.uint32At, Access.value_bind, Access.value_read, Access.value_pure]
  rw [toNat_be32toh_hostWord32]
  simp only [bigEndian, List.range'_succ, List.range'_zero, List.map_cons, List.map_nil,
    List.foldl_cons, List.foldl_nil, Nat.add_assoc, Nat.reduceAdd]
  omega

/-- A double word is read from four bytes. -/
theorem reads_uint32At : (SunspecDecoder.uint32At offset).reads buf = List.range' offset 4 := by
  simp [SunspecDecoder.uint32At, List.range'_succ]

variable (length : ℕ)

/-- A text ends at its first zero byte, or with its length. -/
theorem value_stringAtWithLength :
    (SunspecDecoder.stringAtWithLength offset length).value buf =
      ((List.range' offset length).map buf).takeWhile (· ≠ 0) := by
  simp [SunspecDecoder.stringAtWithLength]

/-- A text is read over all its length. -/
theorem reads_stringAtWithLength :
    (SunspecDecoder.stringAtWithLength offset length).reads buf = List.range' offset length := by
  simp [SunspecDecoder.stringAtWithLength]

/-- A text of binary data is read over all its length. -/
theorem reads_stringAtWithLengthFromBinaryData :
    (SunspecDecoder.stringAtWithLengthFromBinaryData offset length).reads buf =
      List.range' offset length := by
  simp [SunspecDecoder.stringAtWithLengthFromBinaryData]

end Decoders

/-- The type of the points that a method is for. -/
def Decoder.pointType : Decoder → PointType
  | .uint16At => .uint16
  | .enum16At => .enum16
  | .int16At => .int16
  | .sunssfAt => .sunssf
  | .uint32At => .uint32
  | .acc32At => .acc32
  | .bitfield32At => .bitfield32
  | .stringAtWithLength => .string

section Methods

variable {decoder : Decoder} {point : Point}
  (hLength : pointLengthInBytes decoder.pointType ≠ 0 →
    point.lengthInBytes = pointLengthInBytes decoder.pointType)
  (buf : ℕ → UInt8)

include hLength

/-- On a point of its length a method gives the meaning of the bytes of the point. -/
theorem Decoder.value_read : (decoder.read point).value buf = decoder.pointType.decode
    ((List.range' point.offset.toNat point.lengthInBytes.toNat).map buf) := by
  cases decoder with
  | uint16At | enum16At =>
      rw [hLength (by decide)]
      exact congrArg PointValue.unsigned (toNat_uint16At buf _)
  | int16At | sunssfAt =>
      rw [hLength (by decide)]
      exact congrArg PointValue.signed (toInt_int16At buf _)
  | uint32At | acc32At | bitfield32At =>
      rw [hLength (by decide)]
      exact congrArg PointValue.unsigned (toNat_uint32At buf _)
  | stringAtWithLength => exact congrArg PointValue.text (value_stringAtWithLength buf _ _)

/-- On a point of its length a method reads exactly the bytes of the point. -/
theorem Decoder.reads_read : (decoder.read point).reads buf =
    List.range' point.offset.toNat point.lengthInBytes.toNat := by
  have hEnd : ∀ indices : List ℕ, indices ++ [] = indices := List.append_nil
  cases decoder with
  | uint16At | enum16At =>
      rw [hLength (by decide)]
      exact (hEnd _).trans (reads_uint16At buf _)
  | int16At | sunssfAt =>
      rw [hLength (by decide)]
      exact (hEnd _).trans (reads_int16At buf _)
  | uint32At | acc32At | bitfield32At =>
      rw [hLength (by decide)]
      exact (hEnd _).trans (reads_uint32At buf _)
  | stringAtWithLength => exact (hEnd _).trans (reads_stringAtWithLength buf _ _)

end Methods

/-- The bytes of a point within the data. -/
theorem map_cells {data : DataVector} {offset length : ℕ}
    (hInside : offset + length ≤ data.length) :
    (List.range' offset length).map (cells data) = (data.drop offset).take length := by
  apply List.ext_getElem
  · simp
    omega
  · intro index hMap hTake
    have hIndex : index < length := by simpa using hMap
    have hData : offset + index < data.length := by omega
    simp [cells, List.getD_eq_getElem?_getD, List.getElem?_eq_getElem hData]

/-- The bytes of a point are the cells from its offset on. -/
theorem PointInitializerList.map_cells_pointAt {initList : PointInitializerList}
    {data : DataVector} (hFits : initList.modelSizeInBytes < 65536)
    (hSize : initList.modelSizeInBytes ≤ data.length) {index : ℕ} {point : Point}
    (hPoint : initList.points[index]? = some point) :
    (List.range' (initList.pointAt index).offset.toNat
      (initList.pointAt index).lengthInBytes.toNat).map (cells data) =
        initList.bytesOf data index := by
  obtain ⟨_, hLength, hOffset⟩ := pointAt_eq hFits hPoint
  have hInside := Nat.le_trans (position_add_length_le hPoint) hSize
  rw [hLength, hOffset, map_cells hInside, bytesOf, hPoint]

namespace Accessor

variable (initList : PointInitializerList) (accessor : Accessor)

/-- The length of the point is what the method reads. -/
def Measures : Prop :=
  ∃ point ∈ initList.points[accessor.index]?,
    pointLengthInBytes accessor.decoder.pointType ≠ 0 →
      point.length = pointLengthInBytes accessor.decoder.pointType

/-- The index is the one of the point with that name, and the method the one for its type. -/
def Names : Prop :=
  initList.indexOf accessor.point = accessor.index ∧
    initList.points[accessor.index]?.map (·.pointType) = some accessor.decoder.pointType

instance : Decidable (accessor.Measures initList) :=
  inferInstanceAs (Decidable (∃ point ∈ initList.points[accessor.index]?, _))

instance : Decidable (accessor.Names initList) := inferInstanceAs (Decidable (_ ∧ _))

variable {initList accessor}

/-- An accessor that names its point has a decoder of the length of it. -/
theorem Names.measures (hNames : accessor.Names initList) : accessor.Measures initList := by
  obtain ⟨point, hPoint, hType⟩ := Option.map_eq_some_iff.mp hNames.2
  refine ⟨point, hPoint, fun hFixed => ?_⟩
  rw [← hType] at hFixed ⊢
  exact if_neg hFixed

variable {data : DataVector} (hFits : initList.modelSizeInBytes < 65536)
  (hSize : initList.modelSizeInBytes ≤ data.length)

include hFits hSize

/-- An accessor whose point has the length that is read gives the meaning of its bytes. -/
theorem Measures.value_read (hMeasures : accessor.Measures initList) :
    (accessor.read initList).value (cells data) =
      accessor.decoder.pointType.decode (initList.bytesOf data accessor.index) := by
  obtain ⟨point, hPoint, hMeasured⟩ := hMeasures
  obtain ⟨_, hLength, _⟩ := PointInitializerList.pointAt_eq hFits hPoint
  rw [← PointInitializerList.map_cells_pointAt hFits hSize hPoint]
  exact @Decoder.value_read accessor.decoder (initList.pointAt accessor.index) (by rwa [hLength])
    (cells data)

/-- An accessor gives the value of the point that it is named after. -/
theorem Names.value_read (hNames : accessor.Names initList) :
    initList.valueOf data accessor.point =
      some ((accessor.read initList).value (cells data)) := by
  obtain ⟨point, hPoint, hType⟩ := Option.map_eq_some_iff.mp hNames.2
  rw [hNames.measures.value_read hFits hSize, PointInitializerList.valueOf, hNames.1, hPoint,
    Option.map_some, hType]

/-- An accessor whose point has the length that is read stays inside the data. -/
theorem Measures.reads_lt (hMeasures : accessor.Measures initList) :
    ∀ index ∈ (accessor.read initList).reads (cells data), index < data.length := by
  obtain ⟨point, hPoint, hMeasured⟩ := hMeasures
  obtain ⟨_, hLength, hOffset⟩ := PointInitializerList.pointAt_eq hFits hPoint
  have hInside := Nat.le_trans (PointInitializerList.position_add_length_le hPoint) hSize
  have hReads := @Decoder.reads_read accessor.decoder (initList.pointAt accessor.index)
    (by rwa [hLength]) (cells data)
  rw [hLength, hOffset] at hReads
  intro index hIndex
  rw [read, hReads, List.mem_range'_1] at hIndex
  omega

end Accessor

end EverestCore.PowermeterBsm
