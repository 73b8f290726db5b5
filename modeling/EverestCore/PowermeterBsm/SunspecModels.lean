import EverestCore.PowermeterBsm.SunspecBase

/-! The models of `PowermeterBSM/lib/sunspec_models.hpp` and `BSMSnapshotModel.hpp`: their
points, and their accessors with the indices that are written there. Which of the accessors
return the value of the point that they are named after, and which stay inside the data. -/
namespace EverestCore.PowermeterBsm

def commonModelInitList : PointInitializerList where
  points :=
    [⟨"ID", .uint16, 0, 0⟩, ⟨"L", .uint16, 0, 0⟩, ⟨"Mn", .string, 16, 0⟩, ⟨"Md", .string, 16, 0⟩,
      ⟨"Opt", .string, 8, 0⟩, ⟨"Vr", .string, 8, 0⟩, ⟨"SN", .string, 16, 0⟩,
      ⟨"DA", .uint16, 0, 0⟩, ⟨"Pad", .pad, 1, 0⟩]
  sized := by decide

namespace Common

def mn : Accessor := ⟨"Mn", .stringAtWithLength, 2⟩
def md : Accessor := ⟨"Md", .stringAtWithLength, 3⟩
def vr : Accessor := ⟨"Vr", .stringAtWithLength, 5⟩
def da : Accessor := ⟨"DA", .uint16At, 8⟩

end Common

def acMeterInitList : PointInitializerList where
  points :=
    [⟨"ID", .uint16, 0, 0⟩, ⟨"L", .uint16, 0, 0⟩, ⟨"A", .int16, 0, 0⟩, ⟨"AphA", .int16, 0, 0⟩,
      ⟨"AphB", .int16, 0, 0⟩, ⟨"AphC", .int16, 0, 0⟩, ⟨"A_SF", .int16, 0, 0⟩, ⟨"no", .pad, 1, 0⟩,
      ⟨"PhVphA", .int16, 0, 0⟩, ⟨"PhVphB", .int16, 0, 0⟩, ⟨"PhVphC", .int16, 0, 0⟩,
      ⟨"no", .pad, 4, 0⟩, ⟨"V_SF", .sunssf, 0, 0⟩, ⟨"Hz", .int16, 0, 0⟩,
      ⟨"Hz_SF", .sunssf, 0, 0⟩, ⟨"W", .int16, 0, 0⟩, ⟨"WphA", .int16, 0, 0⟩,
      ⟨"WphB", .int16, 0, 0⟩, ⟨"WphC", .int16, 0, 0⟩, ⟨"W_SF", .sunssf, 0, 0⟩,
      ⟨"VA", .int16, 0, 0⟩, ⟨"VAphA", .int16, 0, 0⟩, ⟨"VAphB", .int16, 0, 0⟩,
      ⟨"VAphC", .int16, 0, 0⟩, ⟨"VA_SF", .int16, 0, 0⟩, ⟨"VAR", .int16, 0, 0⟩,
      ⟨"VARphA", .int16, 0, 0⟩, ⟨"VARphB", .int16, 0, 0⟩, ⟨"VARphC", .int16, 0, 0⟩,
      ⟨"VAR_SF", .sunssf, 0, 0⟩, ⟨"no", .pad, 1, 0⟩, ⟨"PFphA", .int16, 0, 0⟩,
      ⟨"PFphB", .int16, 0, 0⟩, ⟨"PFphC", .int16, 0, 0⟩, ⟨"PF_SF", .sunssf, 0, 0⟩,
      ⟨"no", .pad, 8, 0⟩, ⟨"TotWhIm", .acc32, 0, 0⟩, ⟨"no", .pad, 6, 0⟩,
      ⟨"TotWh_SF", .sunssf, 0, 0⟩, ⟨"no", .string, 50, 0⟩, ⟨"Evt", .bitfield32, 0, 0⟩]
  sized := by decide

namespace ACMeter

protected def id : Accessor := ⟨"ID", .uint16At, 0⟩
def l : Accessor := ⟨"L", .uint16At, 1⟩
def a : Accessor := ⟨"A", .int16At, 2⟩
def aphB : Accessor := ⟨"AphB", .int16At, 4⟩
def aphC : Accessor := ⟨"AphC", .int16At, 5⟩
def aSf : Accessor := ⟨"A_SF", .int16At, 6⟩
def phVphA : Accessor := ⟨"PhVphA", .int16At, 8⟩
def phVphB : Accessor := ⟨"PhVphB", .int16At, 9⟩
def phVphC : Accessor := ⟨"PhVphC", .int16At, 10⟩
def vSf : Accessor := ⟨"V_SF", .sunssfAt, 12⟩
def hz : Accessor := ⟨"Hz", .int16At, 13⟩
def hzSf : Accessor := ⟨"Hz_SF", .sunssfAt, 14⟩
def w : Accessor := ⟨"W", .int16At, 15⟩
def wphA : Accessor := ⟨"WphA", .int16At, 16⟩
def wphB : Accessor := ⟨"WphB", .int16At, 17⟩
def wphC : Accessor := ⟨"WphC", .int16At, 18⟩
def wSf : Accessor := ⟨"W_SF", .sunssfAt, 19⟩
def va : Accessor := ⟨"VA", .int16At, 20⟩
def vaphA : Accessor := ⟨"VAphA", .int16At, 21⟩
def vaphB : Accessor := ⟨"VAphB", .int16At, 22⟩
def vaphC : Accessor := ⟨"VAphC", .int16At, 23⟩
def vaSf : Accessor := ⟨"VA_SF", .int16At, 24⟩
def var : Accessor := ⟨"VAR", .int16At, 25⟩
def varphA : Accessor := ⟨"VARphA", .int16At, 26⟩
def varphB : Accessor := ⟨"VARphB", .int16At, 27⟩
def varphC : Accessor := ⟨"VARphC", .int16At, 28⟩
def varSf : Accessor := ⟨"VAR_SF", .sunssfAt, 29⟩
def pfphA : Accessor := ⟨"PFphA", .int16At, 31⟩
def pfphB : Accessor := ⟨"PFphB", .int16At, 32⟩
def pfphC : Accessor := ⟨"PFphC", .int16At, 33⟩
def pfSf : Accessor := ⟨"PF_SF", .sunssfAt, 34⟩
def totWhIm : Accessor := ⟨"TotWhIm", .acc32At, 36⟩
def totWhSf : Accessor := ⟨"TotWh_SF", .sunssfAt, 38⟩
def evt : Accessor := ⟨"Evt", .bitfield32At, 40⟩

/-- The one accessor without a decoder. -/
def aphA : Access UInt8 PointValue :=
  pure (.signed (acMeterInitList.pointAt 3).offset.toInt16.toInt)

end ACMeter

def bsmSnapshotPointInitList : PointInitializerList where
  points :=
    [⟨"Type", .enum16, 0, 0⟩, ⟨"Status", .enum16, 0, 0⟩, ⟨"RCR", .acc32, 0, 0⟩,
      ⟨"TotWhImp", .acc32, 0, 0⟩, ⟨"Wh_SF", .sunssf, 0, 0⟩, ⟨"W", .int16, 0, 0⟩,
      ⟨"W_SF", .sunssf, 0, 0⟩, ⟨"MA1", .string, 8, 0⟩, ⟨"RCnt", .uint32, 0, 0⟩,
      ⟨"OS", .uint32, 0, 0⟩, ⟨"Epoch", .uint32, 0, 0⟩, ⟨"TZO", .int16, 0, 0⟩,
      ⟨"EpochSetCnt", .uint32, 0, 0⟩, ⟨"EpochSetOS", .uint32, 0, 0⟩, ⟨"DI", .uint16, 0, 0⟩,
      ⟨"DO", .uint16, 0, 0⟩, ⟨"Meta1", .string, 70, 0⟩, ⟨"Meta2", .string, 50, 0⟩,
      ⟨"Meta3", .string, 50, 0⟩, ⟨"Evt", .bitfield32, 0, 0⟩, ⟨"NSig", .uint16, 0, 0⟩,
      ⟨"BSig", .uint16, 0, 0⟩, ⟨"Sig", .blob, 0, 0⟩]
  sized := by decide

namespace SignedSnapshot

def type : Accessor := ⟨"Type", .enum16At, 0⟩
def status : Accessor := ⟨"Status", .enum16At, 1⟩
def rcr : Accessor := ⟨"RCR", .acc32At, 2⟩
def totWhImp : Accessor := ⟨"TotWhImp", .acc32At, 3⟩
def whSf : Accessor := ⟨"Wh_SF", .sunssfAt, 4⟩
def w : Accessor := ⟨"W", .int16At, 5⟩
def wSf : Accessor := ⟨"W_SF", .sunssfAt, 6⟩
def ma1 : Accessor := ⟨"MA1", .stringAtWithLength, 7⟩
def rCnt : Accessor := ⟨"RCnt", .uint32At, 8⟩
def os : Accessor := ⟨"OS", .uint32At, 9⟩
def epoch : Accessor := ⟨"Epoch", .uint32At, 10⟩
def tzo : Accessor := ⟨"TZO", .int16At, 11⟩
def epochSetCnt : Accessor := ⟨"EpochSetCnt", .uint32At, 12⟩
def epochSetOS : Accessor := ⟨"EpochSetOS", .uint32At, 13⟩
def di : Accessor := ⟨"DI", .uint16At, 14⟩
def dO : Accessor := ⟨"DO", .uint16At, 15⟩
def meta1 : Accessor := ⟨"Meta1", .stringAtWithLength, 16⟩
def meta2 : Accessor := ⟨"Meta2", .stringAtWithLength, 17⟩
def meta3 : Accessor := ⟨"Meta3", .stringAtWithLength, 18⟩
def evt : Accessor := ⟨"Evt", .bitfield32At, 19⟩
def nSig : Accessor := ⟨"NSig", .uint16At, 20⟩
def bSig : Accessor := ⟨"BSig", .uint16At, 21⟩

/-- The signature, as long as the data say in bytes. -/
def sig : Access UInt8 PointValue := do
  let length ← SunspecDecoder.uint16At (bsmSnapshotPointInitList.pointAt bSig.index).offset.toNat
  let text ← SunspecDecoder.stringAtWithLengthFromBinaryData
    (bsmSnapshotPointInitList.pointAt 22).offset.toNat length.toNat
  pure (.text text)

/-- The signature with its padding, as long as the data say in registers. -/
def sigPadded : Access UInt8 PointValue := do
  let length ← SunspecDecoder.uint16At (bsmSnapshotPointInitList.pointAt nSig.index).offset.toNat
  let text ← SunspecDecoder.stringAtWithLengthFromBinaryData
    (bsmSnapshotPointInitList.pointAt 22).offset.toNat (length.toNat * 2)
  pure (.text text)

end SignedSnapshot

def bsmOCMFSnapshotPointInitList : PointInitializerList where
  points :=
    [⟨"ID", .uint16, 0, 0⟩, ⟨"L", .uint16, 0, 0⟩, ⟨"Type", .enum16, 0, 0⟩, ⟨"St", .enum16, 0, 0⟩,
      ⟨"O", .string, 496, 0⟩]
  sized := by decide

namespace SignedOCMFSnapshot

protected def id : Accessor := ⟨"ID", .uint16At, 0⟩
def l : Accessor := ⟨"L", .uint16At, 1⟩
def type : Accessor := ⟨"Type", .enum16At, 2⟩
def st : Accessor := ⟨"St", .enum16At, 3⟩
def o : Accessor := ⟨"O", .stringAtWithLength, 4⟩

end SignedOCMFSnapshot

inductive SunspecModel where
  | common
  | acMeter
  | signedSnapshot
  | signedOCMFSnapshot

namespace SunspecModel

def initList : SunspecModel → PointInitializerList
  | .common => commonModelInitList
  | .acMeter => acMeterInitList
  | .signedSnapshot => bsmSnapshotPointInitList
  | .signedOCMFSnapshot => bsmOCMFSnapshotPointInitList

section

open Common ACMeter SignedSnapshot SignedOCMFSnapshot

/-- The accessors that decode the point that they are named after. -/
def named : SunspecModel → List Accessor
  | .common => [mn, md, vr]
  | .acMeter =>
      [ACMeter.id, ACMeter.l, a, aphB, aphC, aSf, phVphA, phVphB, phVphC, vSf, hz, hzSf,
        ACMeter.w, wphA, wphB, wphC, ACMeter.wSf, va, vaphA, vaphB, vaphC, vaSf, var, varphA,
        varphB, varphC, varSf, pfphA, pfphB, pfphC, pfSf, totWhIm, totWhSf, ACMeter.evt]
  | .signedSnapshot =>
      [SignedSnapshot.type, status, rcr, totWhImp, whSf, SignedSnapshot.w, SignedSnapshot.wSf,
        ma1, rCnt, os, epoch, tzo, epochSetCnt, epochSetOS, di, dO, meta1, meta2, meta3,
        SignedSnapshot.evt, nSig, bSig]
  | .signedOCMFSnapshot =>
      [SignedOCMFSnapshot.id, SignedOCMFSnapshot.l, SignedOCMFSnapshot.type, st, o]

/-- The others that return the value of a point. -/
def misread : SunspecModel → List (String × Access UInt8 PointValue)
  | .common => [(da.point, da.read commonModelInitList)]
  | .acMeter => [("AphA", aphA)]
  | .signedSnapshot | .signedOCMFSnapshot => []

/-- The accessors that return binary data. -/
def binary : SunspecModel → List (String × Access UInt8 PointValue)
  | .signedSnapshot => [("Sig", sig), ("SigPadded", sigPadded)]
  | .common | .acMeter | .signedOCMFSnapshot => []

end

variable (model : SunspecModel)

/-- The accessors of the values of points, by the names of the points. -/
def pointAccessors : List (String × Access UInt8 PointValue) :=
  model.named.map (fun accessor => (accessor.point, accessor.read model.initList)) ++
    model.misread

def accessors : List (String × Access UInt8 PointValue) := model.pointAccessors ++ model.binary

theorem modelSizeInBytes_lt : model.initList.modelSizeInBytes < 65536 := by
  cases model <;> decide

theorem names_of_mem : ∀ accessor ∈ model.named, accessor.Names model.initList := by
  cases model <;> decide

/-- The data that the misplaced accessors read all the same: the reserved register behind `DA`
holds what `DA` holds, and the current of phase A is the offset of its point. -/
def Agrees (data : DataVector) : SunspecModel → Prop
  | .common => bigEndian (commonModelInitList.bytesOf data 8) =
      bigEndian (commonModelInitList.bytesOf data 7)
  | .acMeter => twosComplement16 (bigEndian (acMeterInitList.bytesOf data 3)) = 6
  | .signedSnapshot | .signedOCMFSnapshot => True

/-- The signature ends inside the data, in both of its lengths. -/
def SignatureFits (data : DataVector) : SunspecModel → Prop
  | .signedSnapshot =>
      bsmSnapshotPointInitList.position 22 +
          bigEndian (bsmSnapshotPointInitList.bytesOf data 21) ≤ data.length ∧
        bsmSnapshotPointInitList.position 22 +
          2 * bigEndian (bsmSnapshotPointInitList.bytesOf data 20) ≤ data.length
  | .common | .acMeter | .signedOCMFSnapshot => True

variable {model} (m : SunspecModelBase model.initList)

/-- Every accessor of a point of a fixed length stays inside the data. -/
theorem reads_lt_of_mem {entry : String × Access UInt8 PointValue}
    (hEntry : entry ∈ model.pointAccessors) :
    ∀ index ∈ entry.2.reads (cells m.mData), index < m.mData.length := by
  have hFits := model.modelSizeInBytes_lt
  rcases List.mem_append.mp hEntry with hNamed | hMisread
  · obtain ⟨accessor, hAccessor, rfl⟩ := List.mem_map.mp hNamed
    exact (model.names_of_mem accessor hAccessor).measures.reads_lt hFits m.accepted
  · cases model with
    | common =>
        obtain rfl := List.mem_singleton.mp hMisread
        have hMeasures : Common.da.Measures commonModelInitList := by decide
        exact hMeasures.reads_lt hFits m.accepted
    | acMeter =>
        obtain rfl := List.mem_singleton.mp hMisread
        intro index hIndex
        exact absurd hIndex List.not_mem_nil
    | signedSnapshot | signedOCMFSnapshot => exact absurd hMisread List.not_mem_nil

/-- A model reads all its points right on the data on which the misplaced accessors agree. -/
theorem pointAccessors_decode_iff (model : SunspecModel) (m : SunspecModelBase model.initList) :
    (∀ entry ∈ model.pointAccessors,
      model.initList.valueOf m.mData entry.1 = some (entry.2.value (cells m.mData))) ↔
    model.Agrees m.mData := by
  have hFits := model.modelSizeInBytes_lt
  have hNamed : ∀ entry ∈ model.named.map (fun accessor =>
      (accessor.point, accessor.read model.initList)),
      model.initList.valueOf m.mData entry.1 = some (entry.2.value (cells m.mData)) := by
    intro entry hEntry
    obtain ⟨accessor, hAccessor, rfl⟩ := List.mem_map.mp hEntry
    exact (model.names_of_mem accessor hAccessor).value_read hFits m.accepted
  rw [pointAccessors, List.forall_mem_append, and_iff_right hNamed]
  cases model with
  | common =>
      have hMeasures : Common.da.Measures commonModelInitList := by decide
      have hRead : (Common.da.read commonModelInitList).value (cells m.mData) =
          .unsigned (bigEndian (commonModelInitList.bytesOf m.mData 8)) :=
        hMeasures.value_read hFits m.accepted
      have hValue : commonModelInitList.valueOf m.mData "DA" =
          some (.unsigned (bigEndian (commonModelInitList.bytesOf m.mData 7))) := rfl
      rw [misread, List.forall_mem_singleton]
      change commonModelInitList.valueOf m.mData "DA" =
        some ((Common.da.read commonModelInitList).value (cells m.mData)) ↔ _
      rw [hValue, hRead, Option.some_inj, PointValue.unsigned.injEq]
      exact eq_comm
  | acMeter =>
      have hOffset : (acMeterInitList.pointAt 3).offset.toInt16.toInt = 6 := by decide
      have hRead : ACMeter.aphA.value (cells m.mData) = .signed 6 :=
        congrArg PointValue.signed hOffset
      have hValue : acMeterInitList.valueOf m.mData "AphA" = some (.signed
          (twosComplement16 (bigEndian (acMeterInitList.bytesOf m.mData 3)))) := rfl
      rw [misread, List.forall_mem_singleton]
      change acMeterInitList.valueOf m.mData "AphA" = some (ACMeter.aphA.value _) ↔ _
      rw [hValue, hRead, Option.some_inj, PointValue.signed.injEq]
      exact Iff.rfl
  | signedSnapshot | signedOCMFSnapshot =>
      exact iff_of_true (fun _ hMem => absurd hMem List.not_mem_nil) trivial

/-- An AC meter without a current in phase A. -/
theorem pointAccessors_decode_misread :
    ¬∀ (model : SunspecModel) (m : SunspecModelBase model.initList),
      ∀ entry ∈ model.pointAccessors,
        model.initList.valueOf m.mData entry.1 = some (entry.2.value (cells m.mData)) := by
  intro hAll
  have hSize : acMeterInitList.modelSizeInBytes ≤ (List.replicate 214 (0 : UInt8)).length := by
    rw [List.length_replicate]
    decide
  have hAphA := hAll .acMeter ⟨List.replicate 214 0, hSize⟩ ("AphA", ACMeter.aphA)
    (List.mem_append_right _ (List.mem_singleton_self _))
  have hValue : acMeterInitList.valueOf (List.replicate 214 0) "AphA" = some (.signed 0) := by
    decide
  have hOffset : (acMeterInitList.pointAt 3).offset.toInt16.toInt = 6 := by decide
  have hRead : some (PointValue.signed 0) = some (PointValue.signed 6) :=
    hValue.symm.trans (hAphA.trans (congrArg (some ∘ PointValue.signed) hOffset))
  exact absurd hRead (by decide)

/-- What a binary accessor reads: the register with the length, and so many cells from the
point `Sig` on. -/
theorem reads_signature_lt_iff (m : SunspecModelBase bsmSnapshotPointInitList) {index : ℕ}
    {point : Point} (hPoint : bsmSnapshotPointInitList.points[index]? = some point)
    (hLength : point.length = 2) (scale : ℕ) :
    (∀ cell ∈ (do
        let length ← SunspecDecoder.uint16At
          (bsmSnapshotPointInitList.pointAt index).offset.toNat
        let text ← SunspecDecoder.stringAtWithLengthFromBinaryData
          (bsmSnapshotPointInitList.pointAt 22).offset.toNat (length.toNat * scale)
        pure (PointValue.text text) : Access UInt8 PointValue).reads (cells m.mData),
      cell < m.mData.length) ↔
    bsmSnapshotPointInitList.position 22 +
      scale * bigEndian (bsmSnapshotPointInitList.bytesOf m.mData index) ≤ m.mData.length := by
  have hFits : bsmSnapshotPointInitList.modelSizeInBytes < 65536 :=
    signedSnapshot.modelSizeInBytes_lt
  obtain ⟨_, hPointLength, hOffset⟩ := PointInitializerList.pointAt_eq hFits hPoint
  obtain ⟨_, _, hBlob⟩ := @PointInitializerList.pointAt_eq _ hFits 22 _ rfl
  have hInside := Nat.le_trans (PointInitializerList.position_add_length_le hPoint) m.accepted
  have hBlobInside := Nat.le_trans
    (@PointInitializerList.position_add_length_le bsmSnapshotPointInitList 22 _ rfl) m.accepted
  have hCount := toNat_uint16At (cells m.mData)
    (bsmSnapshotPointInitList.pointAt index).offset.toNat
  have hBytes := PointInitializerList.map_cells_pointAt hFits m.accepted hPoint
  rw [hPointLength, hLength] at hBytes
  rw [hLength] at hInside
  have hRead := hCount.trans (congrArg bigEndian hBytes)
  rw [hOffset] at hRead
  simp only [Access.reads_bind, Access.reads_pure, reads_uint16At, hRead, hBlob, hOffset,
    reads_stringAtWithLengthFromBinaryData, List.append_nil, List.mem_append, List.mem_range'_1]
  rw [Nat.mul_comm scale]
  generalize bigEndian (bsmSnapshotPointInitList.bytesOf m.mData index) * scale = length
  refine ⟨fun hCells => ?_, fun hEnd cell hCell => ?_⟩
  · -- The last cell of the signature, if it has one, is the one that counts.
    by_cases hEmpty : length = 0
    · rw [hEmpty]
      exact Nat.le_trans (Nat.le_add_right _ _) hBlobInside
    · have hLast := hCells (bsmSnapshotPointInitList.position 22 + length - 1)
        (Or.inr ⟨by omega, by omega⟩)
      omega
  · have hTwo : (2 : UInt16).toNat = 2 := rfl
    rcases hCell with ⟨_, hBelow⟩ | ⟨_, hBelow⟩ <;> omega

/-- The binary accessors read a signature as long as the data say. -/
theorem reads_binary_lt_iff (m : SunspecModelBase bsmSnapshotPointInitList) :
    (∀ entry ∈ binary .signedSnapshot, ∀ index ∈ entry.2.reads (cells m.mData),
      index < m.mData.length) ↔ SignatureFits m.mData .signedSnapshot := by
  rw [binary, List.forall_mem_cons, List.forall_mem_singleton]
  refine and_congr ?_ ?_
  · have hSig := @reads_signature_lt_iff m 21 _ rfl rfl 1
    simp only [Nat.mul_one, Nat.one_mul] at hSig
    exact hSig
  · exact @reads_signature_lt_iff m 20 _ rfl rfl 2

/-- A model reads only inside its data right if the signature fits. -/
theorem accessors_inside_iff (model : SunspecModel) (m : SunspecModelBase model.initList) :
    (∀ entry ∈ model.accessors, ∀ index ∈ entry.2.reads (cells m.mData),
      index < m.mData.length) ↔ model.SignatureFits m.mData := by
  rw [accessors, List.forall_mem_append, and_iff_right fun _ => reads_lt_of_mem m]
  cases model with
  | signedSnapshot => exact reads_binary_lt_iff m
  | common | acMeter | signedOCMFSnapshot =>
      exact iff_of_true (fun _ hMem => absurd hMem List.not_mem_nil) trivial

/-- A snapshot whose signature is said to have 65535 bytes. -/
theorem accessors_inside_announced :
    ¬∀ (model : SunspecModel) (m : SunspecModelBase model.initList),
      ∀ entry ∈ model.accessors, ∀ index ∈ entry.2.reads (cells m.mData),
        index < m.mData.length := by
  intro hAll
  have hLength : (List.replicate 406 (0 : UInt8) ++ [255, 255, 0, 0]).length = 410 := by
    rw [List.length_append, List.length_replicate]
    rfl
  have hSize : bsmSnapshotPointInitList.modelSizeInBytes ≤
      (List.replicate 406 (0 : UInt8) ++ [255, 255, 0, 0]).length := by
    rw [hLength]
    decide
  obtain ⟨hBytes, _⟩ := (reads_binary_lt_iff ⟨_, hSize⟩).mp fun entry hEntry =>
    hAll .signedSnapshot ⟨_, hSize⟩ entry (List.mem_append_right _ hEntry)
  have hAnnounced : bigEndian (bsmSnapshotPointInitList.bytesOf
      (List.replicate 406 0 ++ [255, 255, 0, 0]) 21) = 65535 := by decide
  change _ + bigEndian (bsmSnapshotPointInitList.bytesOf
    (List.replicate 406 0 ++ [255, 255, 0, 0]) 21) ≤ List.length _ at hBytes
  rw [hAnnounced, hLength] at hBytes
  omega

end SunspecModel

end EverestCore.PowermeterBsm
