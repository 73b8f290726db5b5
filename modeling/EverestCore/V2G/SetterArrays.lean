import EverestCore.V2G.EvseData
import EverestCore.Machine.Runs

/-! The arrays that the setters of `ISO15118_chargerImpl` write, with the indices at which
they do. Their sizes come with the messages. Elsewhere the same arrays are lists, in which
a store behind the end has no effect. -/
namespace EverestCore.V2G
open Machine

/-- An array with the length that is stored beside it, and the indices of all stores so
far. -/
structure Destination (α : Type) where
  entries : Entries α
  stores : List ℕ := []
  deriving DecidableEq, Repr

namespace Destination

variable {α : Type}

/-- The number of entries that there is room for. -/
def size (destination : Destination α) : ℕ := destination.entries.array.length

/-- Every store was inside the array, and so is every entry that is in use. -/
structure InBounds (destination : Destination α) : Prop where
  stores : ∀ index ∈ destination.stores, index < destination.size
  arrayLen : destination.entries.arrayLen ≤ destination.size

def clear (destination : Destination α) : Destination α :=
  { destination with entries := { destination.entries with arrayLen := 0 } }

/-- `array[arrayLen++] = value`, with a length that wraps around. -/
def push (modulus : ℕ) (destination : Destination α) (value : α) : Destination α where
  entries :=
    ⟨destination.entries.array.set destination.entries.arrayLen value,
      (destination.entries.arrayLen + 1) % modulus⟩
  stores := destination.stores ++ [destination.entries.arrayLen]

/-- `memcpy` to the beginning, with the new length. -/
def memcpy (values : List α) (destination : Destination α) : Destination α where
  entries :=
    ⟨(values ++ destination.entries.array.drop values.length).take destination.size,
      values.length⟩
  stores := destination.stores ++ List.range values.length

/-- The copy of an id, if its length, in eight bits, is smaller than the array. -/
def setId (text : List UInt8) (destination : Destination UInt8) : Destination UInt8 :=
  match fittingId destination.size text with
  | some id => destination.memcpy id
  | none => destination

@[simp] theorem size_clear (destination : Destination α) :
    destination.clear.size = destination.size := rfl

@[simp] theorem size_push (modulus : ℕ) (destination : Destination α) (value : α) :
    (destination.push modulus value).size = destination.size :=
  List.length_set

theorem size_memcpy (values : List α) (destination : Destination α)
    (hFits : values.length ≤ destination.size) :
    (destination.memcpy values).size = destination.size := by
  have hTake : (destination.memcpy values).size =
      min destination.size (values.length + (destination.size - values.length)) := by
    simp [memcpy, size]
  omega

/-- What a response copies are as many entries as the length says. -/
theorem InBounds.used_length {destination : Destination α} (hBounds : destination.InBounds) :
    destination.entries.used.length = destination.entries.arrayLen := by
  have hLen : destination.entries.arrayLen ≤ destination.entries.array.length := hBounds.arrayLen
  rw [Entries.used, List.length_take]
  exact Nat.min_eq_left hLen

/-- There is room for one more value exactly if the array is not full. -/
theorem push_inBounds_iff (modulus : ℕ) {destination : Destination α} (value : α)
    (hBounds : destination.InBounds) :
    (destination.push modulus value).InBounds ↔
      destination.entries.arrayLen ≠ destination.size := by
  have hLen := hBounds.arrayLen
  constructor
  · intro hPush
    have hStore : destination.entries.arrayLen < (destination.push modulus value).size :=
      hPush.stores _ (List.mem_append_right _ (List.mem_singleton_self _))
    rw [size_push] at hStore
    exact Nat.ne_of_lt hStore
  · intro hRoom
    constructor
    · intro index hIndex
      rw [size_push]
      rcases List.mem_append.mp hIndex with hBefore | hNow
      · exact hBounds.stores index hBefore
      · rw [List.mem_singleton.mp hNow]
        exact Nat.lt_of_le_of_ne hLen hRoom
    · have hNext : (destination.entries.arrayLen + 1) % modulus ≤
          destination.entries.arrayLen + 1 := Nat.mod_le _ _
      rw [size_push]
      show (destination.entries.arrayLen + 1) % modulus ≤ destination.size
      omega

theorem memcpy_inBounds {values : List α} {destination : Destination α}
    (hBounds : destination.InBounds) (hFits : values.length ≤ destination.size) :
    (destination.memcpy values).InBounds := by
  constructor
  · intro index hIndex
    rw [size_memcpy values destination hFits]
    rcases List.mem_append.mp hIndex with hBefore | hNow
    · exact hBounds.stores index hBefore
    · exact Nat.lt_of_lt_of_le (List.mem_range.mp hNow) hFits
  · rw [size_memcpy values destination hFits]
    exact hFits

/-- An id is never too long, since it is cut to the length that was compared. -/
theorem setId_inBounds (text : List UInt8) {destination : Destination UInt8}
    (hBounds : destination.InBounds) : (destination.setId text).InBounds := by
  unfold setId
  cases hId : fittingId destination.size text with
  | none => exact hBounds
  | some id => exact memcpy_inBounds hBounds (Nat.le_of_lt (fittingId_length hId))

/-- The id that is in use is the one that `EvseData` stores. -/
theorem setId_used (text : List UInt8) (destination : Destination UInt8) :
    (destination.setId text).entries.used =
      (fittingId destination.size text).getD destination.entries.used := by
  unfold setId
  cases hId : fittingId destination.size text with
  | none => rfl
  | some id =>
      have hLength := fittingId_length hId
      show List.take id.length (List.take destination.size (id ++ _)) = id
      rw [List.take_take, Nat.min_eq_left (Nat.le_of_lt hLength), List.take_left]

/-- Whatever its length was, the list is written from the first entry on. -/
def pushAll (modulus : ℕ) (destination : Destination α) (values : List α) : Destination α :=
  values.foldl (push modulus) destination.clear

theorem pushAll_snoc (modulus : ℕ) (values : List α) (value : α) (destination : Destination α) :
    destination.pushAll modulus (values ++ [value]) =
      (destination.pushAll modulus values).push modulus value := by
  rw [pushAll, List.foldl_append]
  rfl

@[simp] theorem size_pushAll (modulus : ℕ) (values : List α) (destination : Destination α) :
    (destination.pushAll modulus values).size = destination.size := by
  induction values using List.reverseRecOn with
  | nil => rfl
  | append_singleton values value ih => rw [pushAll_snoc, size_push, ih]

theorem arrayLen_pushAll (modulus : ℕ) (values : List α) (destination : Destination α) :
    (destination.pushAll modulus values).entries.arrayLen = values.length % modulus := by
  induction values using List.reverseRecOn with
  | nil => exact (Nat.zero_mod modulus).symm
  | append_singleton values value ih =>
      rw [pushAll_snoc, List.length_append]
      show ((destination.pushAll modulus values).entries.arrayLen + 1) % modulus = _
      rw [ih, Nat.mod_add_mod]
      rfl

theorem stores_pushAll (modulus : ℕ) (values : List α) (destination : Destination α) :
    (destination.pushAll modulus values).stores =
      destination.stores ++ (List.range values.length).map (· % modulus) := by
  induction values using List.reverseRecOn with
  | nil => exact (List.append_nil _).symm
  | append_singleton values value ih =>
      have hRange : List.range (values ++ [value]).length =
          List.range values.length ++ [values.length] := by
        rw [List.length_append]
        exact List.range_succ
      rw [pushAll_snoc, hRange, List.map_append, ← List.append_assoc, ← ih, List.map_singleton,
        ← arrayLen_pushAll modulus values destination]
      rfl

/-- As long as the length does not wrap around, this is the list of the server. -/
theorem entries_pushAll (modulus : ℕ) (values : List α) (destination : Destination α)
    (hLength : values.length < modulus) :
    (destination.pushAll modulus values).entries = destination.entries.refill values := by
  induction values using List.reverseRecOn with
  | nil => rfl
  | append_singleton values value ih =>
      rw [List.length_append, List.length_singleton] at hLength
      have hBefore : values.length < modulus := by omega
      have hNext : (destination.pushAll modulus values).entries.arrayLen + 1 < modulus := by
        rw [arrayLen_pushAll, Nat.mod_eq_of_lt hBefore]
        exact hLength
      have hRefill : destination.entries.refill (values ++ [value]) =
          (destination.entries.refill values).push value := by
        rw [Entries.refill, List.foldl_append]
        rfl
      rw [pushAll_snoc, hRefill, ← ih hBefore]
      unfold push Entries.push
      rw [Nat.mod_eq_of_lt hNext]

/-- The length wraps around, so no index is as large as the modulus. Up to there every
value needs its own entry. -/
theorem pushAll_inBounds_iff {modulus : ℕ} (hModulus : 0 < modulus) (values : List α)
    {destination : Destination α} (hBounds : destination.InBounds) :
    (destination.pushAll modulus values).InBounds ↔
      min values.length modulus ≤ destination.size := by
  constructor
  · intro hAll
    by_contra hSmall
    have hIndex : destination.size < values.length ∧ destination.size < modulus := by omega
    have hStored : destination.size ∈ (destination.pushAll modulus values).stores := by
      rw [stores_pushAll]
      apply List.mem_append_right
      exact List.mem_map.mpr
        ⟨destination.size, List.mem_range.mpr hIndex.1, Nat.mod_eq_of_lt hIndex.2⟩
    have hOutside := hAll.stores _ hStored
    rw [size_pushAll] at hOutside
    exact Nat.lt_irrefl _ hOutside
  · intro hSize
    constructor
    · intro index hIndex
      rw [size_pushAll]
      rw [stores_pushAll] at hIndex
      rcases List.mem_append.mp hIndex with hBefore | hNow
      · exact hBounds.stores index hBefore
      · obtain ⟨position, hPosition, rfl⟩ := List.mem_map.mp hNow
        have hLess := List.mem_range.mp hPosition
        have hMod := Nat.mod_lt position hModulus
        have hLe := Nat.mod_le position modulus
        omega
    · have hMod := Nat.mod_lt values.length hModulus
      have hLe := Nat.mod_le values.length modulus
      rw [size_pushAll, arrayLen_pushAll]
      omega

end Destination

/-- An element of a list in a command. The conversion of an unknown string throws. -/
inductive ArrayElement (α : Type) where
  | known (value : α)
  | unknown
  | noString
  deriving DecidableEq, Repr

/-- The loop over the elements of a list. -/
def storeElements {α : Type} (modulus : ℕ) :
    List (ArrayElement α) → Destination α → Destination α
  | [], destination => destination
  | .known value :: rest, destination => storeElements modulus rest (destination.push modulus value)
  | .noString :: rest, destination => storeElements modulus rest destination
  | .unknown :: _, destination => destination

/-- The values that are stored. -/
def knownValues {α : Type} : List (ArrayElement α) → List α
  | [] => []
  | .known value :: rest => value :: knownValues rest
  | .noString :: rest => knownValues rest
  | .unknown :: _ => []

theorem storeElements_eq_foldl {α : Type} (modulus : ℕ) (elements : List (ArrayElement α))
    (destination : Destination α) :
    storeElements modulus elements destination =
      (knownValues elements).foldl (Destination.push modulus) destination := by
  induction elements generalizing destination with
  | nil => rfl
  | cons element rest ih =>
      cases element with
      | known value => exact ih (destination.push modulus value)
      | unknown => rfl
      | noString => exact ih destination

theorem storeElements_clear {α : Type} (modulus : ℕ) (elements : List (ArrayElement α))
    (destination : Destination α) :
    storeElements modulus elements destination.clear =
      destination.pushAll modulus (knownValues elements) :=
  storeElements_eq_foldl modulus elements destination.clear

/-- The arrays that the setters write, with a list of parameter sets for each service. -/
structure SetterArrays where
  evseId : Destination UInt8
  meterId : Destination UInt8
  paymentOptionList : Destination PaymentOption
  energyTransferMode : Destination EnergyTransferMode
  serviceParameterList : ℕ → Destination ℤ

inductive SetterCall where
  | setEVSEID (evseId : List UInt8)
  | setPaymentOptions (paymentOptions : List (ArrayElement PaymentOption))
  | setSupportedEnergyTransferMode (modes : List (ArrayElement EnergyTransferMode))
  | setMeterInfo (meterId : Option (List UInt8))
  | configureParameterSet (service : ℕ) (parameterSetId : ℤ)
  deriving DecidableEq, Repr

/-- `configure_parameter_set`, with the comparison as it stands. -/
def configureParameterSet (parameterSetId : ℤ) (list : Destination ℤ) : Destination ℤ :=
  if (list.size : ℤ) > (list.entries.arrayLen : ℤ) - 1 then list.push UInt16.size parameterSetId
  else list

/-- The length is at most the size, so the comparison always succeeds. -/
theorem configureParameterSet_eq_push (parameterSetId : ℤ) {list : Destination ℤ}
    (hBounds : list.InBounds) :
    configureParameterSet parameterSetId list = list.push UInt16.size parameterSetId := by
  have hLen := hBounds.arrayLen
  unfold configureParameterSet
  rw [if_pos (by omega)]

namespace SetterArrays

variable (s : SetterArrays)

def step : SetterCall → SetterArrays
  | .setEVSEID evseId => { s with evseId := s.evseId.setId evseId }
  | .setPaymentOptions paymentOptions =>
      { s with
        paymentOptionList :=
          storeElements UInt8.size paymentOptions s.paymentOptionList.clear }
  | .setSupportedEnergyTransferMode modes =>
      { s with
        energyTransferMode := storeElements UInt16.size modes s.energyTransferMode.clear }
  | .setMeterInfo meterId => { s with meterId := meterId.elim s.meterId s.meterId.setId }
  | .configureParameterSet service parameterSetId =>
      { s with
        serviceParameterList := Function.update s.serviceParameterList service
          (configureParameterSet parameterSetId (s.serviceParameterList service)) }

/-- No setter has written outside of its array, and no response copies from outside. -/
structure InBounds (s : SetterArrays) : Prop where
  evseId : s.evseId.InBounds
  meterId : s.meterId.InBounds
  paymentOptionList : s.paymentOptionList.InBounds
  energyTransferMode : s.energyTransferMode.InBounds
  serviceParameterList : ∀ service, (s.serviceParameterList service).InBounds

/-- A list that is set is not longer than its array, as far as its length can be counted, and
a parameter set is only added to a list that is not full. -/
def Fits : SetterCall → Prop
  | .setPaymentOptions paymentOptions =>
      min (knownValues paymentOptions).length UInt8.size ≤ s.paymentOptionList.size
  | .setSupportedEnergyTransferMode modes =>
      min (knownValues modes).length UInt16.size ≤ s.energyTransferMode.size
  | .configureParameterSet service _ =>
      (s.serviceParameterList service).entries.arrayLen ≠ (s.serviceParameterList service).size
  | .setEVSEID _ | .setMeterInfo _ => True

theorem step_inBounds_iff (hBounds : s.InBounds) (call : SetterCall) :
    (s.step call).InBounds ↔ s.Fits call := by
  obtain ⟨hEvse, hMeter, hOptions, hModes, hLists⟩ := hBounds
  cases call with
  | setEVSEID evseId =>
      exact iff_of_true ⟨Destination.setId_inBounds evseId hEvse, hMeter, hOptions, hModes, hLists⟩
        trivial
  | setPaymentOptions paymentOptions =>
      have hStored := Destination.pushAll_inBounds_iff (by decide : 0 < UInt8.size)
        (knownValues paymentOptions) hOptions
      rw [← storeElements_clear] at hStored
      exact ⟨fun hNext => hStored.mp hNext.paymentOptionList,
        fun hFits => ⟨hEvse, hMeter, hStored.mpr hFits, hModes, hLists⟩⟩
  | setSupportedEnergyTransferMode modes =>
      have hStored := Destination.pushAll_inBounds_iff (by decide : 0 < UInt16.size)
        (knownValues modes) hModes
      rw [← storeElements_clear] at hStored
      exact ⟨fun hNext => hStored.mp hNext.energyTransferMode,
        fun hFits => ⟨hEvse, hMeter, hOptions, hStored.mpr hFits, hLists⟩⟩
  | setMeterInfo meterId =>
      refine iff_of_true ⟨hEvse, ?_, hOptions, hModes, hLists⟩ trivial
      cases meterId with
      | none => exact hMeter
      | some meterId => exact Destination.setId_inBounds meterId hMeter
  | configureParameterSet service parameterSetId =>
      have hPush := Destination.push_inBounds_iff UInt16.size parameterSetId (hLists service)
      rw [← configureParameterSet_eq_push parameterSetId (hLists service)] at hPush
      constructor
      · intro hNext
        have hList := hNext.serviceParameterList service
        simp only [step, Function.update_self] at hList
        exact hPush.mp hList
      · intro hFits
        refine ⟨hEvse, hMeter, hOptions, hModes, ?_⟩
        intro other
        by_cases hOther : other = service
        · subst hOther
          simpa only [step, Function.update_self] using hPush.mpr hFits
        · simpa only [step, Function.update_of_ne hOther] using hLists other

/-- All stores of a sequence of calls are inside their arrays, and so is everything that a
response copies in between, exactly if each call fits. -/
theorem setters_inBounds_iff (start : SetterArrays) (calls : List SetterCall)
    (hBounds : start.InBounds) :
    (∀ mid, mid <+: calls → (run step start mid).InBounds) ↔
      EveryStep step Fits start calls := by
  apply forall_prefix_iff_everyStep (fun _ => True) InBounds trivial hBounds
  · intro _ _ _ _ _
    trivial
  · intro state call _ hNow
    exact step_inBounds_iff state hNow call

/-- Empty arrays with room for two payment options. -/
def empty : SetterArrays where
  evseId := ⟨⟨List.replicate 37 0, 0⟩, []⟩
  meterId := ⟨⟨List.replicate 32 0, 0⟩, []⟩
  paymentOptionList := ⟨⟨[.contract, .contract], 0⟩, []⟩
  energyTransferMode := ⟨⟨List.replicate 6 .acSinglePhaseCore, 0⟩, []⟩
  serviceParameterList _ := ⟨⟨[0], 0⟩, []⟩

theorem empty_inBounds : empty.InBounds where
  evseId := ⟨by decide, by decide⟩
  meterId := ⟨by decide, by decide⟩
  paymentOptionList := ⟨by decide, by decide⟩
  energyTransferMode := ⟨by decide, by decide⟩
  serviceParameterList _ := ⟨fun _ hIndex => absurd hIndex List.not_mem_nil, Nat.zero_le _⟩

/-- As many options as there is room for, and one parameter set. -/
def fittingCalls : List SetterCall :=
  [.setPaymentOptions [.known .contract, .known .externalPayment], .configureParameterSet 1 1]

theorem two_options_inBounds : (run step empty fittingCalls).InBounds := by
  have hFits : EveryStep step Fits empty fittingCalls :=
    (everyStep_snoc step Fits empty [_] _).mpr
      ⟨(everyStep_snoc step Fits empty [] _).mpr
        ⟨everyStep_nil step Fits empty, (by decide : min 2 UInt8.size ≤ 2)⟩,
        (by decide : 0 ≠ 1)⟩
  exact (setters_inBounds_iff empty fittingCalls empty_inBounds).mpr hFits _ (List.prefix_refl _)

/-- The third option is stored behind the end, and so is the parameter set after the list is
full. -/
theorem third_option_outOfBounds :
    empty.InBounds ∧
      ¬ (run step empty [.setPaymentOptions
          [.known .contract, .known .externalPayment, .known .contract]]).InBounds ∧
      ¬ (run step empty [.configureParameterSet 1 1, .configureParameterSet 1 2]).InBounds := by
  refine ⟨empty_inBounds, ?_, ?_⟩
  · intro hBounds
    exact absurd hBounds.paymentOptionList.arrayLen (by decide)
  · intro hBounds
    exact absurd (hBounds.serviceParameterList 1).arrayLen (by decide)

end SetterArrays

end EverestCore.V2G
