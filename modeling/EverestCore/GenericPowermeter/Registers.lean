import EverestCore.Modbus.HubReads
import Mathlib.Logic.Function.Basic

/-! The configuration of `GenericPowermeter`: what the file of a meter says about its registers,
the numbers that the registers get, and the record of the last values. The arithmetic of `float`
is a parameter. -/
namespace EverestCore.GenericPowermeter

/-- The quantities of `types::powermeter::Powermeter`. -/
inductive Quantity where
  | energyWhImport
  | energyWhExport
  | powerW
  | voltageV
  | var
  | currentA
  | frequencyHz
  deriving DecidableEq

/-- The fields of the records of `types::units`. -/
inductive Field where
  | total
  | dc
  | l1
  | l2
  | l3
  deriving DecidableEq

abbrev Place := Quantity × Field

inductive PowermeterRegisters where
  | energyWhImportTotal
  | energyWhImportL1
  | energyWhImportL2
  | energyWhImportL3
  | energyWhExportTotal
  | energyWhExportL1
  | energyWhExportL2
  | energyWhExportL3
  | powerWTotal
  | powerWL1
  | powerWL2
  | powerWL3
  | voltageVDc
  | voltageVL1
  | voltageVL2
  | voltageVL3
  | reactivePowerVarTotal
  | reactivePowerVarL1
  | reactivePowerVarL2
  | reactivePowerVarL3
  | currentADc
  | currentAL1
  | currentAL2
  | currentAL3
  | frequencyHzL1
  | frequencyHzL2
  | frequencyHzL3
  deriving DecidableEq

namespace PowermeterRegisters

/-- The enumerators in their order. -/
def enumerators : List PowermeterRegisters :=
  [energyWhImportTotal, energyWhImportL1, energyWhImportL2, energyWhImportL3,
    energyWhExportTotal, energyWhExportL1, energyWhExportL2, energyWhExportL3,
    powerWTotal, powerWL1, powerWL2, powerWL3,
    voltageVDc, voltageVL1, voltageVL2, voltageVL3,
    reactivePowerVarTotal, reactivePowerVarL1, reactivePowerVarL2, reactivePowerVarL3,
    currentADc, currentAL1, currentAL2, currentAL3,
    frequencyHzL1, frequencyHzL2, frequencyHzL3]

def numPmRegisters : ℕ := 27

/-- The number of an enumerator. -/
def number (register : PowermeterRegisters) : ℕ := enumerators.idxOf register

/-- The `static_cast` of a number below `NUM_PM_REGISTERS`. -/
def ofNumber (number : ℕ) : PowermeterRegisters := enumerators.getD number energyWhImportTotal

/-- The branches of `init_default_values`. -/
def defaultPlace : PowermeterRegisters → Place
  | energyWhImportTotal => (.energyWhImport, .total)
  | energyWhImportL1 => (.energyWhImport, .l1)
  | energyWhImportL2 => (.energyWhImport, .l2)
  | energyWhImportL3 => (.energyWhImport, .l3)
  | energyWhExportTotal => (.energyWhExport, .total)
  | energyWhExportL1 => (.energyWhExport, .l1)
  | energyWhExportL2 => (.energyWhExport, .l2)
  | energyWhExportL3 => (.energyWhExport, .l3)
  | powerWTotal => (.powerW, .total)
  | powerWL1 => (.powerW, .l1)
  | powerWL2 => (.powerW, .l2)
  | powerWL3 => (.powerW, .l3)
  | voltageVDc => (.voltageV, .dc)
  | voltageVL1 => (.voltageV, .l1)
  | voltageVL2 => (.voltageV, .l2)
  | voltageVL3 => (.voltageV, .l3)
  | reactivePowerVarTotal => (.var, .total)
  | reactivePowerVarL1 => (.var, .l1)
  | reactivePowerVarL2 => (.var, .l2)
  | reactivePowerVarL3 => (.var, .l3)
  | currentADc => (.currentA, .dc)
  | currentAL1 => (.currentA, .l1)
  | currentAL2 => (.currentA, .l2)
  | currentAL3 => (.currentA, .l3)
  | frequencyHzL1 => (.frequencyHz, .l1)
  | frequencyHzL2 => (.frequencyHz, .l2)
  | frequencyHzL3 => (.frequencyHz, .l3)

/-- The branches of `process_response`. -/
def storedPlace : PowermeterRegisters → Place
  | energyWhImportTotal => (.energyWhImport, .total)
  | energyWhImportL1 => (.energyWhImport, .l1)
  | energyWhImportL2 => (.energyWhImport, .l2)
  | energyWhImportL3 => (.energyWhImport, .l3)
  | energyWhExportTotal => (.energyWhExport, .total)
  | energyWhExportL1 => (.energyWhExport, .l1)
  | energyWhExportL2 => (.energyWhExport, .l2)
  | energyWhExportL3 => (.energyWhExport, .l3)
  | powerWTotal => (.powerW, .total)
  | powerWL1 => (.powerW, .l1)
  | powerWL2 => (.powerW, .l2)
  | powerWL3 => (.powerW, .l3)
  | voltageVDc => (.voltageV, .dc)
  | voltageVL1 => (.voltageV, .l1)
  | voltageVL2 => (.voltageV, .l2)
  | voltageVL3 => (.voltageV, .l3)
  | reactivePowerVarTotal => (.var, .total)
  | reactivePowerVarL1 => (.var, .l1)
  | reactivePowerVarL2 => (.var, .l2)
  | reactivePowerVarL3 => (.var, .l3)
  | currentADc => (.currentA, .dc)
  | currentAL1 => (.currentA, .l1)
  | currentAL2 => (.currentA, .l2)
  | currentAL3 => (.currentA, .l3)
  | frequencyHzL1 => (.frequencyHz, .l1)
  | frequencyHzL2 => (.frequencyHz, .l2)
  | frequencyHzL3 => (.frequencyHz, .l3)

/-- The default of a register is stored where its values are. -/
theorem defaultPlace_eq (register : PowermeterRegisters) :
    register.defaultPlace = register.storedPlace := by
  cases register <;> rfl

end PowermeterRegisters

/-- The levels of a quantity in the file: its own registers, and those of the phases. -/
inductive Level where
  | top
  | l1
  | l2
  | l3
  deriving DecidableEq

/-- The field that a level of a quantity is about. The first level of voltage and current is
their DC value, and a frequency has nothing but phases. -/
def place : Quantity → Level → Place
  | .voltageV, .top => (.voltageV, .dc)
  | .currentA, .top => (.currentA, .dc)
  | .frequencyHz, .top => (.frequencyHz, .l1)
  | quantity, .top => (quantity, .total)
  | quantity, .l1 => (quantity, .l1)
  | quantity, .l2 => (quantity, .l2)
  | quantity, .l3 => (quantity, .l3)

inductive ModbusFunctionType where
  | readHoldingRegister
  | readInputRegister
  | registerTypeUndefined
  deriving DecidableEq

/-- The registers of a level in the file. The library throws when the program asks for a key
that is missing or has another type. -/
structure RegisterNode (F : Type) where
  numRegisters : Option ℤ
  startRegister : Option ℤ
  functionCodeStartReg : Option ℤ
  exponentRegister : Option ℤ
  functionCodeExpReg : Option ℤ
  multiplier : Option F

structure SelectorNode (F : Type) extends RegisterNode F where
  sublevels : String → Option (RegisterNode F)

def SelectorNode.atLevel {F : Type} (node : SelectorNode F) : Level → Option (RegisterNode F)
  | .top => some node.toRegisterNode
  | .l1 => node.sublevels "L1"
  | .l2 => node.sublevels "L2"
  | .l3 => node.sublevels "L3"

/-- The file, by the names of the quantities. -/
abbrev LoadedRegisters (F : Type) := String → Option (SelectorNode F)

/-- `RegisterData`, and the place in the file that it is from, which the program does not
record. -/
structure RegisterData (F : Type) where
  origin : Quantity × Level
  multiplier : F
  type : PowermeterRegisters
  startRegister : UInt16
  startRegisterFunction : ModbusFunctionType
  exponentRegister : UInt16
  exponentRegisterFunction : ModbusFunctionType
  numRegisters : UInt16

/-- `select_modbus_function`, which throws on the other codes. -/
def selectModbusFunction (functionCode : UInt8) : Option ModbusFunctionType :=
  if functionCode = 0x03 then some .readHoldingRegister
  else if functionCode = 0x04 then some .readInputRegister
  else none

variable {F : Type}

/-- The data of a level, if nothing throws. -/
def registerData (origin : Quantity × Level) (type : PowermeterRegisters)
    (node : RegisterNode F) : Option (RegisterData F) := do
  let startRegister ← node.startRegister
  let functionCodeStartReg ← node.functionCodeStartReg
  let startRegisterFunction ← selectModbusFunction (.ofInt functionCodeStartReg)
  let numRegisters ← node.numRegisters
  let exponentRegister ← node.exponentRegister
  let functionCodeExpReg ← node.functionCodeExpReg
  let exponentRegisterFunction ← selectModbusFunction (.ofInt functionCodeExpReg)
  let multiplier ← node.multiplier
  some ⟨origin, multiplier, type, .ofInt startRegister, startRegisterFunction,
    .ofInt exponentRegister, exponentRegisterFunction, .ofInt numRegisters⟩

/-- What a level adds to the configuration. -/
def assignLevel (origin : Quantity × Level) (type : PowermeterRegisters)
    (node : RegisterNode F) : Option (List (RegisterData F)) := do
  let numRegisters ← node.numRegisters
  if numRegisters > 0 then (registerData origin type node).map fun data => [data] else some []

/-- `assign_register_sublevel_data` adds an offset to the register type. -/
def levelType (registerType : PowermeterRegisters) : Level → PowermeterRegisters
  | .top => registerType
  | .l1 => .ofNumber ((registerType.number + 1) % PowermeterRegisters.numPmRegisters)
  | .l2 => .ofNumber ((registerType.number + 2) % PowermeterRegisters.numPmRegisters)
  | .l3 => .ofNumber ((registerType.number + 3) % PowermeterRegisters.numPmRegisters)

/-- A step of `assign_register_data`. -/
def assignAt (quantity : Quantity) (registerType : PowermeterRegisters) (node : SelectorNode F)
    (level : Level) : Option (List (RegisterData F)) :=
  match node.atLevel level with
  | none => some []
  | some levelNode => assignLevel (quantity, level) (levelType registerType level) levelNode

/-- The steps up to one that throws. What has been added before stays. -/
def pushUntilThrow : List (Option (List (RegisterData F))) → List (RegisterData F) →
    List (RegisterData F) × ℤ
  | [], pmConfiguration => (pmConfiguration, 0)
  | none :: _, pmConfiguration => (pmConfiguration, -1)
  | some data :: rest, pmConfiguration => pushUntilThrow rest (pmConfiguration ++ data)

/-- A call of `assign_register_data`. -/
structure Selector where
  quantity : Quantity
  registerType : PowermeterRegisters
  registerSelector : String
  deriving DecidableEq

def assignRegisterData (registers : LoadedRegisters F) (selector : Selector)
    (pmConfiguration : List (RegisterData F)) : List (RegisterData F) × ℤ :=
  match registers selector.registerSelector with
  | none => (pmConfiguration, 0)
  | some node =>
      pushUntilThrow ([.top, .l1, .l2, .l3].map
        (assignAt selector.quantity selector.registerType node)) pmConfiguration

/-- The calls in `init_register_assignments`. -/
def selectors : List Selector :=
  [⟨.energyWhImport, .energyWhImportTotal, "energy_Wh_import"⟩,
    ⟨.energyWhExport, .energyWhExportTotal, "energy_Wh_export"⟩,
    ⟨.powerW, .powerWTotal, "power_W"⟩,
    ⟨.voltageV, .voltageVDc, "voltage_V"⟩,
    ⟨.var, .reactivePowerVarTotal, "reactive_power_VAR"⟩,
    ⟨.currentA, .currentADc, "current_A"⟩,
    ⟨.frequencyHz, .frequencyHzL1, "frequency_Hz"⟩]

/-- The calls one after the other, with the sum of their results in eight bits. -/
def assignAll (registers : LoadedRegisters F) : List Selector → List (RegisterData F) → UInt8 →
    List (RegisterData F) × UInt8
  | [], pmConfiguration, failed => (pmConfiguration, failed)
  | selector :: rest, pmConfiguration, failed =>
      let assigned := assignRegisterData registers selector pmConfiguration
      assignAll registers rest assigned.1 (failed + .ofInt assigned.2)

/-- `pm_configuration` after `init_register_assignments`. -/
def pmConfiguration (registers : LoadedRegisters F) : List (RegisterData F) :=
  (assignAll registers selectors [] 0).1

def configLoadedSuccessfully (registers : LoadedRegisters F) : Bool :=
  (assignAll registers selectors [] 0).2 = 0

/-- The record of the last values. A quantity may be missing, and a field that has not been set
has no value. -/
abbrev Powermeter (F : Type) := Quantity → Option (Field → Option F)

namespace Powermeter

/-- The energy from the grid is always part of the record. -/
def empty : Powermeter F := fun quantity =>
  if quantity = .energyWhImport then some fun _ => none else none

def value (record : Powermeter F) (place : Place) : Option F :=
  (record place.1).bind fun fields => fields place.2

/-- A field of a quantity is set, and the quantity is made if it is missing. -/
def store (record : Powermeter F) (place : Place) (value : F) : Powermeter F :=
  Function.update record place.1
    (some (Function.update ((record place.1).getD fun _ => none) place.2 (some value)))

end Powermeter

/-- `init_default_values`, with `0.0f`. -/
def initDefaultValues (zero : F) (pmConfiguration : List (RegisterData F)) : Powermeter F :=
  pmConfiguration.foldl (fun record registerData =>
    record.store registerData.type.defaultPlace zero) Powermeter.empty

namespace Powermeter

variable (record : Powermeter F) (stored : Place) (new : F)

@[simp] theorem value_store_self : (record.store stored new).value stored = some new := by
  simp [store, value]

/-- Storing a value changes no other place. -/
theorem value_store_of_ne {other : Place} (hOther : other ≠ stored) :
    (record.store stored new).value other = record.value other := by
  by_cases hQuantity : other.1 = stored.1
  · have hField : other.2 ≠ stored.2 := fun hField => hOther (Prod.ext hQuantity hField)
    rw [value, value, store, hQuantity, Function.update_self, Option.bind_some,
      Function.update_of_ne hField]
    cases record stored.1 <;> rfl
  · rw [value, value, store, Function.update_of_ne hQuantity]

/-- Storing a value adds its quantity to the record, and removes none. -/
theorem isSome_store (quantity : Quantity) :
    (record.store stored new quantity).isSome ↔
      quantity = stored.1 ∨ (record quantity).isSome := by
  by_cases hQuantity : quantity = stored.1
  · simp [store, hQuantity]
  · simp [store, hQuantity]

end Powermeter

/-- The level has registers in the file. -/
def Configured (registers : LoadedRegisters F) (selector : Selector) (level : Level) : Prop :=
  ∃ node levelNode numRegisters, registers selector.registerSelector = some node ∧
    node.atLevel level = some levelNode ∧ levelNode.numRegisters = some numRegisters ∧
    0 < numRegisters

/-- No function code selects the undefined function. -/
theorem selectModbusFunction_ne_undefined {functionCode : UInt8} :
    selectModbusFunction functionCode ≠ some .registerTypeUndefined := by
  rw [selectModbusFunction]
  split
  · decide
  · split <;> decide

/-- The data of a register know where it came from, and have a function. -/
theorem origin_of_registerData {origin : Quantity × Level} {type : PowermeterRegisters}
    {node : RegisterNode F} {data : RegisterData F}
    (hData : registerData origin type node = some data) :
    data.origin = origin ∧ data.type = type ∧
      data.startRegisterFunction ≠ .registerTypeUndefined := by
  simp only [registerData, Option.bind_eq_bind, Option.bind_eq_some_iff] at hData
  obtain ⟨_, _, _, _, _, hFunction, _, _, _, _, _, _, _, _, _, _, hEq⟩ := hData
  cases hEq
  exact ⟨rfl, rfl, fun hUndefined =>
    selectModbusFunction_ne_undefined (hFunction.trans (congrArg some hUndefined))⟩

/-- What a level adds is from this level, which has registers. -/
theorem assignLevel_eq_some {origin : Quantity × Level} {type : PowermeterRegisters}
    {node : RegisterNode F} {pushed : List (RegisterData F)}
    (hPushed : assignLevel origin type node = some pushed) :
    (∃ numRegisters, node.numRegisters = some numRegisters ∧
      ((0 < numRegisters ∧ ∃ data, pushed = [data] ∧ data.origin = origin ∧ data.type = type ∧
          data.startRegisterFunction ≠ .registerTypeUndefined) ∨
        (¬0 < numRegisters ∧ pushed = []))) := by
  simp only [assignLevel, Option.bind_eq_bind, Option.bind_eq_some_iff] at hPushed
  obtain ⟨numRegisters, hNum, hPushed⟩ := hPushed
  refine ⟨numRegisters, hNum, ?_⟩
  by_cases hPos : numRegisters > 0
  · rw [if_pos hPos] at hPushed
    obtain ⟨data, hData, rfl⟩ := Option.map_eq_some_iff.mp hPushed
    exact Or.inl ⟨hPos, data, rfl, origin_of_registerData hData⟩
  · rw [if_neg hPos] at hPushed
    exact Or.inr ⟨hPos, (Option.some.inj hPushed).symm⟩

/-- The registers after some steps are those from before and those that a step has pushed. -/
theorem mem_pushUntilThrow {steps : List (Option (List (RegisterData F)))}
    {before : List (RegisterData F)} {data : RegisterData F}
    (hData : data ∈ (pushUntilThrow steps before).1) :
    data ∈ before ∨ ∃ pushed, some pushed ∈ steps ∧ data ∈ pushed := by
  induction steps generalizing before with
  | nil => exact Or.inl hData
  | cons step rest ih =>
      cases step with
      | none => exact Or.inl hData
      | some pushed =>
          rcases ih hData with hBefore | ⟨later, hLater, hMem⟩
          · rcases List.mem_append.mp hBefore with hOld | hNew
            · exact Or.inl hOld
            · exact Or.inr ⟨pushed, List.mem_cons_self, hNew⟩
          · exact Or.inr ⟨later, List.mem_cons_of_mem _ hLater, hMem⟩

/-- Registers that have been pushed stay, whatever throws later. -/
theorem subset_pushUntilThrow (steps : List (Option (List (RegisterData F))))
    (before : List (RegisterData F)) : before ⊆ (pushUntilThrow steps before).1 := by
  induction steps generalizing before with
  | nil => exact List.Subset.refl _
  | cons step rest ih =>
      cases step with
      | none => exact List.Subset.refl _
      | some pushed => exact List.Subset.trans (List.subset_append_left _ _) (ih _)

/-- The result is zero if no step throws, and then every step is done. -/
theorem pushUntilThrow_snd (steps : List (Option (List (RegisterData F))))
    (before : List (RegisterData F)) :
    (pushUntilThrow steps before).2 = -1 ∨
      (pushUntilThrow steps before).2 = 0 ∧
        ∀ step ∈ steps, ∃ pushed, step = some pushed ∧
          pushed ⊆ (pushUntilThrow steps before).1 := by
  induction steps generalizing before with
  | nil => exact Or.inr ⟨rfl, fun step hStep => absurd hStep List.not_mem_nil⟩
  | cons step rest ih =>
      cases step with
      | none => exact Or.inl rfl
      | some pushed =>
          refine (ih (before ++ pushed)).imp_right fun ⟨hZero, hRest⟩ => ⟨hZero, ?_⟩
          rintro step (_ | ⟨_, hStep⟩)
          · exact ⟨pushed, rfl, List.Subset.trans (List.subset_append_right _ _)
              (subset_pushUntilThrow rest _)⟩
          · exact hRest step hStep

/-- The data are the ones of a level of the selector. -/
structure IsLevel (registers : LoadedRegisters F) (selector : Selector) (level : Level)
    (data : RegisterData F) : Prop where
  configured : Configured registers selector level
  origin : data.origin = (selector.quantity, level)
  type : data.type = levelType selector.registerType level
  reads : data.startRegisterFunction ≠ .registerTypeUndefined

section Selectors

variable {registers : LoadedRegisters F}

/-- A register after one assignment is one from before, or a level of the selector. -/
theorem mem_assignRegisterData {selector : Selector} {before : List (RegisterData F)}
    {data : RegisterData F} (hData : data ∈ (assignRegisterData registers selector before).1) :
    data ∈ before ∨ ∃ level, IsLevel registers selector level data := by
  rw [assignRegisterData] at hData
  cases hNode : registers selector.registerSelector with
  | none =>
      rw [hNode] at hData
      exact Or.inl hData
  | some node =>
      rw [hNode] at hData
      refine (mem_pushUntilThrow hData).imp_right fun ⟨pushed, hPushed, hMem⟩ => ?_
      obtain ⟨level, _, hLevel⟩ := List.mem_map.mp hPushed
      rw [assignAt] at hLevel
      cases hLevelNode : node.atLevel level with
      | none =>
          rw [hLevelNode] at hLevel
          cases hLevel
          exact absurd hMem List.not_mem_nil
      | some levelNode =>
          rw [hLevelNode] at hLevel
          obtain ⟨numRegisters, hNum, ⟨hPos, added, rfl, hLevelData⟩ | ⟨_, rfl⟩⟩ :=
            assignLevel_eq_some hLevel
          · obtain rfl := List.mem_singleton.mp hMem
            obtain ⟨hOrigin, hType, hReads⟩ := hLevelData
            exact ⟨level, ⟨node, levelNode, numRegisters, hNode, hLevelNode, hNum, hPos⟩, hOrigin,
              hType, hReads⟩
          · exact absurd hMem List.not_mem_nil

/-- An assignment keeps the registers from before. -/
theorem subset_assignRegisterData (selector : Selector) (before : List (RegisterData F)) :
    before ⊆ (assignRegisterData registers selector before).1 := by
  rw [assignRegisterData]
  split
  · exact List.Subset.refl _
  · exact subset_pushUntilThrow _ _

/-- A call that does not fail has the data of every level with registers. -/
theorem assignRegisterData_snd (selector : Selector) (before : List (RegisterData F)) :
    (assignRegisterData registers selector before).2 = -1 ∨
      (assignRegisterData registers selector before).2 = 0 ∧
        ∀ level, Configured registers selector level →
          ∃ data ∈ (assignRegisterData registers selector before).1,
            IsLevel registers selector level data := by
  cases hNode : registers selector.registerSelector with
  | none =>
      refine Or.inr ⟨?_, fun level ⟨node, _, _, hSome, _⟩ => ?_⟩
      · rw [assignRegisterData, hNode]
      · rw [hNode] at hSome
        cases hSome
  | some node =>
      have hAssigned : assignRegisterData registers selector before =
          pushUntilThrow ([.top, .l1, .l2, .l3].map
            (assignAt selector.quantity selector.registerType node)) before := by
        rw [assignRegisterData, hNode]
      rw [hAssigned]
      refine (pushUntilThrow_snd _ before).imp_right fun ⟨hZero, hSteps⟩ => ⟨hZero, ?_⟩
      intro level hConfigured
      have hLevels : level ∈ [Level.top, .l1, .l2, .l3] := by cases level <;> decide
      obtain ⟨pushed, hPushed, hSubset⟩ := hSteps _ (List.mem_map_of_mem hLevels)
      obtain ⟨other, levelNode, numRegisters, hOther, hLevelNode, hNum, hPos⟩ := hConfigured
      cases hNode.symm.trans hOther
      rw [assignAt, hLevelNode] at hPushed
      obtain ⟨otherNum, hOtherNum, ⟨_, data, rfl, hOrigin, hType, hReads⟩ | ⟨hNot, _⟩⟩ :=
        assignLevel_eq_some hPushed
      · exact ⟨data, hSubset List.mem_cons_self,
          ⟨⟨node, levelNode, numRegisters, hNode, hLevelNode, hNum, hPos⟩, hOrigin, hType,
            hReads⟩⟩
      · rw [Option.some.inj (hNum.symm.trans hOtherNum)] at hPos
        exact absurd hPos hNot

/-- A register after all assignments is one from before, or a level of one of the selectors. -/
theorem mem_assignAll {rest : List Selector} {before : List (RegisterData F)} {failed : UInt8}
    {data : RegisterData F} (hData : data ∈ (assignAll registers rest before failed).1) :
    data ∈ before ∨ ∃ selector ∈ rest, ∃ level, IsLevel registers selector level data := by
  induction rest generalizing before failed with
  | nil => exact Or.inl hData
  | cons selector rest ih =>
      rcases ih hData with hAssigned | ⟨later, hLater, hLevel⟩
      · exact (mem_assignRegisterData hAssigned).imp_right fun hLevel =>
          ⟨selector, List.mem_cons_self, hLevel⟩
      · exact Or.inr ⟨later, List.mem_cons_of_mem _ hLater, hLevel⟩

/-- The assignments keep the registers from before. -/
theorem subset_assignAll (rest : List Selector) (before : List (RegisterData F))
    (failed : UInt8) : before ⊆ (assignAll registers rest before failed).1 := by
  induction rest generalizing before failed with
  | nil => exact List.Subset.refl _
  | cons selector rest ih =>
      exact List.Subset.trans (subset_assignRegisterData selector before) (ih _ _)

/-- The loop counts the calls that have failed. Only when none has, the data are complete. -/
theorem assignAll_snd (rest : List Selector) (before : List (RegisterData F)) (failed : UInt8) :
    ∃ failures ≤ rest.length,
      (assignAll registers rest before failed).2 + .ofNat failures = failed ∧
      (failures = 0 → ∀ selector ∈ rest, ∀ level, Configured registers selector level →
        ∃ data ∈ (assignAll registers rest before failed).1,
          IsLevel registers selector level data) := by
  induction rest generalizing before failed with
  | nil =>
      exact ⟨0, Nat.le_refl _, UInt8.add_zero _, fun _ selector hSelector =>
        absurd hSelector List.not_mem_nil⟩
  | cons selector rest ih =>
      obtain ⟨failures, hLe, hSum, hComplete⟩ := ih
        (assignRegisterData registers selector before).1
        (failed + .ofInt (assignRegisterData registers selector before).2)
      rcases @assignRegisterData_snd F registers selector before with
        hFailed | ⟨hZero, hLevels⟩
      · refine ⟨failures + 1, Nat.succ_le_succ hLe, ?_, fun hNone => absurd hNone (by omega)⟩
        rw [hFailed] at hSum
        rw [assignAll, hFailed, UInt8.ofNat_add, ← UInt8.add_assoc, hSum, UInt8.add_assoc]
        exact UInt8.add_zero failed
      · refine ⟨failures, Nat.le_succ_of_le hLe, ?_, fun hNone => ?_⟩
        · rw [hZero] at hSum
          rw [assignAll, hZero, hSum]
          exact UInt8.add_zero failed
        · rintro other (_ | ⟨_, hOther⟩) level hConfigured
          · obtain ⟨data, hData, hLevel⟩ := hLevels level hConfigured
            exact ⟨data, subset_assignAll rest _ _ hData, hLevel⟩
          · exact hComplete hNone other hOther level hConfigured

/-- All data of a loaded configuration are from its file. -/
theorem mem_pmConfiguration {data : RegisterData F} (hData : data ∈ pmConfiguration registers) :
    ∃ selector ∈ selectors, ∃ level, IsLevel registers selector level data :=
  (mem_assignAll hData).resolve_left List.not_mem_nil

/-- A configuration that is loaded has all data of its file. -/
theorem exists_mem_pmConfiguration (hLoaded : configLoadedSuccessfully registers)
    {selector : Selector} (hSelector : selector ∈ selectors) {level : Level}
    (hConfigured : Configured registers selector level) :
    ∃ data ∈ pmConfiguration registers, IsLevel registers selector level data := by
  obtain ⟨failures, hLe, hSum, hComplete⟩ := @assignAll_snd F registers selectors [] 0
  have hFailed : (assignAll registers selectors [] 0).2 = 0 := of_decide_eq_true hLoaded
  have hNone : failures = 0 := by
    rw [hFailed, UInt8.zero_add] at hSum
    have hMod := congrArg UInt8.toNat hSum
    have hSeven : selectors.length = 7 := rfl
    rw [UInt8.toNat_ofNat', UInt8.toNat_zero] at hMod
    omega
  exact hComplete hNone selector hSelector level hConfigured

end Selectors

/-- The selector of the one quantity whose registers start with a phase. -/
def frequencySelector : Selector := ⟨.frequencyHz, .frequencyHzL1, "frequency_Hz"⟩

/-- Only one selector has the quantity of the frequency. -/
theorem eq_frequencySelector : ∀ selector ∈ selectors, selector.quantity = .frequencyHz →
    selector = frequencySelector := by
  decide

/-- The numbers lead to the right fields, except for the phases of the frequency. -/
theorem storedPlace_levelType {selector : Selector} (hSelector : selector ∈ selectors)
    (level : Level) :
    (levelType selector.registerType level).storedPlace = place selector.quantity level ↔
      ¬(selector.quantity = .frequencyHz ∧ level ≠ .top) := by
  revert selector
  cases level <;> decide

/-- `init_default_values` makes every quantity that is configured. -/
theorem isSome_initDefaultValues (zero : F) {data : List (RegisterData F)}
    {registerData : RegisterData F} (hData : registerData ∈ data) :
    (initDefaultValues zero data registerData.type.storedPlace.1).isSome := by
  rw [← PowermeterRegisters.defaultPlace_eq, initDefaultValues]
  generalize (Powermeter.empty : Powermeter F) = record
  have hKeeps : ∀ (rest : List (RegisterData F)) (record : Powermeter F) (quantity : Quantity),
      (record quantity).isSome → (rest.foldl (fun record registerData =>
        record.store registerData.type.defaultPlace zero) record quantity).isSome := by
    intro rest
    induction rest with
    | nil => exact fun _ _ hSome => hSome
    | cons first rest ih =>
        exact fun record quantity hSome =>
          ih _ _ ((Powermeter.isSome_store _ _ _ quantity).mpr (Or.inr hSome))
  induction data generalizing record with
  | nil => exact absurd hData List.not_mem_nil
  | cons first rest ih =>
      rcases List.mem_cons.mp hData with rfl | hRest
      · exact hKeeps rest _ _ ((Powermeter.isSome_store _ _ _ _).mpr (Or.inl rfl))
      · exact ih hRest _

end EverestCore.GenericPowermeter
