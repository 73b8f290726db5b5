import EverestCore.V2G.Circumstances

/-! The data of the EVSE that the servers only pass on to the car: its id, its limits, the
readings of the meter, and the flags that say which limits the car has reached. No check of
a request depends on it, so it stands beside the server. Numbers are rational where the
source has floating point. -/
namespace EverestCore.V2G

/-- How many characters the messages have for the two ids. -/
structure CharacterSizes where
  evseId : ℕ
  meterId : ℕ

/-- The conversion of a floating point number to an integer. -/
def truncate (number : ℚ) : ℤ := number.num.tdiv number.den

def int16Max : ℤ := 32767

def int16Min : ℤ := -32768

/-- A value that does not fit into 16 bits is divided by ten, and its multiplier grows. -/
def scaleDown : ℕ → PhysicalValue → PhysicalValue
  | 0, physical => physical
  | fuel + 1, physical =>
      if int16Max < physical.value ∨ physical.value < int16Min then
        scaleDown fuel ⟨physical.multiplier + 1, physical.value.tdiv 10⟩
      else physical

/-- `populate_physical_value`. A value out of range is ignored. -/
def populatePhysicalValue (old : PhysicalValue) (value : ℤ) : PhysicalValue :=
  let scaled := scaleDown value.natAbs ⟨0, value⟩
  if scaled.multiplier < -3 ∨ 3 < scaled.multiplier then old else scaled

/-- `populate_physical_value_float` with one decimal place, which is how it is called. What
does not fit into 16 bits wraps around. -/
def populatePhysicalValueFloat (old : PhysicalValue) (value : ℚ) : PhysicalValue :=
  let scaled := scaleDown (truncate value).natAbs ⟨0, truncate value⟩
  if scaled.multiplier < -3 ∨ 3 < scaled.multiplier then old
  else if scaled.multiplier = 0 ∧ truncate (value * 10) < int16Max ∧
      int16Min < truncate (value * 10) then ⟨-1, truncate (value * 10)⟩
  else ⟨scaled.multiplier, (truncate value).bmod 65536⟩

/-- A value with its `_is_used`. -/
structure OptionalValue where
  physical : PhysicalValue := ⟨0, 0⟩
  isUsed : Bool := false
  deriving DecidableEq, Repr

def OptionalValue.populate (old : OptionalValue) (value : ℚ) : OptionalValue :=
  ⟨populatePhysicalValue old.physical (truncate value), true⟩

/-- The limit is in use, and the number reaches it. -/
def OptionalValue.reachedBy (limit : OptionalValue) (number : ℚ) : Bool :=
  limit.isUsed && calcPhysicalValue limit.physical ≤ number

/-- `evse_current_limit_achieved` and the like. -/
structure LimitsAchieved where
  current : Bool := false
  power : Bool := false
  voltage : Bool := false
  deriving DecidableEq, Repr

/-- The rest of `v2g_context`. The reading of the meter is there while
`meter_info_is_used` is set. -/
structure EvseData where
  evseAcCurrentLimit : ℚ := 0
  meterReading : Option ℕ := none
  meterId : List UInt8 := []
  evseId : List UInt8
  freeService : Bool := false
  rcd : Bool := false
  evseCurrentRegulationTolerance : OptionalValue := {}
  evseEnergyToBeDelivered : OptionalValue := {}
  evseMaximumCurrentLimit : OptionalValue := {}
  evseMaximumPowerLimit : OptionalValue := {}
  evseMaximumVoltageLimit : OptionalValue := {}
  limitsAchieved : LimitsAchieved := {}
  evseMinimumCurrentLimit : PhysicalValue := ⟨0, 0⟩
  evseMinimumVoltageLimit : PhysicalValue := ⟨0, 0⟩
  evsePeakCurrentRipple : PhysicalValue := ⟨0, 0⟩
  evsePresentVoltage : PhysicalValue := ⟨0, 0⟩
  evsePresentCurrent : PhysicalValue := ⟨0, 0⟩
  evseNominalVoltage : PhysicalValue := ⟨0, 0⟩
  -- The first entry of the schedule on offer.
  pMax : PhysicalValue := ⟨0, 0⟩
  duration : ℕ := 0
  deriving DecidableEq, Repr

/-- The commands that write this data. -/
inductive EvseValue where
  | setEVSEID (evseId : List UInt8)
  | setACEVSENominalVoltage (voltage : ℚ)
  | setDCEVSECurrentRegulationTolerance (tolerance : ℚ)
  | setDCEVSEPeakCurrentRipple (ripple : ℚ)
  | setFreeService (freeService : Bool)
  | setEVSEEnergyToBeDelivered (energy : ℚ)
  | setRCDError (rcd : Bool)
  | setDCEVSEPresentVoltageCurrent (voltage current : ℚ)
  | setACEVSEMaxCurrent (current : ℚ)
  | setDCEVSEMaximumLimits (current power voltage : ℚ)
  | setDCEVSEMinimumLimits (current voltage : ℚ)
  | setMeterInfo (total : ℚ) (meterId : Option (List UInt8))
  deriving DecidableEq, Repr

/-- The length of an id is counted in eight bits, and must be smaller than its size. -/
def fittingId (size : ℕ) (text : List UInt8) : Option (List UInt8) :=
  if text.length % UInt8.size < size then some (text.take (text.length % UInt8.size)) else none

theorem fittingId_length {size : ℕ} {text id : List UInt8} (hId : fittingId size text = some id) :
    id.length < size := by
  unfold fittingId at hId
  split at hId
  · next hSize =>
      cases hId
      rw [List.length_take]
      omega
  · cases hId

namespace EvseData

/-- The data after `v2g_ctx_create`. -/
def create : EvseData where
  evseId := "DE*CBY*ETE1*234".toList.map fun character => character.val.toUInt8

/-- What `v2g_ctx_init_charging_values` resets, from the second call on. -/
def initChargingValues (data : EvseData) : EvseData :=
  { data with
    meterReading := none
    rcd := false
    evsePresentVoltage := ⟨0, 0⟩
    evsePresentCurrent := ⟨0, 0⟩
    pMax := ⟨0, 0⟩
    duration := 0 }

/-- The command handlers of `ISO15118_chargerImpl` for this data. -/
def supply (sizes : CharacterSizes) (data : EvseData) : EvseValue → EvseData
  | .setEVSEID evseId => { data with evseId := (fittingId sizes.evseId evseId).getD data.evseId }
  | .setACEVSENominalVoltage voltage =>
      { data with
        evseNominalVoltage := populatePhysicalValue data.evseNominalVoltage (truncate voltage) }
  | .setDCEVSECurrentRegulationTolerance tolerance =>
      { data with
        evseCurrentRegulationTolerance := data.evseCurrentRegulationTolerance.populate tolerance }
  | .setDCEVSEPeakCurrentRipple ripple =>
      { data with
        evsePeakCurrentRipple := populatePhysicalValue data.evsePeakCurrentRipple (truncate ripple) }
  | .setFreeService freeService => { data with freeService := freeService }
  | .setEVSEEnergyToBeDelivered energy =>
      { data with evseEnergyToBeDelivered := data.evseEnergyToBeDelivered.populate energy }
  | .setRCDError rcd => { data with rcd := rcd }
  | .setDCEVSEPresentVoltageCurrent voltage current =>
      { data with
        evsePresentVoltage := populatePhysicalValueFloat data.evsePresentVoltage voltage
        evsePresentCurrent := populatePhysicalValueFloat data.evsePresentCurrent current }
  | .setACEVSEMaxCurrent current => { data with evseAcCurrentLimit := current }
  | .setDCEVSEMaximumLimits current power voltage =>
      { data with
        evseMaximumCurrentLimit := data.evseMaximumCurrentLimit.populate current
        evseMaximumPowerLimit := data.evseMaximumPowerLimit.populate power
        evseMaximumVoltageLimit := data.evseMaximumVoltageLimit.populate voltage }
  | .setDCEVSEMinimumLimits current voltage =>
      { data with
        evseMinimumCurrentLimit :=
          populatePhysicalValue data.evseMinimumCurrentLimit (truncate current)
        evseMinimumVoltageLimit :=
          populatePhysicalValue data.evseMinimumVoltageLimit (truncate voltage) }
  | .setMeterInfo total meterId =>
      { data with
        meterReading := some (truncate total).toNat
        meterId := (meterId.bind (fittingId sizes.meterId)).getD data.meterId }

def supplies (sizes : CharacterSizes) (data : EvseData) (arriving : List EvseValue) : EvseData :=
  arriving.foldl (supply sizes) data

/-- The limits that the targets of the car reach. -/
def reached (data : EvseData) (evTargetVoltage evTargetCurrent : PhysicalValue) :
    LimitsAchieved where
  current := data.evseMaximumCurrentLimit.reachedBy (calcPhysicalValue evTargetCurrent)
  power := data.evseMaximumPowerLimit.reachedBy
    (calcPhysicalValue evTargetCurrent * calcPhysicalValue evTargetVoltage)
  voltage := data.evseMaximumVoltageLimit.reachedBy (calcPhysicalValue evTargetVoltage)

/-- `SA_SCHEDULE_DURATION`. -/
def saScheduleDuration : ℕ := 86400

/-- The power that the schedule on offer allows. -/
def schedulePower (data : EvseData) (isDcCharger : Bool) (requestedMode : EnergyTransferMode) :
    PhysicalValue :=
  if isDcCharger then data.evseMaximumPowerLimit.physical
  else
    let nominal := truncate (calcPhysicalValue data.evseNominalVoltage)
    let phases := if requestedMode = .acSinglePhaseCore then 1 else 3
    populatePhysicalValue data.pMax (truncate (data.evseAcCurrentLimit * nominal * phases))

/-- What the ISO handlers write. They write before the response is validated. -/
def isoHandle (ctx : V2gContext) (data : EvseData) : IsoBody → EvseData
  | .currentDemand evTargetVoltage evTargetCurrent =>
      { data with
        meterReading := none
        limitsAchieved := data.reached evTargetVoltage evTargetCurrent }
  | .chargingStatus => { data with meterReading := none }
  | .chargeParameterDiscovery requestedMode _ _ =>
      if ctx.evseProcessing .parameter = .finished then
        { data with
          pMax := data.schedulePower ctx.isDcCharger requestedMode
          duration := saScheduleDuration }
      else data
  | _ => data

/-- The DIN handlers only read. -/
def handle (ctx : V2gContext) (data : EvseData) : V2gRequest → EvseData
  | .din _ => data
  | .iso request => if request.v2gMessageIsUsed then data.isoHandle ctx request.body else data

end EvseData

/-- The connection was torn down. -/
def Entry.isTeardown : Entry → Bool
  | .refused _ => true
  | .closed _ _ => true
  | _ => false

namespace Server

def teardowns (s : Server) : ℕ := s.history.countP Entry.isTeardown

/-- The request that an input hands to its handler, and what is around it. -/
def handles (s : Server) : Input → Option (V2gRequest × Surroundings)
  | .receive (.request request around _) =>
      if s.stage = .serving request.protocol then some (request, around) else none
  | _ => none

end Server

/-- The server with all data of the EVSE. -/
structure Station where
  server : Server
  data : EvseData

inductive StationInput where
  | server (input : Input)
  | supply (value : EvseValue)
  deriving DecidableEq, Repr

namespace Station

def start (config : Config) : Station := ⟨Server.start config, EvseData.create⟩

/-- The data follows the server: a handler writes it, and a teardown resets it. -/
def step (sizes : CharacterSizes) (s : Station) : StationInput → Station
  | .server input =>
      let handled := match s.server.handles input with
        | some (request, _) => s.data.handle s.server.ctx request
        | none => s.data
      let next := s.server.step input
      ⟨next, if s.server.teardowns < next.teardowns then handled.initChargingValues else handled⟩
  | .supply value => { s with data := s.data.supply sizes value }

/-- What `connection_teardown` leaves of the context. -/
def teardown (s : Station) : V2gContext × EvseData :=
  ((connectionTeardown s.server.ctx).1, s.data.initChargingValues)

end Station

end EverestCore.V2G
