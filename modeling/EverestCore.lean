import EverestCore.Machine.Runs
import EverestCore.Machine.Bracket
import EverestCore.Machine.PartialRuns
import EverestCore.Machine.Rounds
import EverestCore.Machine.Loops
import EverestCore.Machine.Milestones
import EverestCore.Machine.Parties
import EverestCore.Machine.Mutexes
import EverestCore.Data.RoseTree
import EverestCore.Data.Memory
import EverestCore.Data.Access
import EverestCore.Data.ShiftRegister
import EverestCore.Data.Cobs
import EverestCore.Data.Decimal
import EverestCore.Charger.Basic
import EverestCore.Charger.Operations
import EverestCore.Charger.StateMachine
import EverestCore.Charger.PowerPermission
import EverestCore.Charger.SessionView
import EverestCore.Charger.RunSafety
import EverestCore.Charger.Outputs
import EverestCore.Charger.TurnFrame
import EverestCore.Charger.Latches
import EverestCore.Charger.StateEntry
import EverestCore.Charger.AdvertisedCurrent
import EverestCore.Charger.DutyCycle
import EverestCore.Charger.SoftOverCurrent
import EverestCore.Charger.PilotLine
import EverestCore.V2G.Transport
import EverestCore.V2G.Framing
import EverestCore.V2G.RandomData
import EverestCore.V2G.Context
import EverestCore.V2G.Response
import EverestCore.V2G.DinServer
import EverestCore.V2G.IsoServer
import EverestCore.V2G.Server
import EverestCore.V2G.Teardown
import EverestCore.V2G.Authorization
import EverestCore.V2G.IsoChecks
import EverestCore.V2G.FailedResponses
import EverestCore.V2G.Rejections
import EverestCore.V2G.StateTables
import EverestCore.V2G.Threads
import EverestCore.V2G.Circumstances
import EverestCore.V2G.CableCheck
import EverestCore.V2G.StopCharging
import EverestCore.V2G.EvseData
import EverestCore.V2G.PhysicalValue
import EverestCore.V2G.SetterArrays
import EverestCore.V2G.SessionIsolation
import EverestCore.V2G.DinOrder
import EverestCore.V2G.Handshake
import EverestCore.V2G.ChargingProfile
import EverestCore.Energy.Basic
import EverestCore.Energy.Globals
import EverestCore.Energy.EnergyNode
import EverestCore.Energy.PriceMerge
import EverestCore.Energy.Market
import EverestCore.Energy.MarketTree
import EverestCore.Energy.Broker
import EverestCore.Energy.Optimizer
import EverestCore.Energy.OfferLimits
import EverestCore.Energy.FuseLimits
import EverestCore.Energy.PowerOnly
import EverestCore.Energy.TradingEnd
import EverestCore.Energy.MinimumCurrent
import EverestCore.Energy.LimitPresence
import EverestCore.Energy.Termination
import EverestCore.EvseManager.EnforceLimits
import EverestCore.EvseManager.LimitBounds
import EverestCore.EvseManager.PowerSupply
import EverestCore.EvseManager.CableCheckThread
import EverestCore.EvseManager.EnergyRequest
import EverestCore.Auth.Connector
import EverestCore.Auth.ReservationHandler
import EverestCore.Auth.ReservationFrames
import EverestCore.Auth.ReservationSignals
import EverestCore.Auth.AuthHandler
import EverestCore.Auth.TokenThreads
import EverestCore.Auth.TokenOutcome
import EverestCore.Auth.TokensInProcess
import EverestCore.Auth.StopTransaction
import EverestCore.Auth.AuthorizationTimer
import EverestCore.Auth.PlugInQueue
import EverestCore.Auth.FreeConnector
import EverestCore.Auth.PlugInMutex
import EverestCore.Auth.ReservationAgreement
import EverestCore.Auth.PublishedTokens
import EverestCore.Auth.ListedConnectors
import EverestCore.Slac.Matching
import EverestCore.Slac.Callback
import EverestCore.Slac.StateMachine
import EverestCore.Slac.Timeouts
import EverestCore.Slac.SoundingReports
import EverestCore.Slac.Dispatch
import EverestCore.Slac.StateMethods
import EverestCore.Slac.MatchSequence
import EverestCore.Slac.NetworkKey
import EverestCore.Slac.Isolation
import EverestCore.Firmware.UpdateThreads
import EverestCore.Firmware.UpdateSteps
import EverestCore.Firmware.Exclusion
import EverestCore.Firmware.UpdateChain
import EverestCore.Firmware.InstallTime
import EverestCore.Serial.CobsEncode
import EverestCore.Serial.CobsDecode
import EverestCore.Serial.CobsRoundTrip
import EverestCore.Serial.PacketCrc
import EverestCore.Modbus.Basic
import EverestCore.Modbus.Reply
import EverestCore.Modbus.ReadReply
import EverestCore.Modbus.Requests
import EverestCore.Modbus.Hub
import EverestCore.Modbus.HubReads
import EverestCore.PowermeterBsm.Transport
import EverestCore.PowermeterBsm.SunspecBase
import EverestCore.PowermeterBsm.SunspecModels
import EverestCore.PowermeterBsm.SignedMeterValue
import EverestCore.GenericPowermeter.Registers
import EverestCore.GenericPowermeter.Cycle
import EverestCore.GenericPowermeter.FailedReads
import EverestCore.PersistentStore.Kvs
import EverestCore.Api.SessionInfo
import EverestCore.Pn532.Reader
import EverestCore.Pn532.Division
import EverestCore.Machine.Relay
import EverestCore.Grid.Basic
import EverestCore.Grid.Requests
import EverestCore.Grid.Routing
import EverestCore.Grid.Manager
import EverestCore.Grid.FuseSafety
import EverestCore.Grid.Site
import EverestCore.Grid.Deliveries
import EverestCore.Serial.Link
import EverestCore.V2G.Discovery
import EverestCore.V2G.Sending
import EverestCore.Data.StreamReader
import EverestCore.Data.Varint
import EverestCore.Nanopb.Ostream
import EverestCore.Nanopb.Istream
import EverestCore.Nanopb.Fields
import EverestCore.Nanopb.RoundTrip
import EverestCore.Nanopb.Messages
import EverestCore.Serial.PacketCodec
import EverestCore.Serial.Messages
import EverestCore.Serial.EvSerial
import EverestCore.Serial.MicroMegaWatt
import EverestCore.Serial.ResetThreads
