import MultibusGateway.Library.Execution
import MultibusGateway.Library.Preferences
import MultibusGateway.Library.WrapClock
import MultibusGateway.Library.ByteString
import MultibusGateway.Library.BinaryFloat
import MultibusGateway.Modbus.Channel
import MultibusGateway.Modbus.RtuCodec
import MultibusGateway.Modbus.RegisterValue
import MultibusGateway.Modbus.WriteRead
import MultibusGateway.Time.LocalTime
import MultibusGateway.Rules.State
import MultibusGateway.Rules.Execution
import MultibusGateway.Rules.Lockout
import MultibusGateway.Modbus.Settings
import MultibusGateway.Lorawan.Codec
import MultibusGateway.Lorawan.Uplink
import MultibusGateway.Rules.Schedule
import MultibusGateway.Rules.Acceptance
import MultibusGateway.History.Ring
import MultibusGateway.History.Image
import MultibusGateway.History.Store
import MultibusGateway.History.Journal
import MultibusGateway.Library.Reentrancy
import MultibusGateway.Modbus.RtuMaster
import MultibusGateway.Modbus.Component
import MultibusGateway.Lorawan.ReportScheduler
import MultibusGateway.History.Settings
import MultibusGateway.Core.Stores
import MultibusGateway.Core.State
import MultibusGateway.Core.Commands
import MultibusGateway.Core.Downlinks
import MultibusGateway.Core.Uplinks
import MultibusGateway.Core.Loop
import MultibusGateway.Core.Interleaving
import MultibusGateway.Library.Replay
import MultibusGateway.Core.Replies
import MultibusGateway.Core.Queries
import MultibusGateway.Core.ScheduledActions
import MultibusGateway.Library.Framing
import MultibusGateway.Lorawan.Locality
import MultibusGateway.Core.Parsing
import MultibusGateway.Core.Retransmission
import MultibusGateway.Core.Samples
import MultibusGateway.Lorawan.PeriodicReport
import MultibusGateway.Lorawan.UplinkDecoding
import MultibusGateway.Lorawan.PollReporting
import MultibusGateway.Web.LoginThrottle
import MultibusGateway.Security.SecurityStore
import MultibusGateway.Security.Provisioning
import MultibusGateway.Config.ConfigStore
import MultibusGateway.Web.Administration
import MultibusGateway.Modbus.WriteBalance
import MultibusGateway.Modbus.Bookkeeping
import MultibusGateway.Library.RingQueue
import MultibusGateway.Core.CommandBus
import MultibusGateway.Core.DataSource
import MultibusGateway.Modbus.Configuration
import MultibusGateway.Core.CoreCommands
import MultibusGateway.Core.WriteDelivery
import MultibusGateway.Core.WriteProvenance
import MultibusGateway.Library.KeyedList
import MultibusGateway.Core.Persistence
import MultibusGateway.Core.RoundTrips
import MultibusGateway.Core.ChannelRecords
import MultibusGateway.Core.ChannelPersistence
import MultibusGateway.Core.ConfigurationCommands
import MultibusGateway.Core.Durability
import MultibusGateway.Core.RuleCommands
import MultibusGateway.Core.RuleStatus
import MultibusGateway.Core.RuleDecisions
import MultibusGateway.Core.ThresholdRules
import MultibusGateway.Core.RuleRestart
import MultibusGateway.Core.RuleEnquiry
import MultibusGateway.Services.MqttEvents
import MultibusGateway.Library.Interruption
import MultibusGateway.Core.TimeSaves
import MultibusGateway.Core.MarkerSaves
import MultibusGateway.Web.ConfigurationForms
import MultibusGateway.Library.Separators
import MultibusGateway.Web.CookieGrammar
import MultibusGateway.Web.SessionLifetime
import MultibusGateway.Library.ShiftRegister
import MultibusGateway.Modbus.NoiseBursts
import MultibusGateway.Library.Json
import MultibusGateway.Config.BackupService
import MultibusGateway.Lorawan.StateStore
import MultibusGateway.Library.RetainedMap
import MultibusGateway.Services.MqttProtocol
import MultibusGateway.Services.HomeAssistantDiscovery
import MultibusGateway.Library.Calendar
import MultibusGateway.Time.CivilDays
import MultibusGateway.Library.Switching
import MultibusGateway.Time.DaylightSaving
import MultibusGateway.Library.LastSeen
import MultibusGateway.Core.TimeRules
import MultibusGateway.Rules.LocalMinute
import MultibusGateway.Modbus.WriteEcho
import MultibusGateway.Modbus.ArrivalSplits
import MultibusGateway.Modbus.PassiveFrames
import MultibusGateway.Core.SnapshotDeadline
import MultibusGateway.Modbus.PollDeadline
import MultibusGateway.Library.RoundRobin
import MultibusGateway.Modbus.PollTurns
import MultibusGateway.Core.ChannelNames
import MultibusGateway.Modbus.ValueKinds
import MultibusGateway.Modbus.CachedValues
import MultibusGateway.Core.PointTypes
import MultibusGateway.Library.Selection
import MultibusGateway.Core.QuerySelection
import MultibusGateway.History.RecordDecoding
import MultibusGateway.Library.Latest
import MultibusGateway.History.ImageRoundTrip
import MultibusGateway.History.ImageBursts
import MultibusGateway.Time.CivilMonths
import MultibusGateway.Time.CivilWords
import MultibusGateway.Time.TransitionDays
import MultibusGateway.Web.EventApi
import MultibusGateway.Library.DecimalText
import MultibusGateway.Services.CommandTopics
import MultibusGateway.Services.DiscoverySignature
import MultibusGateway.Lorawan.SettingsEnquiry
import MultibusGateway.Library.Ledger
import MultibusGateway.Core.CommandOrder
import MultibusGateway.Library.Pbkdf2
import MultibusGateway.Security.KeyDerivation
import MultibusGateway.Lorawan.RadioJoins
import MultibusGateway.Lorawan.RadioState
import MultibusGateway.Core.RadioRefinement
import MultibusGateway.Web.BackupRoutes
import MultibusGateway.Services.CommandSubscription
import MultibusGateway.Services.DiscoveredCommands
import MultibusGateway.Services.BoardService
import MultibusGateway.Config.Startup
import MultibusGateway.Services.MqttSession
import MultibusGateway.Web.Outsiders
