import HomeAutomation.Lib.Framing
import HomeAutomation.Lib.Hex
import HomeAutomation.Lib.OrderedMap
import HomeAutomation.Lib.Dict
import HomeAutomation.Lib.Run
import HomeAutomation.Lib.KeyedRuns
import HomeAutomation.Lib.Refinement
import HomeAutomation.Lib.Str
import HomeAutomation.Lib.Trim
import HomeAutomation.Lib.ByteStream
import HomeAutomation.Lib.Word16
import HomeAutomation.Lib.FirstMatch
import HomeAutomation.Lib.BitTrie
import HomeAutomation.Lib.Segments
import HomeAutomation.Lib.Slots
import HomeAutomation.Lib.Crc
import HomeAutomation.Lib.CString
import HomeAutomation.Lib.Codec
import HomeAutomation.Lib.Conversation
import HomeAutomation.Util.Outcome
import HomeAutomation.Util.EventLoop
import HomeAutomation.Util.ConfigFile
import HomeAutomation.Proto.Message
import HomeAutomation.Proto.CommandGrammar
import HomeAutomation.Proto.RoundTrip
import HomeAutomation.Proto.TypedArguments
import HomeAutomation.Proto.MessageFormat
import HomeAutomation.Proto.SocketConnection
import HomeAutomation.Proto.LineFraming
import HomeAutomation.Proto.EndOfConnection
import HomeAutomation.Proto.WriteSide
import HomeAutomation.Proto.PacketLink
import HomeAutomation.Can.CanProto
import HomeAutomation.Can.NodeMap
import HomeAutomation.Can.CanServer
import HomeAutomation.Can.CommandLine
import HomeAutomation.Can.ParserSoundness
import HomeAutomation.Can.Segmentation
import HomeAutomation.Can.ReceiveFifo
import HomeAutomation.Can.ClientSlots
import HomeAutomation.Client.Command
import HomeAutomation.Client.CanNode
import HomeAutomation.Client.Serializer
import HomeAutomation.Client.Dispatcher
import HomeAutomation.Client.QueryCompletion
import HomeAutomation.Client.TimerRelease
import HomeAutomation.Client.SerialNumber
import HomeAutomation.Router.Config
import HomeAutomation.Router.ConfigParser
import HomeAutomation.Router.State
import HomeAutomation.Router.Step
import HomeAutomation.Router.References
import HomeAutomation.Router.Changes
import HomeAutomation.Router.Queue
import HomeAutomation.Router.Networks
import HomeAutomation.Router.Answers
import HomeAutomation.Router.ClientConnection
import HomeAutomation.Router.ConnectionIds
import HomeAutomation.Router.NumericArguments
import HomeAutomation.Router.Lifecycle
import HomeAutomation.Router.Application
import HomeAutomation.Node.State
import HomeAutomation.Node.Functions
import HomeAutomation.Node.Firmware
import HomeAutomation.Node.Effects
import HomeAutomation.Node.Requests
import HomeAutomation.Node.Notices
import HomeAutomation.Node.Assignment
import HomeAutomation.Node.ModuleCalls
import HomeAutomation.Node.RegisterFile
import HomeAutomation.Node.Handling
import HomeAutomation.Node.PowerCycle
import HomeAutomation.Node.Identity
import HomeAutomation.Node.PowerFailure
import HomeAutomation.Node.Sender
import HomeAutomation.Node.Analog
import HomeAutomation.Node.AnalogBookkeeping
import HomeAutomation.Node.Sampling
import HomeAutomation.Node.SwitchOutput
import HomeAutomation.Node.OneWirePort
import HomeAutomation.Node.OffDelay
import HomeAutomation.Node.ButtonLatch
import HomeAutomation.Node.RangeNotification
import HomeAutomation.Node.AcceptanceFilter
import HomeAutomation.OneWire.Session
import HomeAutomation.OneWire.Search
import HomeAutomation.OneWire.Crc
import HomeAutomation.OneWire.Thermometer
import HomeAutomation.OneWire.Masters
import HomeAutomation.OneWire.Devices
import HomeAutomation.OneWire.SearchSlots
import HomeAutomation.OneWire.Measurement
import HomeAutomation.OneWire.Thresholds
import HomeAutomation.Link.DeviceLine
import HomeAutomation.Link.PacketLine
import HomeAutomation.Link.Temperatures
import HomeAutomation.Link.FilterAgreement
import HomeAutomation.Link.ClientSession
import HomeAutomation.Link.CommandDelivery
import HomeAutomation.Link.AddressMap
import HomeAutomation.Link.ReplyPath
import HomeAutomation.Link.ValueDelivery
import HomeAutomation.Link.DeliverySemantics
import HomeAutomation.Link.ReportedNames
import HomeAutomation.Link.Subscriptions
import HomeAutomation.Link.AcceptedConfig
import HomeAutomation.Link.DeviceIds
import HomeAutomation.Link.BusIsolation
import HomeAutomation.Link.BusRegisters
import HomeAutomation.Link.TypedRegisters
import HomeAutomation.Devices.SensorsMonitor
import HomeAutomation.Devices.PeriodicMonitor
