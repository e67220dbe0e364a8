import GeSensor.Foundation.Checked
import GeSensor.Foundation.ByteReads
import GeSensor.Foundation.Ber
import GeSensor.Foundation.Vec
import GeSensor.Foundation.FitSuffix
import GeSensor.Foundation.Reachable
import GeSensor.Foundation.Linearizable
import GeSensor.Foundation.LockOrder
import GeSensor.Foundation.HashMap
import GeSensor.Foundation.Totals
import GeSensor.Foundation.RecentItems
import GeSensor.Foundation.LeastRecent
import GeSensor.Foundation.Sessions
import GeSensor.Foundation.Orbit
import GeSensor.Foundation.Text
import GeSensor.Foundation.Transactions
import GeSensor.Foundation.Channel
import GeSensor.Foundation.TextSearch
import GeSensor.Foundation.Exposition
import GeSensor.Foundation.TaggedFields
import GeSensor.Foundation.Utf8Lossy
import GeSensor.Foundation.PercentEncoding
import GeSensor.Foundation.HttpMessage
import GeSensor.Foundation.Json
import GeSensor.Foundation.Pcap
import GeSensor.Net.IpAddr
import GeSensor.Net.AddrText
import GeSensor.Net.AddrDisplay
import GeSensor.Net.Frame
import GeSensor.Net.Wire
import GeSensor.Net.DnsWire
import GeSensor.Net.ClientHello
import GeSensor.Net.BacnetWire
import GeSensor.Net.NetflowWire
import GeSensor.Net.SnmpWire
import GeSensor.PcapStore.RingBuffer
import GeSensor.PcapStore.RingRuns
import GeSensor.PcapStore.PcapFile
import GeSensor.Flow.Key
import GeSensor.Flow.Tracker
import GeSensor.Flow.Accounting
import GeSensor.Flow.PacketCounts
import GeSensor.Flow.Capacity
import GeSensor.Flow.Timing
import GeSensor.Flow.Recency
import GeSensor.Dissectors.Metadata
import GeSensor.Dissectors.Network
import GeSensor.Dissectors.Transport
import GeSensor.Dissectors.Dns
import GeSensor.Dissectors.Http
import GeSensor.Dissectors.Tls
import GeSensor.Dissectors.Ot
import GeSensor.Dissectors.Packet
import GeSensor.Dissectors.Vlan
import GeSensor.Dissectors.Padding
import GeSensor.Dissectors.RoundTrip
import GeSensor.Dissectors.IpHeaders
import GeSensor.Dissectors.PayloadRange
import GeSensor.Dissectors.Snapping
import GeSensor.Dissectors.HttpLines
import GeSensor.Dissectors.HttpBody
import GeSensor.Dissectors.HttpFirstLine
import GeSensor.Dissectors.HttpRequests
import GeSensor.Dissectors.DnsNames
import GeSensor.Dissectors.DnsPointers
import GeSensor.Dissectors.DnsGrammar
import GeSensor.Dissectors.TlsNames
import GeSensor.Dissectors.SniBounds
import GeSensor.Dissectors.Dnp3Layout
import GeSensor.Dissectors.BacnetLayout
import GeSensor.Dissectors.Direction
import GeSensor.Ips.Engine
import GeSensor.Ips.TapMode
import GeSensor.Ips.Reference
import GeSensor.Ips.Counters
import GeSensor.Pipeline.InterfaceSwitch
import GeSensor.Pipeline.SwitchLatency
import GeSensor.Pipeline.Capture
import GeSensor.Pipeline.Inspection
import GeSensor.Pipeline.Toggles
import GeSensor.Pipeline.OtPath
import GeSensor.Pipeline.DnsPath
import GeSensor.Pipeline.FlagAlerts
import GeSensor.Pipeline.OtRules
import GeSensor.Dashboard.PacketsTab
import GeSensor.Pipeline.Monitor
import GeSensor.Pipeline.Interleaved
import GeSensor.Pipeline.Pages
import GeSensor.Dashboard.IpsView
import GeSensor.Dashboard.SensorState
import GeSensor.Pipeline.StatusPage
import GeSensor.Dashboard.FlowDetails
import GeSensor.Pipeline.FlowsPage
import GeSensor.Dashboard.IpsModeSwitch
import GeSensor.Dashboard.NewRule
import GeSensor.Dashboard.RuleApi
import GeSensor.Dashboard.RuleHits
import GeSensor.Dashboard.RuleSummary
import GeSensor.Dashboard.RulesPage
import GeSensor.Dashboard.RuleCriteria
import GeSensor.Dashboard.Locks
import GeSensor.Dashboard.Captures
import GeSensor.Dashboard.CaptureIndex
import GeSensor.Dashboard.CaptureFailures
import GeSensor.Dashboard.CaptureRestarts
import GeSensor.Dashboard.CapturedPackets
import GeSensor.Pipeline.AlertEvidence
import GeSensor.Startup.Config
import GeSensor.Startup.DefaultAction
import GeSensor.Output.DeadLetter
import GeSensor.Output.DeadLetterFiles
import GeSensor.Output.DeadLetterLimit
import GeSensor.Output.CircuitBreaker
import GeSensor.Output.SequenceNumbers
import GeSensor.Server.Routes
import GeSensor.Server.Request
import GeSensor.Server.Received
import GeSensor.Server.Dispatch
import GeSensor.Server.EncodedValues
import GeSensor.Server.Responses
import GeSensor.Server.Frames
import GeSensor.Server.JsonAnswers
import GeSensor.Server.Framing
import GeSensor.Server.Downloads
import GeSensor.Server.DissectorSwitches
import GeSensor.Server.Segmentation
import GeSensor.Inputs.Netflow
import GeSensor.Inputs.SnmpTrap
import GeSensor.Inputs.SnmpMessages
import GeSensor.Inputs.Syslog
import GeSensor.Inputs.SyslogHeaders
import GeSensor.Inputs.Receivers
