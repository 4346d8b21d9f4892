import SmppGateway.Foundation.Table
import SmppGateway.Foundation.Text
import SmppGateway.Foundation.Ledger
import SmppGateway.Foundation.LongestPrefix
import SmppGateway.Foundation.Run
import SmppGateway.Foundation.RoundRobin
import SmppGateway.Foundation.Numeral
import SmppGateway.Foundation.Splitting
import SmppGateway.Foundation.StringStream
import SmppGateway.Foundation.RateLimit
import SmppGateway.Foundation.Custody
import SmppGateway.Routing.BitSet
import SmppGateway.Routing.BitEnumeration
import SmppGateway.Routing.TrieMatcher
import SmppGateway.Routing.TrieEntries
import SmppGateway.Routing.PrefixRuleMatcher
import SmppGateway.Routing.ShiftAnd
import SmppGateway.Routing.RejectedRule
import SmppGateway.Routing.RoutingMatcher
import SmppGateway.Routing.RouteTable
import SmppGateway.Routing.Target
import SmppGateway.Routing.Capacity
import SmppGateway.Routing.RouteMapper
import SmppGateway.Routing.RouteCalls
import SmppGateway.Foundation.BigEndian
import SmppGateway.Foundation.FieldCodec
import SmppGateway.Smpp.Serialization
import SmppGateway.Smpp.Param
import SmppGateway.Smpp.Pdu
import SmppGateway.Foundation.PrefixCode
import SmppGateway.Net.FlatBuffer
import SmppGateway.Net.BoundedQueue
import SmppGateway.Net.Framing
import SmppGateway.Smpp.Header
import SmppGateway.Pinex.Header
import SmppGateway.Net.Progress
import SmppGateway.Net.Session
import SmppGateway.Net.Receiving
import SmppGateway.Net.Delivery
import SmppGateway.Net.Sending
import SmppGateway.Smpp.Session
import SmppGateway.Smpp.ShortMessage
import SmppGateway.Smpp.UnicodeConverter
import SmppGateway.Smpp.Concatenation
import SmppGateway.Smpp.TimeDecoder
import SmppGateway.Smpp.Stream
import SmppGateway.Smpp.LifeCycle
import SmppGateway.Pinex.Session
import SmppGateway.Net.Overflow
import SmppGateway.Net.Calling
import SmppGateway.Net.LifeCycle
import SmppGateway.Net.Expirator
import SmppGateway.Net.TimerWheel
import SmppGateway.Pinex.PClient
import SmppGateway.Pinex.Registry
import SmppGateway.Routing.Router
import SmppGateway.Routing.Selection
import SmppGateway.Gateway.Connections
import SmppGateway.Gateway.FlowControl
import SmppGateway.Gateway.DeliverSm
import SmppGateway.Gateway.DeliveryStatus
import SmppGateway.Gateway.Loopback
import SmppGateway.Gateway.DeliverCorrelation
import SmppGateway.Gateway.Outstanding
import SmppGateway.Gateway.BindLimit
import SmppGateway.Gateway.BindGate
import SmppGateway.Gateway.CreditSettlement
import SmppGateway.Gateway.FlowTimes
import SmppGateway.Gateway.EmptyQueue
import SmppGateway.Gateway.LimitCredit
import SmppGateway.Gateway.CreditRate
import SmppGateway.Gateway.SubmitPath
import SmppGateway.Gateway.LoadBalance
import SmppGateway.Gateway.SubmitEncoding
import SmppGateway.Gateway.DeliverResponse
import SmppGateway.Gateway.PolicyRequest
import SmppGateway.Gateway.SequenceWrap
import SmppGateway.Gateway.Correspondence
import SmppGateway.Gateway.SingleAnswer
import SmppGateway.Gateway.Stranded
import SmppGateway.Logging.FileNameFormat
import SmppGateway.Logging.SegmentedLogger
import SmppGateway.Logging.SgwLogger
import SmppGateway.Logging.MessageTracer
import SmppGateway.Gateway.SendQueue
import SmppGateway.Gateway.DeliverAccount
import SmppGateway.Gateway.Dispatch
import SmppGateway.Net.Pausing
import SmppGateway.Gateway.BackPressure
import SmppGateway.Routing.RoutingList
import SmppGateway.Gateway.Reconnect
import SmppGateway.Smpp.KeepAlive
import SmppGateway.Foundation.Family
import SmppGateway.Net.HandOver
import SmppGateway.Net.Link
import SmppGateway.Smpp.Exchange
import SmppGateway.Pinex.Exchange
import SmppGateway.Gateway.ConnectionEvents
import SmppGateway.Gateway.Server
import SmppGateway.Gateway.CallRecords
