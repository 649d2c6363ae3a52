import Smoltcp.Lib.Serial
import Smoltcp.Lib.Transition
import Smoltcp.Storage.Reassembly
import Smoltcp.Storage.Assembler.Refinement
import Smoltcp.Storage.RingBuffer.Refinement
import Smoltcp.Storage.PacketBuffer.Refinement
import Smoltcp.Time
import Smoltcp.Wire.Ip
import Smoltcp.Wire.Tcp
import Smoltcp.Wire.Integrity
import Smoltcp.Wire.TcpRoundTrip
import Smoltcp.Wire.SackAccessors
import Smoltcp.Storage.Assembler.Front
import Smoltcp.Storage.PacketBuffer.Emptiness
import Smoltcp.Wire.Sixlowpan.UdpNhc
import Smoltcp.Wire.Sixlowpan.Iphc
import Smoltcp.Socket.Tcp.Receive
import Smoltcp.Socket.Tcp.Link
import Smoltcp.Socket.Tcp.PollAt
import Smoltcp.Socket.Tcp.Progress
import Smoltcp.Socket.Tcp.Highest
import Smoltcp.Socket.Tcp.Window
import Smoltcp.Socket.Tcp.Nagle
import Smoltcp.Socket.Tcp.Discards
import Smoltcp.Socket.Tcp.Sack
import Smoltcp.Socket.Tcp.Armed
import Smoltcp.Socket.Tcp.TimeWait
import Smoltcp.Socket.Tcp.Measurement
import Smoltcp.Socket.Tcp.Rtt
import Smoltcp.Socket.Dhcpv4.Runs
import Smoltcp.Socket.Dns.Answers
import Smoltcp.Iface.Egress
import Smoltcp.Iface.RoundTrip
import Smoltcp.Iface.Sixlowpan.Process
import Smoltcp.Iface.Sixlowpan.Slots
import Smoltcp.Iface.Reporting
import Smoltcp.Iface.Filter
import Smoltcp.Iface.RawFilter
import Smoltcp.Iface.Quotes
import Smoltcp.Iface.Neighbor.History
import Smoltcp.Iface.Routing
import Smoltcp.Iface.SourceAddress
import Smoltcp.Iface.HopByHop
import Smoltcp.Iface.SolicitedNode
import Smoltcp.Socket.Dhcpv4.PollAt
import Smoltcp.Wire.DhcpRoundTrip
import Smoltcp.Socket.Udp.Delivery
import Smoltcp.Socket.Dns.Dispatch
import Smoltcp.Wire.Icmpv6.NdiscRoundTrip
import Smoltcp.Iface.Rpl.Parents
import Smoltcp.Iface.Rpl.Trickle
import Smoltcp.Iface.Hosts
import Smoltcp.Lib.Bits
import Smoltcp.Parsers.Display
import Smoltcp.Wire.Icmpv6.Rpl
import Smoltcp.Wire.Icmpv6.RplOptions
import Smoltcp.Wire.Ieee802154.Frame
import Smoltcp.Wire.Ieee802154.Header
import Smoltcp.Lib.Span
import Smoltcp.Lib.LongestRun
import Smoltcp.Lib.Duplex
import Smoltcp.Wire.Dns.Decompression
