import Smoltcp.Wire.Icmpv4
import Smoltcp.Wire.Icmpv6.Repr
import Smoltcp.Wire.Igmp
import Smoltcp.Wire.Ipv6Options
import Smoltcp.Wire.Tcp
import Smoltcp.Wire.Udp

/-!
# Packets to send

A packet is its IP header and a representation of what it carries.
-/

namespace Smoltcp

inductive IpPayload where
  | icmpv4 (repr : Icmpv4Repr)
  | igmp (repr : IgmpRepr)
  | icmpv6 (repr : Icmpv6Repr)
  | hopByHopIcmpv6 (hbh : Ipv6HopByHopRepr) (repr : Icmpv6Repr)
  | raw (packet : List UInt8)
  | udp (repr : UdpRepr) (payload : List UInt8)
  | tcp (repr : TcpRepr)
  /-- A DHCP message, by its octets. -/
  | dhcpv4 (repr : UdpRepr) (message : List UInt8)

/-- Whether 6LoWPAN has a next header for the payload. -/
def IpPayload.hasSixlowpanNextHeader : IpPayload → Bool
  | .icmpv6 _ => true
  | .tcp _ => true
  | .udp .. => true
  | _ => false

/-- The representation that both IP versions share. -/
def Ipv6Repr.toHeader (repr : Ipv6Repr) : IpHeader 128 :=
  ⟨repr.srcAddr, repr.dstAddr, repr.nextHeader, repr.payloadLen, repr.hopLimit⟩

def Ipv6Repr.ofHeader (header : IpHeader 128) : Ipv6Repr :=
  ⟨header.srcAddr, header.dstAddr, header.nextHeader, header.payloadLen, header.hopLimit⟩

inductive Packet where
  | ipv4 (header : Ipv4.Repr) (payload : IpPayload)
  | ipv6 (header : Ipv6Repr) (payload : IpPayload)

namespace Packet

def new : IpRepr → IpPayload → Packet
  | .ipv4 header, payload => .ipv4 header payload
  | .ipv6 header, payload => .ipv6 (.ofHeader header) payload

def ipRepr : Packet → IpRepr
  | .ipv4 header _ => .ipv4 header
  | .ipv6 header _ => .ipv6 header.toHeader

def payload : Packet → IpPayload
  | .ipv4 _ payload => payload
  | .ipv6 _ payload => payload

def srcAddr (packet : Packet) : IpAddress := packet.ipRepr.srcAddr

def dstAddr (packet : Packet) : IpAddress := packet.ipRepr.dstAddr

/-- The length of the header and the payload. -/
def bufferLen : Packet → ℕ
  | .ipv4 header _ => header.bufferLen + header.payloadLen
  | .ipv6 header _ => header.bufferLen + header.payloadLen

@[simp] lemma dstAddr_ipv4 (header : Ipv4.Repr) (payload : IpPayload) :
    (ipv4 header payload).dstAddr = .ipv4 header.dstAddr := rfl

@[simp] lemma dstAddr_ipv6 (header : Ipv6Repr) (payload : IpPayload) :
    (ipv6 header payload).dstAddr = .ipv6 header.dstAddr := rfl

end Packet

/-- Send back as much of the original payload as will fit within the minimum MTU. -/
def icmpReplyPayloadLen (len mtu headerLen : ℕ) : ℕ := min len (mtu - headerLen * 2 - 8)

def ipv4MinMtu : ℕ := 576

end Smoltcp
