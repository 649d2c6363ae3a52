import Smoltcp.Phy
import Smoltcp.Socket.Queue
import Smoltcp.Wire.Ipv4
import Smoltcp.Wire.Ipv6

/-!
# Raw sockets

A raw socket may be bound to a version of IP and to a protocol. It receives and sends whole packets,
with their IP header.
-/

namespace Smoltcp

open Outcome

/-- The header in front of a payload, as octets. -/
def IpRepr.headerOctets (checksum : ChecksumCapabilities) : IpRepr → List UInt8
  | .ipv4 repr => Ipv4.Repr.emit checksum.ipv4.computes repr (List.replicate ipv4HeaderLen 0)
  | .ipv6 repr =>
    Ipv6Repr.octets ⟨repr.srcAddr, repr.dstAddr, repr.nextHeader, repr.payloadLen, repr.hopLimit⟩

def IpRepr.version : IpRepr → IpVersion
  | .ipv4 _ => .ipv4
  | .ipv6 _ => .ipv6

def IpRepr.nextHeader : IpRepr → IpProtocol
  | .ipv4 repr => repr.nextHeader
  | .ipv6 repr => repr.nextHeader

def IpRepr.payloadLen : IpRepr → ℕ
  | .ipv4 repr => repr.payloadLen
  | .ipv6 repr => repr.payloadLen

/-- The version in the first octet of a packet. -/
def IpVersion.ofPacket (data : List UInt8) : Except WireError IpVersion :=
  if data.length = 0 then .error .mk
  else if Octets.get data 0 >>> 4 = 4 then .ok .ipv4
  else if Octets.get data 0 >>> 4 = 6 then .ok .ipv6
  else .error .mk

namespace Raw

structure Socket where
  ipVersion : Option IpVersion
  ipProtocol : Option IpProtocol
  rxBuffer : PacketBuffer Unit
  txBuffer : PacketBuffer Unit

namespace Socket

variable (s : Socket) (checksum : ChecksumCapabilities)

def new (ipVersion : Option IpVersion) (ipProtocol : Option IpProtocol)
    (rxBuffer txBuffer : PacketBuffer Unit) : Socket :=
  ⟨ipVersion, ipProtocol, rxBuffer, txBuffer⟩

/-- Enqueue a packet to send. -/
def sendSlice (data : List UInt8) : Checked (Socket × Except Storage.Full Unit) := do
  let (txBuffer, r) ← s.txBuffer.enqueue data.length () (Writer.ofLength data)
  return ({ s with txBuffer }, r)

def accepts (ipRepr : IpRepr) : Prop :=
  s.ipVersion.all (fun version => version = ipRepr.version) ∧
    s.ipProtocol.all (fun nextHeader => nextHeader = ipRepr.nextHeader)

instance (ipRepr : IpRepr) : Decidable (s.accepts ipRepr) := inferInstanceAs (Decidable (_ ∧ _))

/-- Enqueue a packet that was received: the header anew, and the payload. -/
def process (ipRepr : IpRepr) (payload : List UInt8) : Checked Socket := do
  Checked.assert (s.accepts ipRepr)
  let packet := ipRepr.headerOctets checksum ++ payload
  let (rxBuffer, _) ← s.rxBuffer.enqueue packet.length () (Writer.ofLength packet)
  return { s with rxBuffer }

/-- The version that the socket is bound to is not looked at. -/
def buildIpv4 (buffer : List UInt8) :
    Checked (Handed (IpRepr × List UInt8) buffer.length) :=
  match Ipv4.checkLen buffer with
  | .error _ => .ok (.unchanged buffer none)
  | .ok () =>
    if s.ipProtocol.any (fun nextHeader => nextHeader ≠ Ipv4.nextHeader buffer) then
      .ok (.unchanged buffer none)
    else
      -- a checksum that is not computed is zeroed
      let packet :=
        if checksum.ipv4.computes then Ipv4.fillChecksum buffer else Ipv4.setChecksum buffer 0
      if h : packet.length = buffer.length then
        match Ipv4.Repr.parse checksum.ipv4.verifies packet with
        | .error _ => .ok ⟨packet, h, none⟩
        | .ok repr => .ok ⟨packet, h, some (.ipv4 repr, Ipv4.payload packet)⟩
      else .error .sliceOutOfRange

def buildIpv6 (buffer : List UInt8) : Outcome (Option (IpRepr × List UInt8)) := do
  Ipv6Packet.checkLen buffer
  let nextHeader ← Ipv6Packet.nextHeader buffer
  if s.ipProtocol.any (fun protocol => protocol ≠ nextHeader) then return none
  else
    let repr ← Ipv6Repr.parse buffer
    let header : IpHeader 128 :=
      ⟨repr.srcAddr, repr.dstAddr, repr.nextHeader, repr.payloadLen, repr.hopLimit⟩
    return some (.ipv6 header, ← Ipv6Packet.payload buffer)

/-- What is made of a packet in the queue. Malformed packets, and packets of another protocol, are
dropped. -/
def build (buffer : List UInt8) : Checked (Handed (IpRepr × List UInt8) buffer.length) :=
  match IpVersion.ofPacket buffer with
  | .ok .ipv4 => s.buildIpv4 checksum buffer
  | .ok .ipv6 =>
    match s.buildIpv6 buffer with
    | .ok offer => .ok (.unchanged buffer offer)
    | .error .malformed => .ok (.unchanged buffer none)
    | .error (.panic p) => .error p
  | .error _ => .ok (.unchanged buffer none)

def dispatch (emit : IpRepr × List UInt8 → Bool) :
    Checked (Socket × Option (IpRepr × List UInt8)) := do
  let (txBuffer, offer) ← s.txBuffer.offerFront (fun _ => s.build checksum) emit
  return ({ s with txBuffer }, offer)

end Socket

end Raw

end Smoltcp
