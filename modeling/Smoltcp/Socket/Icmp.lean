import Smoltcp.Iface.Interface
import Smoltcp.Iface.Packet
import Smoltcp.Socket.Queue

/-!
# ICMP sockets

An ICMP socket receives echoes with its identifier, or errors about the UDP datagrams that were sent
from its port. It keeps the whole message.
-/

namespace Smoltcp

namespace Icmp

/-- Error returned by `bind`. -/
inductive BindError where
  | invalidState
  | unaddressable
  deriving DecidableEq, Repr

/-- Error returned by `send`. -/
inductive SendError where
  | unaddressable
  | bufferFull
  deriving DecidableEq, Repr

/-- Type of endpoint to bind the ICMP socket to. -/
inductive Endpoint where
  | unspecified
  | ident (ident : UInt16)
  | udp (endpoint : IpListenEndpoint)
  deriving DecidableEq, Repr

def Endpoint.isSpecified : Endpoint → Prop
  | .ident _ => True
  | .udp endpoint => endpoint.port ≠ 0
  | .unspecified => False

instance : DecidablePred Endpoint.isSpecified
  | .ident _ => inferInstanceAs (Decidable True)
  | .udp _ => inferInstanceAs (Decidable (_ ≠ _))
  | .unspecified => inferInstanceAs (Decidable False)

structure Socket where
  rxBuffer : PacketBuffer IpAddress
  txBuffer : PacketBuffer IpAddress
  endpoint : Endpoint
  hopLimit : Option UInt8

/-- A writer that changes the slice. -/
def writing (f : List UInt8 → List UInt8) : Writer UInt8 := fun buf =>
  if h : (f buf).length = buf.length then ⟨f buf, h⟩ else Writer.keep buf

/-- Whether what an error quotes is a datagram that was sent from the port. -/
def quotesPort (checksum : ChecksumCapabilities) (port : UInt16) (srcAddr dstAddr : IpAddress)
    (data : List UInt8) : Checked Bool :=
  match UdpRepr.parse checksum.udp.verifies data srcAddr dstAddr with
  | .ok repr => .ok (port = repr.srcPort)
  | .error .malformed => .ok false
  | .error (.panic p) => .error p

namespace Socket

variable {cfg : IfaceConfig} (s : Socket) (checksum : ChecksumCapabilities)
  (iface : InterfaceInner cfg)

def new (rxBuffer txBuffer : PacketBuffer IpAddress) : Socket :=
  ⟨rxBuffer, txBuffer, .unspecified, none⟩

def setHopLimit (hopLimit : Option UInt8) : Checked Socket :=
  if hopLimit = some 0 then .error .zeroHopLimit else .ok { s with hopLimit }

def isOpen : Prop := s.endpoint ≠ .unspecified

instance : Decidable s.isOpen := inferInstanceAs (Decidable (_ ≠ _))

def bind (endpoint : Endpoint) : Except BindError Socket :=
  if ¬ endpoint.isSpecified then .error .unaddressable
  else if s.isOpen then .error .invalidState
  else .ok { s with endpoint }

/-- Enqueue a packet to be sent to a given remote address. -/
def sendSlice (data : List UInt8) (endpoint : IpAddress) :
    Checked (Socket × Except SendError Unit) :=
  if endpoint.isUnspecified then .ok (s, .error .unaddressable)
  else do
    match ← s.txBuffer.enqueue data.length endpoint (Writer.ofLength data) with
    | (txBuffer, .ok ()) => return ({ s with txBuffer }, .ok ())
    | (txBuffer, .error _) => return ({ s with txBuffer }, .error .bufferFull)

/-- Dequeue a packet received from a remote endpoint. -/
def recv : Checked (Socket × Except Storage.Empty (IpAddress × List UInt8)) := do
  let (rxBuffer, r) ← s.rxBuffer.dequeue PacketBuffer.untouched
  return ({ s with rxBuffer }, r)

def acceptsV4 (ipRepr : Ipv4.Repr) (icmpRepr : Icmpv4Repr) : Checked Bool :=
  match s.endpoint, icmpRepr with
  | .udp endpoint, .dstUnreachable _ header data | .udp endpoint, .timeExceeded _ header data =>
    if endpoint.addr.all (fun addr => addr = .ipv4 ipRepr.dstAddr) then
      quotesPort checksum endpoint.port (.ipv4 header.srcAddr) (.ipv4 header.dstAddr) data
    else .ok false
  | .ident boundIdent, .echoRequest ident _ _ | .ident boundIdent, .echoReply ident _ _ =>
    .ok (ident = boundIdent)
  | _, _ => .ok false

def acceptsV6 (ipRepr : Ipv6Repr) (icmpRepr : Icmpv6Repr) : Checked Bool :=
  match s.endpoint, icmpRepr with
  | .udp endpoint, .dstUnreachable _ header data | .udp endpoint, .timeExceeded _ header data =>
    if endpoint.addr.all (fun addr => addr = .ipv6 ipRepr.dstAddr) then
      quotesPort checksum endpoint.port (.ipv6 header.srcAddr) (.ipv6 header.dstAddr) data
    else .ok false
  | .ident boundIdent, .echoRequest ident _ _ | .ident boundIdent, .echoReply ident _ _ =>
    .ok (ident = boundIdent)
  | _, _ => .ok false

/-- Enqueue a message that was accepted. -/
def processV4 (ipRepr : Ipv4.Repr) (icmpRepr : Icmpv4Repr) : Checked Socket := do
  let (rxBuffer, _) ← s.rxBuffer.enqueue icmpRepr.bufferLen (.ipv4 ipRepr.srcAddr)
    (writing (icmpRepr.emit {}))
  return { s with rxBuffer }

/-- Enqueue a message that was accepted, which is an error or an echo. -/
def processV6 (ipRepr : Ipv6Repr) (icmpRepr : Icmpv6Repr) : Checked Socket := do
  let (rxBuffer, _) ← s.rxBuffer.enqueue icmpRepr.bufferLen (.ipv6 ipRepr.srcAddr)
    (writing fun buf => (icmpRepr.emit {} ipRepr.srcAddr ipRepr.dstAddr buf).getD buf)
  return { s with rxBuffer }

/-- What is made of a message in the queue. Malformed messages are dropped. -/
def build (remoteEndpoint : IpAddress) (packetBuf : List UInt8) :
    Checked (Handed Packet packetBuf.length) :=
  let hopLimit := s.hopLimit.getD 64
  match remoteEndpoint with
  | .ipv4 dstAddr =>
    match iface.getSourceAddressIpv4 dstAddr with
    | none => .ok (.unchanged packetBuf none)
    | some srcAddr =>
      match Icmpv4Repr.parse false packetBuf with
      | .error _ => .ok (.unchanged packetBuf none)
      | .ok repr =>
        .ok (.unchanged packetBuf
          (some (.ipv4 ⟨srcAddr, dstAddr, .icmp, repr.bufferLen, hopLimit⟩ (.icmpv4 repr))))
  | .ipv6 dstAddr => do
    let srcAddr ← iface.getSourceAddressIpv6 dstAddr
    match Icmpv6Repr.parse cfg.hardware false srcAddr dstAddr packetBuf with
    | .error .malformed => return .unchanged packetBuf none
    | .error (.panic p) => .error p
    | .ok repr =>
      return .unchanged packetBuf
        (some (.ipv6 ⟨srcAddr, dstAddr, .icmpv6, repr.bufferLen, hopLimit⟩ (.icmpv6 repr)))

def dispatch (emit : Packet → Bool) : Checked (Socket × Option Packet) := do
  let (txBuffer, offer) ← s.txBuffer.offerFront (s.build iface) emit
  return ({ s with txBuffer }, offer)

end Socket

end Icmp

end Smoltcp
