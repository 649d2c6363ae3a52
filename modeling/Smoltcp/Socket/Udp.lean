import Smoltcp.Iface.Interface
import Smoltcp.Socket.Queue
import Smoltcp.Wire.Udp

/-!
# UDP sockets

A datagram is received with the endpoint it came from and the address it was sent to, and is sent
with the endpoint it goes to and, if it is given, the address it is sent from.
-/

namespace Smoltcp

/-- Metadata for a sent or received UDP packet. -/
structure UdpMetadata where
  endpoint : IpEndpoint
  /-- The address the packet was sent to, or is to be sent from. -/
  localAddress : Option IpAddress
  packetMeta : PacketMeta
  deriving DecidableEq, Repr

namespace Udp

/-- Error returned by `bind`. -/
inductive BindError where
  | invalidState
  | unaddressable
  deriving DecidableEq, Repr

/-- Error returned by `send`. -/
inductive SendError where
  | unaddressable
  | bufferFull
  deriving DecidableEq, Repr

/-- What is dispatched: the headers and the payload. -/
structure Datagram where
  ipRepr : IpRepr
  repr : UdpRepr
  payload : List UInt8

structure Socket where
  endpoint : IpListenEndpoint
  rxBuffer : PacketBuffer UdpMetadata
  txBuffer : PacketBuffer UdpMetadata
  hopLimit : Option UInt8

namespace Socket

variable {cfg : IfaceConfig} (s : Socket) (iface : InterfaceInner cfg)

def new (rxBuffer txBuffer : PacketBuffer UdpMetadata) : Socket := ⟨{}, rxBuffer, txBuffer, none⟩

def setHopLimit (hopLimit : Option UInt8) : Checked Socket :=
  if hopLimit = some 0 then .error .zeroHopLimit else .ok { s with hopLimit }

def isOpen : Prop := s.endpoint.port ≠ 0

instance : Decidable s.isOpen := inferInstanceAs (Decidable (_ ≠ _))

def bind (endpoint : IpListenEndpoint) : Except BindError Socket :=
  if endpoint.port = 0 then .error .unaddressable
  else if s.isOpen then .error .invalidState
  else .ok { s with endpoint }

def close : Socket :=
  { s with endpoint := {}, txBuffer := s.txBuffer.reset, rxBuffer := s.rxBuffer.reset }

/-- Enqueue a packet to be sent to a given remote endpoint. The octets of its payload are returned,
and the caller writes them. -/
def send (size : ℕ) (packetMeta : UdpMetadata) (write : Writer UInt8) :
    Checked (Socket × Except SendError Unit) :=
  if s.endpoint.port = 0 then .ok (s, .error .unaddressable)
  else if packetMeta.endpoint.addr.isUnspecified then .ok (s, .error .unaddressable)
  else if packetMeta.endpoint.port = 0 then .ok (s, .error .unaddressable)
  else do
    match ← s.txBuffer.enqueue size packetMeta write with
    | (txBuffer, .ok ()) => return ({ s with txBuffer }, .ok ())
    | (txBuffer, .error _) => return ({ s with txBuffer }, .error .bufferFull)

/-- Enqueue a packet to be sent to a given remote endpoint, and pass its octets to a closure. The
closure reports how many it has written. -/
def sendWith (maxSize : ℕ) (packetMeta : UdpMetadata) (f : Callback UInt8 Unit) :
    Checked (Socket × Except SendError ℕ) :=
  if s.endpoint.port = 0 then .ok (s, .error .unaddressable)
  else if packetMeta.endpoint.addr.isUnspecified then .ok (s, .error .unaddressable)
  else if packetMeta.endpoint.port = 0 then .ok (s, .error .unaddressable)
  else do
    match ← s.txBuffer.enqueueWithInfallible maxSize packetMeta f with
    | (txBuffer, .ok size) => return ({ s with txBuffer }, .ok size)
    | (txBuffer, .error _) => return ({ s with txBuffer }, .error .bufferFull)

/-- Enqueue a packet to be sent to a given remote endpoint, and fill it from a slice. -/
def sendSlice (data : List UInt8) (packetMeta : UdpMetadata) :
    Checked (Socket × Except SendError Unit) :=
  if s.endpoint.port = 0 then .ok (s, .error .unaddressable)
  else if packetMeta.endpoint.addr.isUnspecified then .ok (s, .error .unaddressable)
  else if packetMeta.endpoint.port = 0 then .ok (s, .error .unaddressable)
  else do
    match ← s.txBuffer.enqueue data.length packetMeta (Writer.ofLength data) with
    | (txBuffer, .ok ()) => return ({ s with txBuffer }, .ok ())
    | (txBuffer, .error _) => return ({ s with txBuffer }, .error .bufferFull)

/-- Dequeue a packet received from a remote endpoint. -/
def recv : Checked (Socket × Except Storage.Empty (UdpMetadata × List UInt8)) := do
  let (rxBuffer, r) ← s.rxBuffer.dequeue PacketBuffer.untouched
  return ({ s with rxBuffer }, r)

/-- Peek at a packet received from a remote endpoint. -/
def peek : Checked (Socket × Except Storage.Empty (UdpMetadata × List UInt8)) := do
  let (rxBuffer, r) ← s.rxBuffer.peek
  return ({ s with rxBuffer }, r)

def accepts (ipRepr : IpRepr) (repr : UdpRepr) : Prop :=
  s.endpoint.port = repr.dstPort ∧
    (s.endpoint.addr = none ∨ s.endpoint.addr = some ipRepr.dstAddr ∨
      iface.isBroadcast ipRepr.dstAddr ∨ ipRepr.dstAddr.isMulticast)

instance (ipRepr : IpRepr) (repr : UdpRepr) : Decidable (s.accepts iface ipRepr repr) :=
  inferInstanceAs (Decidable (_ ∧ (_ ∨ _ ∨ _ ∨ _)))

def process (packetMeta : PacketMeta) (ipRepr : IpRepr) (repr : UdpRepr) (payload : List UInt8) :
    Checked Socket := do
  Checked.assert (s.accepts iface ipRepr repr)
  let metadata : UdpMetadata :=
    ⟨⟨ipRepr.srcAddr, repr.srcPort⟩, some ipRepr.dstAddr, packetMeta⟩
  let (rxBuffer, _) ← s.rxBuffer.enqueue payload.length metadata (Writer.ofLength payload)
  return { s with rxBuffer }

/-- The address that a packet is sent from. -/
def sourceAddr (packetMeta : UdpMetadata) : Checked (Option IpAddress) :=
  match packetMeta.localAddress, s.endpoint.addr with
  | some addr, _ => .ok (some addr)
  | none, some addr => .ok (some addr)
  | none, none => iface.getSourceAddress packetMeta.endpoint.addr

/-- What is made of a packet in the queue. Without a suitable source address it is dropped. -/
def build (packetMeta : UdpMetadata) (payload : List UInt8) :
    Checked (Handed Datagram payload.length) := do
  match ← s.sourceAddr iface packetMeta with
  | none => return .unchanged payload none
  | some srcAddr =>
    let repr : UdpRepr := ⟨s.endpoint.port, packetMeta.endpoint.port⟩
    let ipRepr ← IpRepr.new srcAddr packetMeta.endpoint.addr .udp
      (repr.headerLen + payload.length) (s.hopLimit.getD 64)
    return .unchanged payload (some ⟨ipRepr, repr, payload⟩)

def dispatch (emit : Datagram → Bool) : Checked (Socket × Option Datagram) := do
  let (txBuffer, offer) ← s.txBuffer.offerFront (s.build iface) emit
  return ({ s with txBuffer }, offer)

end Socket

end Udp

end Smoltcp
