import Smoltcp.Panic

/-!
# IP addresses, endpoints and headers

What the sockets use of the IP layer: addresses of both versions, endpoints, and the header
representation that accompanies a segment.
-/

namespace Smoltcp

inductive IpVersion where
  | ipv4
  | ipv6
  deriving DecidableEq, Repr

inductive IpAddress where
  | ipv4 (addr : BitVec 32)
  | ipv6 (addr : BitVec 128)
  deriving DecidableEq, Repr

namespace IpAddress

def version : IpAddress → IpVersion
  | .ipv4 _ => .ipv4
  | .ipv6 _ => .ipv6

def isUnspecified : IpAddress → Bool
  | .ipv4 addr => addr == 0
  | .ipv6 addr => addr == 0

end IpAddress

structure IpEndpoint where
  addr : IpAddress
  port : UInt16
  deriving DecidableEq, Repr

/-- An endpoint to listen on or connect from, whose address may be left open. -/
structure IpListenEndpoint where
  addr : Option IpAddress := none
  port : UInt16 := 0
  deriving DecidableEq, Repr

/-- IP datagram encapsulated protocol. -/
inductive IpProtocol where
  | hopByHop
  | icmp
  | igmp
  | tcp
  | udp
  | ipv6Route
  | ipv6Frag
  | ipSecEsp
  | ipSecAh
  | icmpv6
  | ipv6NoNxt
  | ipv6Opts
  | unknown (number : UInt8)
  deriving DecidableEq, Repr

namespace IpProtocol

def toByte : IpProtocol → UInt8
  | .hopByHop => 0x00
  | .icmp => 0x01
  | .igmp => 0x02
  | .tcp => 0x06
  | .udp => 0x11
  | .ipv6Route => 0x2b
  | .ipv6Frag => 0x2c
  | .ipSecEsp => 0x32
  | .ipSecAh => 0x33
  | .icmpv6 => 0x3a
  | .ipv6NoNxt => 0x3b
  | .ipv6Opts => 0x3c
  | .unknown number => number

def ofByte (number : UInt8) : IpProtocol :=
  if number = 0x00 then .hopByHop
  else if number = 0x01 then .icmp
  else if number = 0x02 then .igmp
  else if number = 0x06 then .tcp
  else if number = 0x11 then .udp
  else if number = 0x2b then .ipv6Route
  else if number = 0x2c then .ipv6Frag
  else if number = 0x32 then .ipSecEsp
  else if number = 0x33 then .ipSecAh
  else if number = 0x3a then .icmpv6
  else if number = 0x3b then .ipv6NoNxt
  else if number = 0x3c then .ipv6Opts
  else .unknown number

end IpProtocol

/-- The header fields that both IP versions have. -/
structure IpHeader (w : ℕ) where
  srcAddr : BitVec w
  dstAddr : BitVec w
  nextHeader : IpProtocol
  payloadLen : ℕ
  hopLimit : UInt8
  deriving DecidableEq, Repr

inductive IpRepr where
  | ipv4 (repr : IpHeader 32)
  | ipv6 (repr : IpHeader 128)
  deriving DecidableEq, Repr

def ipv4HeaderLen : ℕ := 20

def ipv6HeaderLen : ℕ := 40

namespace IpRepr

def new (srcAddr dstAddr : IpAddress) (nextHeader : IpProtocol) (payloadLen : ℕ)
    (hopLimit : UInt8) : Checked IpRepr :=
  match srcAddr, dstAddr with
  | .ipv4 src, .ipv4 dst => .ok (.ipv4 ⟨src, dst, nextHeader, payloadLen, hopLimit⟩)
  | .ipv6 src, .ipv6 dst => .ok (.ipv6 ⟨src, dst, nextHeader, payloadLen, hopLimit⟩)
  | _, _ => .error .ipVersionMismatch

def srcAddr : IpRepr → IpAddress
  | .ipv4 repr => .ipv4 repr.srcAddr
  | .ipv6 repr => .ipv6 repr.srcAddr

def dstAddr : IpRepr → IpAddress
  | .ipv4 repr => .ipv4 repr.dstAddr
  | .ipv6 repr => .ipv6 repr.dstAddr

def setPayloadLen (len : ℕ) : IpRepr → IpRepr
  | .ipv4 repr => .ipv4 { repr with payloadLen := len }
  | .ipv6 repr => .ipv6 { repr with payloadLen := len }

def headerLen : IpRepr → ℕ
  | .ipv4 _ => ipv4HeaderLen
  | .ipv6 _ => ipv6HeaderLen

/-- The length of the header of a packet sent from `addr`. -/
def headerLenOf : IpAddress → ℕ
  | .ipv4 _ => ipv4HeaderLen
  | .ipv6 _ => ipv6HeaderLen

lemma new_eq_ok {src dst : IpAddress} {next : IpProtocol} {len : ℕ} {hop : UInt8} {repr : IpRepr}
    (h : new src dst next len hop = .ok repr) :
    src.version = dst.version ∧ repr.headerLen = headerLenOf src := by
  cases src <;> cases dst <;> cases h <;> exact ⟨rfl, rfl⟩

lemma new_of_version_eq {src dst : IpAddress} (h : src.version = dst.version) (next : IpProtocol)
    (len : ℕ) (hop : UInt8) : ∃ repr, new src dst next len hop = .ok repr := by
  cases src <;> cases dst <;> first | exact ⟨_, rfl⟩ | cases h

lemma version_srcAddr_eq (repr : IpRepr) : repr.srcAddr.version = repr.dstAddr.version := by
  cases repr <;> rfl

lemma headerLenOf_le (addr : IpAddress) : headerLenOf addr ≤ 40 := by
  cases addr <;> simp [headerLenOf, ipv4HeaderLen, ipv6HeaderLen]

end IpRepr

end Smoltcp
