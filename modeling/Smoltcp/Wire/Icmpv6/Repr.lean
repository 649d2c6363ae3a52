import Smoltcp.Phy
import Smoltcp.Wire.Icmpv6.Control
import Smoltcp.Wire.Icmpv6.Ndisc

/-!
# ICMPv6 messages

Errors carry the packet that caused them, cut so that the error fits in the minimum MTU. Of what is
quoted only the header has to be there.
-/

namespace Smoltcp

open Outcome

namespace Icmpv6

/-- Subtypes of "destination unreachable", by their code. -/
abbrev DstUnreachable := UInt8

def portUnreachable : DstUnreachable := 4

/-- Subtypes of "parameter problem", by their code. -/
abbrev ParamProblem := UInt8

def unrecognizedNxtHdr : ParamProblem := 1

def unrecognizedOption : ParamProblem := 2

/-- Subtypes of "time exceeded", by their code. -/
abbrev TimeExceeded := UInt8

def ipv6MinMtu : ℕ := 1280

/-- Error packets must not exceed the minimum MTU. -/
def maxErrorPacketLen : ℕ := ipv6MinMtu - ipv6HeaderLen

end Icmpv6

inductive Icmpv6Repr where
  | dstUnreachable (reason : Icmpv6.DstUnreachable) (header : Ipv6Repr) (data : List UInt8)
  | pktTooBig (mtu : BitVec 32) (header : Ipv6Repr) (data : List UInt8)
  | timeExceeded (reason : Icmpv6.TimeExceeded) (header : Ipv6Repr) (data : List UInt8)
  | paramProblem (reason : Icmpv6.ParamProblem) (pointer : BitVec 32) (header : Ipv6Repr)
      (data : List UInt8)
  | echoRequest (ident seqNo : UInt16) (data : List UInt8)
  | echoReply (ident seqNo : UInt16) (data : List UInt8)
  | ndisc (repr : NdiscRepr)
  | mld (repr : MldRepr)
  | rpl (repr : RplRepr)
  deriving DecidableEq, Repr

namespace Icmpv6Repr

open Icmpv6 Icmpv6Packet

/-- The packet quoted by an error. -/
def createPacketFromPayload (buf : List UInt8) : Outcome (List UInt8 × Ipv6Repr) := do
  let quoted ← payload buf
  if ipv6HeaderLen ≤ quoted.length then
    let data ← sliceFrom quoted ipv6HeaderLen
    let repr : Ipv6Repr := {
      srcAddr := ← Ipv6Packet.srcAddr quoted
      dstAddr := ← Ipv6Packet.dstAddr quoted
      nextHeader := ← Ipv6Packet.nextHeader quoted
      payloadLen := (← Ipv6Packet.payloadLen quoted).toNat
      hopLimit := ← Ipv6Packet.hopLimit quoted }
    return (data, repr)
  else fail

/-- Parse a message. `rx` tells whether checksums are verified. -/
def parse (cfg : HardwareConfig) (rx : Bool) (srcAddr dstAddr : Ipv6.Address) (buf : List UInt8) :
    Outcome Icmpv6Repr := do
  checkLen buf
  reject (rx ∧ ¬ verifyChecksum buf srcAddr dstAddr)
  let code ← msgCode buf
  match ← msgType buf with
  | .dstUnreachable =>
    let (data, header) ← createPacketFromPayload buf
    return .dstUnreachable code header data
  | .pktTooBig =>
    reject (code ≠ 0)
    let (data, header) ← createPacketFromPayload buf
    return .pktTooBig (← pktTooBigMtu buf) header data
  | .timeExceeded =>
    let (data, header) ← createPacketFromPayload buf
    return .timeExceeded code header data
  | .paramProblem =>
    let (data, header) ← createPacketFromPayload buf
    return .paramProblem code (← paramProblemPtr buf) header data
  | .echoRequest =>
    reject (code ≠ 0)
    return .echoRequest (← echoIdent buf) (← echoSeqNo buf) (← payload buf)
  | .echoReply =>
    reject (code ≠ 0)
    return .echoReply (← echoIdent buf) (← echoSeqNo buf) (← payload buf)
  | .routerSolicit | .routerAdvert | .neighborSolicit | .neighborAdvert | .redirect =>
    reject (code ≠ 0)
    return .ndisc (← NdiscRepr.parse cfg buf)
  | .mldQuery | .mldReport =>
    reject (code ≠ 0)
    return .mld (← MldRepr.parse buf)
  | .rplControl => return .rpl (← RplRepr.parse buf)
  | .unknown _ => fail

/-- The length of the packet that is emitted. -/
def bufferLen : Icmpv6Repr → ℕ
  | .dstUnreachable _ header data => min (8 + header.bufferLen + data.length) maxErrorPacketLen
  | .pktTooBig _ header data => min (8 + header.bufferLen + data.length) maxErrorPacketLen
  | .timeExceeded _ header data => min (8 + header.bufferLen + data.length) maxErrorPacketLen
  | .paramProblem _ _ header data => min (8 + header.bufferLen + data.length) maxErrorPacketLen
  | .echoRequest _ _ data => 8 + data.length
  | .echoReply _ _ data => 8 + data.length
  | .ndisc repr => repr.bufferLen
  | .mld repr => repr.bufferLen
  | .rpl repr => repr.bufferLen

/-- Emit an echo, without a checksum. -/
def emitEcho (type : Message) (ident seqNo : UInt16) (data buf : List UInt8) : List UInt8 :=
  let buf := buf.overwrite 0 [type.toByte]
  let buf := buf.overwrite 1 [0]
  let buf := Octets.writeU16 buf 4 ident
  let buf := Octets.writeU16 buf 6 seqNo
  buf.overwrite headerEnd (data.take (buf.length - headerEnd))

/-- Emit an error, without a checksum. The octets of its header that it does not use stay as they
were, and what it quotes is cut. -/
def emitError (type : Message) (code : UInt8) (header : Ipv6Repr) (data buf : List UInt8) :
    List UInt8 :=
  let buf := buf.overwrite 0 [type.toByte]
  let buf := buf.overwrite 1 [code]
  let buf := buf.overwrite headerEnd header.octets
  buf.overwrite (headerEnd + header.bufferLen)
    (data.take (maxErrorPacketLen - headerEnd - ipv6HeaderLen))

/-- Compute and fill in the checksum. -/
def fillChecksum (srcAddr dstAddr : Ipv6.Address) (buf : List UInt8) : List UInt8 :=
  let buf := Octets.writeU16 buf 2 0
  Octets.writeU16 buf 2 (~~~ (Checksum.combine [
    Checksum.pseudoHeaderV6 srcAddr dstAddr IpProtocol.icmpv6.toByte buf.length,
    Checksum.data buf]))

/-- Emit an error or an echo into a buffer of its length; `none` for messages of other protocols,
which their own modules are about. -/
def emit (checksum : ChecksumCapabilities) (srcAddr dstAddr : Ipv6.Address) (repr : Icmpv6Repr)
    (buf : List UInt8) : Option (List UInt8) :=
  let buf := match repr with
    | .dstUnreachable reason header data => some (emitError .dstUnreachable reason header data buf)
    | .pktTooBig mtu header data =>
      some (Octets.writeU32 (emitError .pktTooBig 0 header data buf) 4 mtu)
    | .timeExceeded reason header data => some (emitError .timeExceeded reason header data buf)
    | .paramProblem reason pointer header data =>
      some (Octets.writeU32 (emitError .paramProblem reason header data buf) 4 pointer)
    | .echoRequest ident seqNo data => some (emitEcho .echoRequest ident seqNo data buf)
    | .echoReply ident seqNo data => some (emitEcho .echoReply ident seqNo data buf)
    | .ndisc _ | .mld _ | .rpl _ => none
  buf.map fun buf =>
    if checksum.icmpv6.computes then fillChecksum srcAddr dstAddr buf else Octets.writeU16 buf 2 0

/-- The message reports an error, and is not informational. -/
def isError : Icmpv6Repr → Bool
  | .dstUnreachable .. => true
  | .pktTooBig .. => true
  | .timeExceeded .. => true
  | .paramProblem .. => true
  | _ => false

end Icmpv6Repr

end Smoltcp
