import Smoltcp.Phy
import Smoltcp.Wire.Ipv4

/-!
# ICMPv4 messages

Errors carry the header of the datagram that caused them and some octets behind it. What is quoted
is parsed like a whole packet.
-/

namespace Smoltcp

namespace Icmpv4

inductive Message where
  | echoReply
  | dstUnreachable
  | redirect
  | echoRequest
  | routerAdvert
  | routerSolicit
  | timeExceeded
  | paramProblem
  | timestamp
  | timestampReply
  | unknown (value : UInt8)
  deriving DecidableEq, Repr

namespace Message

def toByte : Message → UInt8
  | .echoReply => 0
  | .dstUnreachable => 3
  | .redirect => 5
  | .echoRequest => 8
  | .routerAdvert => 9
  | .routerSolicit => 10
  | .timeExceeded => 11
  | .paramProblem => 12
  | .timestamp => 13
  | .timestampReply => 14
  | .unknown value => value

def ofByte (value : UInt8) : Message :=
  if value = 0 then .echoReply
  else if value = 3 then .dstUnreachable
  else if value = 5 then .redirect
  else if value = 8 then .echoRequest
  else if value = 9 then .routerAdvert
  else if value = 10 then .routerSolicit
  else if value = 11 then .timeExceeded
  else if value = 12 then .paramProblem
  else if value = 13 then .timestamp
  else if value = 14 then .timestampReply
  else .unknown value

end Message

/-- Subtypes of "destination unreachable", by their code. -/
abbrev DstUnreachable := UInt8

def protoUnreachable : DstUnreachable := 2

def portUnreachable : DstUnreachable := 3

/-- Subtypes of "time exceeded", by their code. -/
abbrev TimeExceeded := UInt8

def headerEnd : ℕ := 8

section Fields

variable (buf : List UInt8)

def msgType : Message := .ofByte (Octets.get buf 0)

def msgCode : UInt8 := Octets.get buf 1

def echoIdent : UInt16 := Octets.readU16 buf 4

def echoSeqNo : UInt16 := Octets.readU16 buf 6

def verifyChecksum : Prop := Checksum.data buf = 0xffff

instance : Decidable (verifyChecksum buf) := inferInstanceAs (Decidable (_ = _))

/-- The type-specific data: all headers have the same length. -/
def data : List UInt8 := buf.drop headerEnd

def setMsgType (value : Message) : List UInt8 := buf.overwrite 0 [value.toByte]

def setMsgCode (value : UInt8) : List UInt8 := buf.overwrite 1 [value]

def setChecksum (value : UInt16) : List UInt8 := Octets.writeU16 buf 2 value

def setEchoIdent (value : UInt16) : List UInt8 := Octets.writeU16 buf 4 value

def setEchoSeqNo (value : UInt16) : List UInt8 := Octets.writeU16 buf 6 value

/-- Compute and fill in the checksum. -/
def fillChecksum : List UInt8 :=
  let buf := setChecksum buf 0
  setChecksum buf (~~~ (Checksum.data buf))

end Fields

end Icmpv4

inductive Icmpv4Repr where
  | echoRequest (ident seqNo : UInt16) (data : List UInt8)
  | echoReply (ident seqNo : UInt16) (data : List UInt8)
  | dstUnreachable (reason : Icmpv4.DstUnreachable) (header : Ipv4.Repr) (data : List UInt8)
  | timeExceeded (reason : Icmpv4.TimeExceeded) (header : Ipv4.Repr) (data : List UInt8)
  deriving DecidableEq, Repr

namespace Icmpv4Repr

open Icmpv4

/-- The datagram quoted by an error. -/
def parseQuoted (quoted : List UInt8) : Except WireError (Ipv4.Repr × List UInt8) := do
  Ipv4.checkLen quoted
  let payload := quoted.drop (Ipv4.headerLen quoted)
  -- RFC 792 requires exactly eight octets to be returned; more are allowed.
  if payload.length < 8 then .error .mk
  else
    return ({
      srcAddr := Ipv4.srcAddr quoted
      dstAddr := Ipv4.dstAddr quoted
      nextHeader := Ipv4.nextHeader quoted
      payloadLen := payload.length
      hopLimit := Ipv4.hopLimit quoted }, payload)

/-- Parse a message. `rx` tells whether checksums are verified. -/
def parse (rx : Bool) (buf : List UInt8) : Except WireError Icmpv4Repr :=
  if buf.length < headerEnd then .error .mk
  else if rx ∧ ¬ verifyChecksum buf then .error .mk
  else
    match msgType buf with
    | .echoRequest =>
      if msgCode buf = 0 then .ok (.echoRequest (echoIdent buf) (echoSeqNo buf) (data buf))
      else .error .mk
    | .echoReply =>
      if msgCode buf = 0 then .ok (.echoReply (echoIdent buf) (echoSeqNo buf) (data buf))
      else .error .mk
    | .dstUnreachable => do
      let (header, payload) ← parseQuoted (data buf)
      return .dstUnreachable (msgCode buf) header payload
    | .timeExceeded => do
      let (header, payload) ← parseQuoted (data buf)
      return .timeExceeded (msgCode buf) header payload
    | _ => .error .mk

/-- The length of the packet that is emitted. -/
def bufferLen : Icmpv4Repr → ℕ
  | .echoRequest _ _ data => headerEnd + data.length
  | .echoReply _ _ data => headerEnd + data.length
  | .dstUnreachable _ header data => headerEnd + header.bufferLen + data.length
  | .timeExceeded _ header data => headerEnd + header.bufferLen + data.length

/-- Emit an echo, without a checksum. -/
def emitEcho (type : Message) (ident seqNo : UInt16) (data buf : List UInt8) : List UInt8 :=
  let buf := setMsgType buf type
  let buf := setMsgCode buf 0
  let buf := setEchoIdent buf ident
  let buf := setEchoSeqNo buf seqNo
  buf.overwrite headerEnd (data.take (buf.length - headerEnd))

/-- Emit an error, without a checksum. The octets of its header that it does not use stay as they
were. -/
def emitError (tx : Bool) (type : Message) (code : UInt8) (header : Ipv4.Repr)
    (data buf : List UInt8) : List UInt8 :=
  let buf := setMsgType buf type
  let buf := setMsgCode buf code
  let quoted := header.emit tx (buf.drop headerEnd)
  buf.overwrite headerEnd (quoted.overwrite header.bufferLen data)

/-- Emit a message into a buffer of its length. -/
def emit (checksum : ChecksumCapabilities) (repr : Icmpv4Repr) (buf : List UInt8) : List UInt8 :=
  let tx := checksum.ipv4.computes
  let buf := match repr with
    | .echoRequest ident seqNo data => emitEcho .echoRequest ident seqNo data buf
    | .echoReply ident seqNo data => emitEcho .echoReply ident seqNo data buf
    | .dstUnreachable reason header data => emitError tx .dstUnreachable reason header data buf
    | .timeExceeded reason header data => emitError tx .timeExceeded reason header data buf
  if checksum.icmpv4.computes then fillChecksum buf else setChecksum buf 0

/-- The message reports an error, and is not an echo. -/
def isError : Icmpv4Repr → Prop
  | .dstUnreachable .. => True
  | .timeExceeded .. => True
  | _ => False

instance : DecidablePred isError
  | .dstUnreachable .. => inferInstanceAs (Decidable True)
  | .timeExceeded .. => inferInstanceAs (Decidable True)
  | .echoRequest .. => inferInstanceAs (Decidable False)
  | .echoReply .. => inferInstanceAs (Decidable False)

end Icmpv4Repr

end Smoltcp
