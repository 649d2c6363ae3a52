import Smoltcp.Wire.Ip
import Smoltcp.Wire.Outcome

/-!
# DNS packets

A name is a sequence of labels. It may end in a pointer to an earlier part of the packet; what is
behind the pointer is not read again, so every name comes to an end.
-/

namespace Smoltcp

namespace Dns

inductive Opcode where
  | query
  | status
  | unknown (code : UInt8)
  deriving DecidableEq, Repr

def Opcode.ofByte (code : UInt8) : Opcode :=
  if code = 0x00 then .query
  else if code = 0x01 then .status
  else .unknown code

def Opcode.toByte : Opcode → UInt8
  | .query => 0x00
  | .status => 0x01
  | .unknown code => code

inductive Rcode where
  | noError
  | formErr
  | servFail
  | nxDomain
  | notImp
  | refused
  | yxDomain
  | yxRRSet
  | nxRRSet
  | notAuth
  | notZone
  | unknown (code : UInt8)
  deriving DecidableEq, Repr

def Rcode.ofByte (code : UInt8) : Rcode :=
  if code = 0x00 then .noError
  else if code = 0x01 then .formErr
  else if code = 0x02 then .servFail
  else if code = 0x03 then .nxDomain
  else if code = 0x04 then .notImp
  else if code = 0x05 then .refused
  else if code = 0x06 then .yxDomain
  else if code = 0x07 then .yxRRSet
  else if code = 0x08 then .nxRRSet
  else if code = 0x09 then .notAuth
  else if code = 0x0a then .notZone
  else .unknown code

/-- DNS record types. -/
inductive QueryType where
  | a
  | ns
  | cname
  | soa
  | aaaa
  | unknown (code : UInt16)
  deriving DecidableEq, Repr

def QueryType.ofU16 (code : UInt16) : QueryType :=
  if code = 0x0001 then .a
  else if code = 0x0002 then .ns
  else if code = 0x0005 then .cname
  else if code = 0x0006 then .soa
  else if code = 0x001c then .aaaa
  else .unknown code

def QueryType.toU16 : QueryType → UInt16
  | .a => 0x0001
  | .ns => 0x0002
  | .cname => 0x0005
  | .soa => 0x0006
  | .aaaa => 0x001c
  | .unknown code => code

/-- `Flags::all()`. -/
def flagsAll : UInt16 := 0b1000011110110000

def flagRecursionDesired : UInt16 := 0b0000000100000000

def classIn : UInt16 := 1

def headerEnd : ℕ := 12

namespace Packet

variable (buf : List UInt8)

/-- Ensure that no accessor method will panic if called. -/
def checkLen : Except WireError Unit := if buf.length < headerEnd then .error .mk else .ok ()

def payload : List UInt8 := buf.drop headerEnd

def transactionId : UInt16 := Octets.readU16 buf 0

def flags : UInt16 := Octets.readU16 buf 2

/-- The flag `RESPONSE`. -/
def response : Prop := flags buf &&& 0b1000000000000000 ≠ 0

instance : Decidable (response buf) := inferInstanceAs (Decidable (_ ≠ _))

def opcode : Opcode := .ofByte ((flags buf >>> (11 : UInt16)) &&& 0xf).toUInt8

def rcode : Rcode := .ofByte (flags buf &&& 0xf).toUInt8

def questionCount : UInt16 := Octets.readU16 buf 4

def answerRecordCount : UInt16 := Octets.readU16 buf 6

end Packet

/-- The labels of a name in `bytes`, following pointers if any. After an error the name is not read
further. -/
def parseName (packet bytes : List UInt8) : List (Except WireError (List UInt8)) :=
  match bytes with
  | [] => [.error .mk]
  | x :: rest =>
    if x = 0x00 then []
    else if x &&& 0xC0 = 0x00 then
      let len := (x &&& 0x3F).toNat
      if rest.length < len then [.error .mk]
      else .ok (rest.take len) :: parseName packet (rest.drop len)
    else if x &&& 0xC0 = 0xC0 then
      match rest with
      | [] => [.error .mk]
      | y :: _ =>
        let ptr := (x &&& 0x3F).toNat <<< 8 ||| y.toNat
        if packet.length ≤ ptr then [.error .mk]
        -- Only the part before `ptr` is kept, so that no octet is parsed twice.
        else parseName (packet.take ptr) (packet.drop ptr)
    else [.error .mk]
termination_by packet.length + bytes.length
decreasing_by
  · simp only [List.length_cons, List.length_drop]
    omega
  · simp only [List.length_cons, List.length_take, List.length_drop]
    omega

/-- Parse part of a name, not following pointers: the unused part, and the pointer that ends it. -/
def parseNamePart (bytes : List UInt8) : Except WireError (List UInt8 × Option ℕ) :=
  match bytes with
  | [] => .error .mk
  | x :: rest =>
    if x = 0x00 then .ok (rest, none)
    else if x &&& 0xC0 = 0x00 then
      let len := (x &&& 0x3F).toNat
      if rest.length < len then .error .mk
      else parseNamePart (rest.drop len)
    else if x &&& 0xC0 = 0xC0 then
      match rest with
      | [] => .error .mk
      | y :: rest => .ok (rest, some ((x &&& 0x3F).toNat <<< 8 ||| y.toNat))
    else .error .mk
termination_by bytes.length
decreasing_by
  simp only [List.length_cons, List.length_drop]
  omega

structure Question where
  name : List UInt8
  type : QueryType
  deriving DecidableEq, Repr

/-- Parse a question. Returned is also what follows it. -/
def Question.parse (buffer : List UInt8) : Except WireError (List UInt8 × Question) := do
  let (rest, _) ← parseNamePart buffer
  let name := buffer.take (buffer.length - rest.length)
  if rest.length < 4 then throw .mk
  let type := QueryType.ofU16 (Octets.readU16 rest 0)
  let class_ := Octets.readU16 rest 2
  if class_ ≠ classIn then throw .mk
  return (rest.drop 4, ⟨name, type⟩)

inductive RecordData where
  | a (addr : BitVec 32)
  | aaaa (addr : BitVec 128)
  | cname (name : List UInt8)
  | other (type : QueryType) (data : List UInt8)
  deriving DecidableEq, Repr

def RecordData.parse (type : QueryType) (data : List UInt8) : Except WireError RecordData :=
  match type with
  | .a => if data.length ≠ 4 then .error .mk else .ok (.a (Octets.readU32 data 0))
  | .aaaa => if data.length ≠ 16 then .error .mk else .ok (.aaaa (Octets.toU128 data))
  | .cname => .ok (.cname data)
  | type => .ok (.other type data)

structure Record where
  name : List UInt8
  ttl : BitVec 32
  data : RecordData
  deriving DecidableEq, Repr

/-- Parse a record. Returned is also what follows it. -/
def Record.parse (buffer : List UInt8) : Except WireError (List UInt8 × Record) := do
  let (rest, _) ← parseNamePart buffer
  let name := buffer.take (buffer.length - rest.length)
  if rest.length < 10 then throw .mk
  let type := QueryType.ofU16 (Octets.readU16 rest 0)
  let class_ := Octets.readU16 rest 2
  let ttl := Octets.readU32 rest 4
  let len := (Octets.readU16 rest 8).toNat
  let rest := rest.drop 10
  if class_ ≠ classIn then throw .mk
  if rest.length < len then throw .mk
  return (rest.drop len, ⟨name, ttl, ← RecordData.parse type (rest.take len)⟩)

/-! ### Requests -/

section Requests

open Outcome

lemma exists_write {buf data : List UInt8} {i : ℕ} (h : i + data.length ≤ buf.length) :
    ∃ buf', write buf i data = .ok buf' ∧ buf'.length = buf.length :=
  ⟨_, write_of h, List.length_overwrite h⟩

/-- Set the flags. What else is in their word stays. -/
def Packet.setFlags (buf : List UInt8) (val : UInt16) : Outcome (List UInt8) := do
  let old ← readU16 buf 2
  write buf 2 (Octets.ofU16 (old &&& ~~~flagsAll ||| val))

def Packet.setOpcode (buf : List UInt8) (val : Opcode) : Outcome (List UInt8) := do
  let old ← readU16 buf 2
  write buf 2 (Octets.ofU16 (old &&& ~~~(0x3800 : UInt16) ||| val.toByte.toUInt16 <<< 11))

namespace Question

variable (question : Question)

def bufferLen : ℕ := question.name.length + 4

def emit (packet : List UInt8) : Outcome (List UInt8) := do
  let packet ← write packet 0 question.name
  let packet ← write packet question.name.length (Octets.ofU16 question.type.toU16)
  write packet (question.name.length + 2) (Octets.ofU16 classIn)

lemma exists_emit {packet : List UInt8} (h : packet.length = question.bufferLen) :
    ∃ packet', question.emit packet = .ok packet' ∧ packet'.length = packet.length := by
  unfold bufferLen at h
  have hname : 0 + question.name.length ≤ packet.length := by omega
  obtain ⟨packet₁, h₁, hlen₁⟩ := exists_write hname
  obtain ⟨packet₂, h₂, hlen₂⟩ := @exists_write packet₁ (Octets.ofU16 question.type.toU16)
    question.name.length (by change _ + 2 ≤ _; omega)
  obtain ⟨packet₃, h₃, hlen₃⟩ := @exists_write packet₂ (Octets.ofU16 classIn)
    (question.name.length + 2) (by change _ + 2 + 2 ≤ _; omega)
  refine ⟨packet₃, ?_, by omega⟩
  unfold emit
  rw [h₁, ok_bind, h₂, ok_bind, h₃]

end Question

/-- A packet with one question. -/
structure DnsRepr where
  transactionId : UInt16
  opcode : Opcode
  flags : UInt16
  question : Question
  deriving DecidableEq, Repr

namespace DnsRepr

variable (repr : DnsRepr)

def bufferLen : ℕ := headerEnd + repr.question.bufferLen

def emit (buf : List UInt8) : Outcome (List UInt8) := do
  let buf ← write buf 0 (Octets.ofU16 repr.transactionId)
  let buf ← Packet.setFlags buf repr.flags
  let buf ← Packet.setOpcode buf repr.opcode
  let buf ← write buf 4 (Octets.ofU16 1)
  let buf ← write buf 6 (Octets.ofU16 0)
  let buf ← write buf 8 (Octets.ofU16 0)
  let buf ← write buf 10 (Octets.ofU16 0)
  let payload ← sliceFrom buf headerEnd
  return buf.take headerEnd ++ (← repr.question.emit payload)

/-- Emitting needs no more than a buffer of the right length. -/
theorem exists_emit {buf : List UInt8} (h : buf.length = repr.bufferLen) :
    ∃ buf', repr.emit buf = .ok buf' := by
  unfold bufferLen headerEnd Question.bufferLen at h
  have hword : ∀ {l : List UInt8} (i : ℕ) (v : UInt16), i + 2 ≤ l.length →
      ∃ l', write l i (Octets.ofU16 v) = .ok l' ∧ l'.length = l.length :=
    fun i v hi => exists_write hi
  obtain ⟨buf₁, h₁, hlen₁⟩ := @hword buf 0 repr.transactionId (by omega)
  obtain ⟨buf₂, h₂, hlen₂⟩ := @hword buf₁ 2
    (Octets.readU16 buf₁ 2 &&& ~~~flagsAll ||| repr.flags) (by omega)
  obtain ⟨buf₃, h₃, hlen₃⟩ := @hword buf₂ 2 (Octets.readU16 buf₂ 2 &&& ~~~(0x3800 : UInt16) |||
    repr.opcode.toByte.toUInt16 <<< 11) (by omega)
  obtain ⟨buf₄, h₄, hlen₄⟩ := @hword buf₃ 4 1 (by omega)
  obtain ⟨buf₅, h₅, hlen₅⟩ := @hword buf₄ 6 0 (by omega)
  obtain ⟨buf₆, h₆, hlen₆⟩ := @hword buf₅ 8 0 (by omega)
  obtain ⟨buf₇, h₇, hlen₇⟩ := @hword buf₆ 10 0 (by omega)
  have hpayload : (buf₇.drop headerEnd).length = repr.question.bufferLen := by
    rw [List.length_drop, headerEnd, Question.bufferLen]
    omega
  obtain ⟨payload, hemit, -⟩ := repr.question.exists_emit hpayload
  refine ⟨buf₇.take headerEnd ++ payload, ?_⟩
  unfold emit Packet.setFlags Packet.setOpcode
  rw [h₁, ok_bind, readU16_of (by omega), ok_bind, h₂, ok_bind, readU16_of (by omega), ok_bind, h₃,
    ok_bind, h₄, ok_bind, h₅, ok_bind, h₆, ok_bind, h₇, ok_bind,
    sliceFrom_of (by rw [headerEnd]; omega), ok_bind, hemit, ok_bind]
  rfl

end DnsRepr

end Requests

end Dns

end Smoltcp
