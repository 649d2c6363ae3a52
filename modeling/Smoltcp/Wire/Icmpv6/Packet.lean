import Smoltcp.Wire.Address
import Smoltcp.Wire.Checksum
import Smoltcp.Wire.Ipv6

/-!
# ICMPv6 packets

The fields of a message in a buffer of octets. How long a buffer has to be for them depends on the
type of the message, and `checkLen` is made for the accessors not to panic.
-/

namespace Smoltcp

open Outcome

namespace Icmpv6

/-- Internet protocol control message type. -/
inductive Message where
  | dstUnreachable
  | pktTooBig
  | timeExceeded
  | paramProblem
  | echoRequest
  | echoReply
  | mldQuery
  | routerSolicit
  | routerAdvert
  | neighborSolicit
  | neighborAdvert
  | redirect
  | mldReport
  | rplControl
  | unknown (value : UInt8)
  deriving DecidableEq, Repr

namespace Message

def toByte : Message → UInt8
  | .dstUnreachable => 0x01
  | .pktTooBig => 0x02
  | .timeExceeded => 0x03
  | .paramProblem => 0x04
  | .echoRequest => 0x80
  | .echoReply => 0x81
  | .mldQuery => 0x82
  | .routerSolicit => 0x85
  | .routerAdvert => 0x86
  | .neighborSolicit => 0x87
  | .neighborAdvert => 0x88
  | .redirect => 0x89
  | .mldReport => 0x8f
  | .rplControl => 0x9b
  | .unknown value => value

def ofByte (value : UInt8) : Message :=
  if value = 0x01 then .dstUnreachable
  else if value = 0x02 then .pktTooBig
  else if value = 0x03 then .timeExceeded
  else if value = 0x04 then .paramProblem
  else if value = 0x80 then .echoRequest
  else if value = 0x81 then .echoReply
  else if value = 0x82 then .mldQuery
  else if value = 0x85 then .routerSolicit
  else if value = 0x86 then .routerAdvert
  else if value = 0x87 then .neighborSolicit
  else if value = 0x88 then .neighborAdvert
  else if value = 0x89 then .redirect
  else if value = 0x8f then .mldReport
  else if value = 0x9b then .rplControl
  else .unknown value

/-- Message types without the highest order bit are error messages, the others informational. -/
def isError (message : Message) : Prop := message.toByte &&& 0x80 ≠ 0x80

instance : DecidablePred isError := fun _ => inferInstanceAs (Decidable (_ ≠ _))

/-- The header length that the type implies. -/
def headerLen : Message → ℕ
  | .dstUnreachable | .pktTooBig | .timeExceeded | .paramProblem => 8
  | .echoRequest | .echoReply => 8
  | .routerSolicit => 8
  | .routerAdvert => 16
  | .neighborSolicit | .neighborAdvert => 24
  | .redirect => 40
  | .mldQuery => 28
  | .mldReport => 8
  | .rplControl | .unknown _ => 4

end Message

/-- Type of a message for routing over low-power and lossy networks. -/
inductive RplControlMessage where
  | dodagInformationSolicitation
  | dodagInformationObject
  | destinationAdvertisementObject
  | destinationAdvertisementObjectAck
  /-- The secure variants, which are not supported. -/
  | secure (value : UInt8)
  | unknown (value : UInt8)
  deriving DecidableEq, Repr

def RplControlMessage.ofByte (value : UInt8) : RplControlMessage :=
  if value = 0x00 then .dodagInformationSolicitation
  else if value = 0x01 then .dodagInformationObject
  else if value = 0x02 then .destinationAdvertisementObject
  else if value = 0x03 then .destinationAdvertisementObjectAck
  else if value ∈ [0x80, 0x81, 0x82, 0x83, 0x8a] then .secure value
  else .unknown value

end Icmpv6

namespace Icmpv6Packet

open Icmpv6

variable (buf : List UInt8)

def headerEnd : ℕ := 8

def msgType : Outcome Message := do
  return .ofByte (← index buf 0)

def msgCode : Outcome UInt8 := index buf 1

def headerLen : Outcome ℕ := do
  return (← msgType buf).headerLen

/-- A bit of an octet is set. -/
def bit (i : ℕ) (shift : UInt8) : Outcome Bool := do
  return ((← index buf i) >>> shift) &&& 0b1 = 0b1

def daoDodagIdPresent : Outcome Bool := bit buf 5 6

/-- Ensure that no accessor method will panic if called. -/
def checkLen : Outcome Unit := do
  reject (buf.length < 4)
  match ← msgType buf with
  | .rplControl =>
    match RplControlMessage.ofByte (← msgCode buf) with
    | .dodagInformationSolicitation => reject (buf.length < 6)
    | .dodagInformationObject => reject (buf.length < 28)
    | .destinationAdvertisementObject | .destinationAdvertisementObjectAck =>
      if buf.length < 8 then fail
      else
        let present ← daoDodagIdPresent buf
        reject (present ∧ buf.length < 24)
    | .secure _ | .unknown _ => fail
  | .unknown _ => fail
  | type => reject (buf.length < headerEnd ∨ buf.length < type.headerLen)

def verifyChecksum (srcAddr dstAddr : Ipv6.Address) : Prop :=
  Checksum.combine [Checksum.pseudoHeaderV6 srcAddr dstAddr IpProtocol.icmpv6.toByte buf.length,
    Checksum.data buf] = 0xffff

instance (srcAddr dstAddr : Ipv6.Address) : Decidable (verifyChecksum buf srcAddr dstAddr) :=
  inferInstanceAs (Decidable (_ = _))

/-- The type-specific data. -/
def payload : Outcome (List UInt8) := do
  sliceFrom buf (← headerLen buf)

def echoIdent : Outcome UInt16 := readU16 buf 4

def echoSeqNo : Outcome UInt16 := readU16 buf 6

def pktTooBigMtu : Outcome (BitVec 32) := readU32 buf 4

def paramProblemPtr : Outcome (BitVec 32) := readU32 buf 4

/-- `Ipv6Address::from_bytes(&data[i..i + 16])`. -/
def addressAt (i : ℕ) : Outcome Ipv6.Address := do
  Ipv6.fromBytes (← slice buf i (i + 16))

def setMsgType (value : Message) : Outcome (List UInt8) := write buf 0 [value.toByte]

def setMsgCode (value : UInt8) : Outcome (List UInt8) := write buf 1 [value]

/-- Clear the reserved fields in the header of a message of neighbor discovery. -/
def clearReserved : Outcome (List UInt8) := do
  match ← msgType buf with
  | .routerSolicit | .neighborSolicit | .neighborAdvert | .redirect => write buf 4 (Octets.ofU32 0)
  | _ => .error (.panic .unreachable)

variable {buf}

lemma addressAt_of {i : ℕ} (h : i + 16 ≤ buf.length) :
    addressAt buf i = .ok (Octets.toU128 ((buf.take (i + 16)).drop i)) := by
  have hlen : ((buf.take (i + 16)).drop i).length = 16 := by
    rw [List.length_drop, List.length_take]
    omega
  rw [addressAt, slice_of (by omega) h, ok_bind, Ipv6.fromBytes]
  rw [copyFromSlice_of (by simp [hlen])]
  rfl

/-- What the check says, once it is passed. -/
inductive Long (buf : List UInt8) : Prop where
  | header (type : Message) (htype : Message.ofByte (Octets.get buf 0) = type)
      (hrpl : type ≠ .rplControl) (hunknown : ∀ value, type ≠ .unknown value) (h8 : 8 ≤ buf.length)
      (hlen : type.headerLen ≤ buf.length)
  | rpl (htype : Message.ofByte (Octets.get buf 0) = .rplControl) (h6 : 6 ≤ buf.length)

namespace Long

lemma length_ge (h : Long buf) : 4 ≤ buf.length := by
  cases h with
  | header type htype hrpl hunknown h8 hlen => omega
  | rpl htype h6 => omega

lemma headerLen_le (h : Long buf) :
    (Message.ofByte (Octets.get buf 0)).headerLen ≤ buf.length := by
  cases h with
  | header type htype hrpl hunknown h8 hlen =>
    rw [htype]
    exact hlen
  | rpl htype h6 =>
    rw [htype]
    exact le_trans (by decide) h6

lemma msgType_eq (h : Long buf) : msgType buf = .ok (.ofByte (Octets.get buf 0)) := by
  have := h.length_ge
  rw [msgType, index_get (by omega)]
  rfl

lemma msgCode_eq (h : Long buf) : msgCode buf = .ok (Octets.get buf 1) := by
  have := h.length_ge
  exact index_get (by omega)

lemma payload_eq (h : Long buf) :
    payload buf = .ok (buf.drop (Message.ofByte (Octets.get buf 0)).headerLen) := by
  rw [payload, headerLen, h.msgType_eq]
  exact sliceFrom_of h.headerLen_le

end Long

/-- The length that the check of a message for routing asks for. -/
def rplLen : RplControlMessage → ℕ
  | .dodagInformationSolicitation => 6
  | .dodagInformationObject => 28
  | .destinationAdvertisementObject | .destinationAdvertisementObjectAck => 8
  | .secure _ | .unknown _ => 6

lemma checkLen_safe : Safe (checkLen buf) fun _ =>
    Long buf ∧ (Message.ofByte (Octets.get buf 0) = .rplControl →
      rplLen (.ofByte (Octets.get buf 1)) ≤ buf.length) := by
  refine (Safe.reject _).bind fun _ h4 => ?_
  have htype : msgType buf = .ok (.ofByte (Octets.get buf 0)) := by
    rw [msgType, index_get (by omega)]
    rfl
  rw [htype, ok_bind]
  cases hm : Message.ofByte (Octets.get buf 0) with
  | rplControl =>
    have hcode : msgCode buf = .ok (Octets.get buf 1) := index_get (by omega)
    simp only [hcode, ok_bind]
    have hdao : Safe (if buf.length < 8 then fail
        else do
          let present ← daoDodagIdPresent buf
          reject (present ∧ buf.length < 24)) fun _ => 8 ≤ buf.length := by
      refine Safe.ite (fun _ => Safe.fail) fun h8 => ?_
      rw [daoDodagIdPresent, bit, index_get (by omega)]
      exact (Safe.reject _).mono fun _ _ => not_lt.mp h8
    cases hr : RplControlMessage.ofByte (Octets.get buf 1) with
    | dodagInformationSolicitation =>
      exact (Safe.reject _).mono fun _ h => ⟨.rpl hm (by omega), fun _ => not_lt.mp h⟩
    | dodagInformationObject =>
      exact (Safe.reject _).mono fun _ h => ⟨.rpl hm (by omega), fun _ => not_lt.mp h⟩
    | destinationAdvertisementObject =>
      exact hdao.mono fun _ h => ⟨.rpl hm (by omega), fun _ => h⟩
    | destinationAdvertisementObjectAck =>
      exact hdao.mono fun _ h => ⟨.rpl hm (by omega), fun _ => h⟩
    | secure value => exact Safe.fail
    | unknown value => exact Safe.fail
  | unknown value => exact Safe.fail
  | _ =>
    refine (Safe.reject _).mono fun _ h => ⟨.header _ hm (by simp) (by simp) ?_ ?_, by simp⟩
    · simp only [headerEnd] at h
      omega
    · omega

end Icmpv6Packet

end Smoltcp
