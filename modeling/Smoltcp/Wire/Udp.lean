import Smoltcp.Wire.Checksum
import Smoltcp.Wire.Outcome

/-!
# UDP datagrams

The checksum covers as many octets as the length field says. A checksum of zero stands for none.
-/

namespace Smoltcp

def udpHeaderLen : ℕ := 8

namespace UdpPacket

open Outcome

section Fields

variable (buf : List UInt8)

def srcPort : Outcome UInt16 := readU16 buf 0

def dstPort : Outcome UInt16 := readU16 buf 2

def len : Outcome UInt16 := readU16 buf 4

def checksum : Outcome UInt16 := readU16 buf 6

/-- Ensure that no accessor method will panic if called. -/
def checkLen : Outcome Unit := do
  if buf.length < udpHeaderLen then fail
  else
    let fieldLen ← len buf
    if buf.length < fieldLen.toNat ∨ fieldLen.toNat < udpHeaderLen then fail else return ()

/-- The sum over the pseudo-header and the datagram. -/
def sum (srcAddr dstAddr : IpAddress) : Outcome UInt16 := do
  let fieldLen ← len buf
  let pseudo ← ofChecked (Checksum.pseudoHeader srcAddr dstAddr .udp fieldLen.toNat)
  let data ← slice buf 0 fieldLen.toNat
  return Checksum.combine [pseudo, Checksum.data data]

def verifyChecksum (srcAddr dstAddr : IpAddress) : Outcome Bool := do
  if (← checksum buf) = 0 then return true
  else return (← sum buf srcAddr dstAddr) = 0xffff

def payload : Outcome (List UInt8) := do
  let length ← len buf
  slice buf udpHeaderLen length.toNat

def setSrcPort (value : UInt16) : Outcome (List UInt8) := write buf 0 (Octets.ofU16 value)

def setDstPort (value : UInt16) : Outcome (List UInt8) := write buf 2 (Octets.ofU16 value)

def setLen (value : UInt16) : Outcome (List UInt8) := write buf 4 (Octets.ofU16 value)

def setChecksum (value : UInt16) : Outcome (List UInt8) := write buf 6 (Octets.ofU16 value)

/-- Compute and fill in the checksum. One that really is zero is sent as all ones. -/
def fillChecksum (srcAddr dstAddr : IpAddress) : Outcome (List UInt8) := do
  let buf ← setChecksum buf 0
  let checksum := ~~~ (← sum buf srcAddr dstAddr)
  setChecksum buf (if checksum = 0 then 0xffff else checksum)

end Fields

end UdpPacket

structure UdpRepr where
  srcPort : UInt16
  dstPort : UInt16
  deriving DecidableEq, Repr

namespace UdpRepr

open Outcome

/-- Valid checksum is expected, if checksums are verified, except on UDP over IPv4, where it can be
omitted. -/
def expectChecksum (rx : Bool) (buf : List UInt8) (srcAddr dstAddr : IpAddress) : Outcome Unit :=
  if rx then do
    if ← UdpPacket.verifyChecksum buf srcAddr dstAddr then return ()
    else
      match srcAddr, dstAddr with
      | .ipv4 _, .ipv4 _ => reject ((← UdpPacket.checksum buf) ≠ 0)
      | _, _ => fail
  else return ()

/-- Parse a datagram. `rx` tells whether checksums are verified. -/
def parse (rx : Bool) (buf : List UInt8) (srcAddr dstAddr : IpAddress) : Outcome UdpRepr := do
  UdpPacket.checkLen buf
  -- Destination port cannot be omitted (but source port can be).
  reject ((← UdpPacket.dstPort buf) = 0)
  expectChecksum rx buf srcAddr dstAddr
  return { srcPort := ← UdpPacket.srcPort buf, dstPort := ← UdpPacket.dstPort buf }

def headerLen (_ : UdpRepr) : ℕ := udpHeaderLen

/-- Emit a header without a checksum, as for a header that is decompressed. -/
def emitHeader (repr : UdpRepr) (buf : List UInt8) (payloadLen : ℕ) : Outcome (List UInt8) := do
  let buf ← UdpPacket.setSrcPort buf repr.srcPort
  let buf ← UdpPacket.setDstPort buf repr.dstPort
  let buf ← UdpPacket.setLen buf (.ofNat (udpHeaderLen + payloadLen))
  UdpPacket.setChecksum buf 0

end UdpRepr

namespace UdpPacket

open Outcome Octets

variable {buf : List UInt8} {srcAddr dstAddr : IpAddress}

/-- The length field lies inside the buffer, and the header inside the length field. -/
structure Framed (buf : List UInt8) : Prop where
  header_le : udpHeaderLen ≤ (Octets.readU16 buf 4).toNat
  le_length : (Octets.readU16 buf 4).toNat ≤ buf.length

namespace Framed

lemma length_ge (h : Framed buf) : 8 ≤ buf.length := le_trans h.header_le h.le_length

lemma len_eq (h : Framed buf) : len buf = .ok (Octets.readU16 buf 4) := by
  have := h.length_ge
  exact readU16_of (by omega)

lemma checksum_eq (h : Framed buf) : checksum buf = .ok (Octets.readU16 buf 6) := by
  have := h.length_ge
  exact readU16_of (by omega)

lemma setChecksum_eq (h : Framed buf) (v : UInt16) :
    setChecksum buf v = .ok (writeU16 buf 6 v) := by
  have := h.length_ge
  exact write_of (by simpa using by omega)

/-- Writing a checksum does not change what the length field says. -/
lemma readU16_writeU16 (h : Framed buf) (v : UInt16) :
    Octets.readU16 (writeU16 buf 6 v) 4 = Octets.readU16 buf 4 := by
  have hlen := h.length_ge
  rw [Octets.readU16, Octets.readU16, get_writeU16 (by omega) v (by omega),
    get_writeU16 (by omega) v (by omega)]

lemma writeU16 (h : Framed buf) (v : UInt16) : Framed (writeU16 buf 6 v) := by
  have hlen := h.length_ge
  refine ⟨?_, ?_⟩
  · rw [h.readU16_writeU16]
    exact h.header_le
  · rw [h.readU16_writeU16, length_writeU16 (by omega)]
    exact h.le_length

end Framed

lemma checkLen_eq_ok_iff : checkLen buf = .ok () ↔ Framed buf := by
  unfold checkLen
  by_cases hlen : buf.length < udpHeaderLen
  · rw [if_pos hlen]
    exact ⟨nofun, fun h => absurd h.length_ge (by simpa [udpHeaderLen] using hlen)⟩
  · rw [if_neg hlen, len, readU16_of (by simp [udpHeaderLen] at hlen; omega), ok_bind]
    split_ifs with hbad
    · refine ⟨nofun, fun h => ?_⟩
      have := h.header_le
      have := h.le_length
      omega
    · refine ⟨fun _ => ⟨?_, ?_⟩, fun _ => rfl⟩ <;> omega

end UdpPacket

end Smoltcp
