import Smoltcp.Wire.Udp

/-!
# Compressed UDP headers

A header of 6LoWPAN_NHC: an octet that says how ports and checksum are carried, the ports and the
checksum, followed by the payload. Ports of the ranges `0xf000..=0xf0ff` and `0xf0b0..=0xf0bf` are
carried by their last 8 or 4 bits. Where both ports have 4 bits, or only the destination has 8, what
is written is not what is read (`parse_emit_iff`).
-/

namespace Smoltcp

namespace UdpNhcPacket

open Outcome

/-! ### Fields -/

section Fields

variable (buf : List UInt8)

/-- Bits of the first octet. -/
def field (mask shift : UInt8) : Outcome UInt8 := do
  let raw ← index buf 0
  return (raw >>> shift) &&& mask

def setField (mask shift value : UInt8) : Outcome (List UInt8) := do
  let raw ← index buf 0
  write buf 0 [(raw &&& ~~~ (mask <<< shift)) ||| (value <<< shift)]

def dispatchField : Outcome UInt8 := field buf 0b11111 3

def checksumField : Outcome UInt8 := field buf 0b1 2

def portsField : Outcome UInt8 := field buf 0b11 0

/-- The size of the checksum field. -/
def checksumSize : Outcome ℕ := do
  let c ← checksumField buf
  if c = 0b0 then return 2
  else if c = 0b1 then return 0
  else .error (.panic .unreachable)

/-- The total size of both port numbers. -/
def portsSize : Outcome ℕ := do
  let p ← portsField buf
  if p = 0b00 then return 4
  else if p = 0b01 then return 3
  else if p = 0b10 then return 3
  else if p = 0b11 then return 1
  else .error (.panic .unreachable)

def checkLen : Outcome Unit := do
  if buf.length = 0 then fail
  else
    let index := 1 + (← portsSize buf) + (← checksumSize buf)
    reject (buf.length < index)

def srcPort : Outcome UInt16 := do
  let p ← portsField buf
  -- the full 16 bits are carried in-line
  if p = 0b00 ∨ p = 0b01 then readU16 buf 1
  -- the first 8 bits are elided
  else if p = 0b10 then return (0xf000 : UInt16) + (← index buf 1).toUInt16
  -- the first 12 bits are elided
  else if p = 0b11 then return (0xf0b0 : UInt16) + ((← index buf 1) >>> 4).toUInt16
  else .error (.panic .unreachable)

def dstPort : Outcome UInt16 := do
  let p ← portsField buf
  if p = 0b00 then readU16 buf 3
  else if p = 0b01 then return (0xf000 : UInt16) + (← index buf 1).toUInt16
  else if p = 0b10 then readU16 buf 2
  else if p = 0b11 then return (0xf0b0 : UInt16) + ((← index buf 1) &&& 0xff).toUInt16
  else .error (.panic .unreachable)

def checksum : Outcome (Option UInt16) := do
  if (← checksumField buf) = 0b0 then return some (← readU16 buf (1 + (← portsSize buf)))
  else return none

def payload : Outcome (List UInt8) := do
  let start := 1 + (← portsSize buf) + (← checksumSize buf)
  sliceFrom buf start

/-- Fill in the payload, behind a checksum that is assumed to be carried in-line. -/
def payloadMut (emitPayload : List UInt8 → Outcome (List UInt8)) : Outcome (List UInt8) := do
  let start := 1 + (← portsSize buf) + 2
  let payload ← emitPayload (← sliceFrom buf start)
  return buf.take start ++ payload

/-- Set the dispatch field to `0b11110`. -/
def setDispatchField : Outcome (List UInt8) := setField buf 0b11111 3 0b11110

def setChecksumField (value : UInt8) : Outcome (List UInt8) := setField buf 0b1 2 value

def setPortsField (value : UInt8) : Outcome (List UInt8) := setField buf 0b11 0 value

def setPorts (srcPort dstPort : UInt16) : Outcome (List UInt8) := do
  if (0xf0b0 ≤ srcPort ∧ srcPort ≤ 0xf0bf) ∧ (0xf0b0 ≤ dstPort ∧ dstPort ≤ 0xf0bf) then
    -- We can compress both the source and destination ports.
    let buf ← setPortsField buf 0b11
    write buf 1 [((srcPort - 0xf0b0).toUInt8 <<< 4) &&& (dstPort - 0xf0b0).toUInt8]
  else if 0xf000 ≤ srcPort ∧ srcPort ≤ 0xf0ff then
    -- We can compress the source port, but not the destination port.
    let buf ← setPortsField buf 0b10
    let buf ← write buf 1 [(srcPort - 0xf000).toUInt8]
    write buf 2 (Octets.ofU16 dstPort)
  else if 0xf000 ≤ dstPort ∧ dstPort ≤ 0xf0ff then
    -- We can compress the destination port, but not the source port.
    let buf ← setPortsField buf 0b01
    let buf ← write buf 1 (Octets.ofU16 srcPort)
    write buf 3 [(dstPort - 0xf000).toUInt8]
  else
    -- We cannot compress any port.
    let buf ← setPortsField buf 0b00
    let buf ← write buf 1 (Octets.ofU16 srcPort)
    write buf 3 (Octets.ofU16 dstPort)

def setChecksum (checksum : UInt16) : Outcome (List UInt8) := do
  let buf ← setChecksumField buf 0b0
  write buf (1 + (← portsSize buf)) (Octets.ofU16 checksum)

end Fields

end UdpNhcPacket

/-! ### Representation -/

/-- A high-level representation of a 6LoWPAN NHC UDP header. -/
structure UdpNhcRepr where
  udp : UdpRepr
  deriving DecidableEq, Repr

namespace UdpNhcRepr

open Outcome

/-- The checksum of a datagram, from the fields of its header and its payload. -/
def sum (srcAddr dstAddr : BitVec 128) (srcPort dstPort : UInt16) (payloadLen : ℕ)
    (payload : List UInt8) : UInt16 :=
  ~~~ Checksum.combine [
    Checksum.pseudoHeaderV6 srcAddr dstAddr IpProtocol.udp.toByte (payloadLen + 8), srcPort,
    dstPort, .ofNat payloadLen + 8, Checksum.data payload]

def expectChecksum (rx : Bool) (buf : List UInt8) (srcAddr dstAddr : BitVec 128) : Outcome Unit :=
  if rx then do
    let payload ← UdpNhcPacket.payload buf
    let srcPort ← UdpNhcPacket.srcPort buf
    let dstPort ← UdpNhcPacket.dstPort buf
    let checksum ← UdpNhcPacket.checksum buf
    match checksum with
    | some checksum => reject (sum srcAddr dstAddr srcPort dstPort payload.length payload ≠
        checksum)
    | none => return ()
  else return ()

/-- Parse a compressed header. `rx` tells whether checksums are verified. -/
def parse (rx : Bool) (buf : List UInt8) (srcAddr dstAddr : BitVec 128) : Outcome UdpNhcRepr := do
  UdpNhcPacket.checkLen buf
  reject ((← UdpNhcPacket.dispatchField buf) ≠ 0b11110)
  expectChecksum rx buf srcAddr dstAddr
  return ⟨{ srcPort := ← UdpNhcPacket.srcPort buf, dstPort := ← UdpNhcPacket.dstPort buf }⟩

def headerLen (repr : UdpNhcRepr) : ℕ :=
  -- the minimal header size, and a checksum at the end
  let len := 1 + 2
  let srcPort := repr.udp.srcPort
  let dstPort := repr.udp.dstPort
  if (0xf0b0 ≤ srcPort ∧ srcPort ≤ 0xf0bf) ∧ (0xf0b0 ≤ dstPort ∧ dstPort ≤ 0xf0bf) then len + 1
  else if (0xf000 ≤ srcPort ∧ srcPort ≤ 0xf0ff) ∨ (0xf000 ≤ dstPort ∧ dstPort ≤ 0xf0ff) then len + 3
  else len + 4

/-- Emit a compressed header and a payload. `tx` tells whether checksums are computed. -/
def emit (tx : Bool) (repr : UdpNhcRepr) (buf : List UInt8) (srcAddr dstAddr : BitVec 128)
    (payloadLen : ℕ) (emitPayload : List UInt8 → Outcome (List UInt8)) : Outcome (List UInt8) := do
  let buf ← UdpNhcPacket.setDispatchField buf
  let buf ← UdpNhcPacket.setPorts buf repr.udp.srcPort repr.udp.dstPort
  let buf ← UdpNhcPacket.payloadMut buf emitPayload
  if tx then
    let payload ← sliceFrom buf (1 + (← UdpNhcPacket.portsSize buf) + 2)
    UdpNhcPacket.setChecksum buf
      (sum srcAddr dstAddr repr.udp.srcPort repr.udp.dstPort payloadLen payload)
  else return buf

end UdpNhcRepr

/-! ### What is emitted and what is read -/

namespace UdpNhcPacket

open Outcome Octets

/-- How ports are carried: the ports field and their octets. -/
def portsMode (srcPort dstPort : UInt16) : UInt8 × List UInt8 :=
  if (0xf0b0 ≤ srcPort ∧ srcPort ≤ 0xf0bf) ∧ (0xf0b0 ≤ dstPort ∧ dstPort ≤ 0xf0bf) then
    (0b11, [((srcPort - 0xf0b0).toUInt8 <<< 4) &&& (dstPort - 0xf0b0).toUInt8])
  else if 0xf000 ≤ srcPort ∧ srcPort ≤ 0xf0ff then
    (0b10, [(srcPort - 0xf000).toUInt8] ++ ofU16 dstPort)
  else if 0xf000 ≤ dstPort ∧ dstPort ≤ 0xf0ff then
    (0b01, ofU16 srcPort ++ [(dstPort - 0xf000).toUInt8])
  else (0b00, ofU16 srcPort ++ ofU16 dstPort)

/-- The first octet, with the fields of dispatch, checksum and ports. -/
def firstOctet (mode : UInt8) : UInt8 := 0xf0 ||| mode

variable {srcPort dstPort : UInt16}

/-- The port can be carried by its last 8 bits. -/
def Short (port : UInt16) : Prop := 0xf000 ≤ port ∧ port ≤ 0xf0ff

/-- The port can be carried by its last 4 bits. -/
def Tiny (port : UInt16) : Prop := 0xf0b0 ≤ port ∧ port ≤ 0xf0bf

instance (port : UInt16) : Decidable (Short port) := inferInstanceAs (Decidable (_ ∧ _))

instance (port : UInt16) : Decidable (Tiny port) := inferInstanceAs (Decidable (_ ∧ _))

lemma portsMode_cases (srcPort dstPort : UInt16) :
    (Tiny srcPort ∧ Tiny dstPort ∧ portsMode srcPort dstPort =
      ((0b11 : UInt8), [((srcPort - 0xf0b0).toUInt8 <<< 4) &&& (dstPort - 0xf0b0).toUInt8])) ∨
    (¬ (Tiny srcPort ∧ Tiny dstPort) ∧ Short srcPort ∧ portsMode srcPort dstPort =
      (0b10, [(srcPort - 0xf000).toUInt8] ++ ofU16 dstPort)) ∨
    (¬ Short srcPort ∧ Short dstPort ∧ portsMode srcPort dstPort =
      (0b01, ofU16 srcPort ++ [(dstPort - 0xf000).toUInt8])) ∨
    (¬ Short srcPort ∧ ¬ Short dstPort ∧ portsMode srcPort dstPort =
      (0b00, ofU16 srcPort ++ ofU16 dstPort)) := by
  by_cases hboth : Tiny srcPort ∧ Tiny dstPort
  · exact .inl ⟨hboth.1, hboth.2, if_pos hboth⟩
  by_cases hsrc : Short srcPort
  · exact .inr (.inl ⟨hboth, hsrc, (if_neg hboth).trans (if_pos hsrc)⟩)
  by_cases hdst : Short dstPort
  · exact .inr (.inr (.inl ⟨hsrc, hdst,
      (if_neg hboth).trans ((if_neg hsrc).trans (if_pos hdst))⟩))
  · exact .inr (.inr (.inr ⟨hsrc, hdst,
      (if_neg hboth).trans ((if_neg hsrc).trans (if_neg hdst))⟩))

/-- The ports field has one of four values. -/
lemma exists_portsMode (srcPort dstPort : UInt16) :
    ∃ i : Fin 4, (portsMode srcPort dstPort).1 = UInt8.ofNat i := by
  rcases portsMode_cases srcPort dstPort with ⟨-, -, h⟩ | ⟨-, -, h⟩ | ⟨-, -, h⟩ | ⟨-, -, h⟩
  · exact ⟨3, by rw [h]; rfl⟩
  · exact ⟨2, by rw [h]; rfl⟩
  · exact ⟨1, by rw [h]; rfl⟩
  · exact ⟨0, by rw [h]; rfl⟩

lemma setField_cons (mask shift value b : UInt8) (l : List UInt8) :
    setField (b :: l) mask shift value =
      .ok (((b &&& ~~~ (mask <<< shift)) ||| (value <<< shift)) :: l) := by
  rw [setField, index_of (List.getElem?_cons_zero), ok_bind]
  exact write_append (l := []) (m := [b]) (r := l) rfl rfl

lemma field_cons (mask shift b : UInt8) (l : List UInt8) :
    field (b :: l) mask shift = .ok ((b >>> shift) &&& mask) := by
  rw [field, index_of (List.getElem?_cons_zero)]
  rfl

/-- Two writes, one behind the other. -/
lemma write_write (b : UInt8) {m d e rest : List UInt8} {n : ℕ} (hn : 1 + d.length = n)
    (hm : m.length = d.length + e.length) :
    (do let buf ← write (b :: (m ++ rest)) 1 d; write buf n e) =
      .ok (b :: (d ++ e ++ rest)) := by
  have hd : (m.take d.length).length = d.length := List.length_take_of_le (by omega)
  have hfirst := write_append (l := [b]) (m := m.take d.length) (d := d)
    (r := m.drop d.length ++ rest) rfl hd
  have hsecond := write_append (l := b :: d) (m := m.drop d.length) (d := e) (r := rest)
    (n := n) (by simpa [Nat.add_comm] using hn) (by rw [List.length_drop]; omega)
  simp only [List.cons_append, List.nil_append, List.append_assoc] at hfirst hsecond ⊢
  rw [← List.append_assoc (m.take d.length), List.take_append_drop] at hfirst
  change (do let buf ← write (b :: (m ++ rest)) [b].length d; write buf n e) = _
  rw [hfirst, ok_bind, hsecond]

/-- The ports are written behind the first octet. -/
lemma setPorts_cons (b : UInt8) {m rest : List UInt8}
    (hm : m.length = (portsMode srcPort dstPort).2.length) :
    setPorts (b :: (m ++ rest)) srcPort dstPort =
      .ok (((b &&& ~~~ ((0b11 : UInt8) <<< 0)) ||| ((portsMode srcPort dstPort).1 <<< 0)) ::
        ((portsMode srcPort dstPort).2 ++ rest)) := by
  unfold setPorts portsMode at *
  simp only [setPortsField, setField_cons, ok_bind]
  split_ifs at hm ⊢ with hboth hsrc hdst
  · exact write_append (l := [_]) rfl hm
  · exact write_write _ rfl hm
  · exact write_write _ rfl hm
  · exact write_write _ rfl hm

lemma portsSize_cons {b : UInt8} (l : List UInt8)
    (hb : b &&& 0b11 = (portsMode srcPort dstPort).1) :
    portsSize (b :: l) = .ok (portsMode srcPort dstPort).2.length := by
  have hfield : portsField (b :: l) = .ok (portsMode srcPort dstPort).1 := by
    rw [portsField, field_cons, ← hb]
    simp
  rw [portsSize, hfield, ok_bind]
  rcases portsMode_cases srcPort dstPort with ⟨-, -, h⟩ | ⟨-, -, h⟩ | ⟨-, -, h⟩ | ⟨-, -, h⟩
  all_goals
    rw [h]
    rfl

/-- The bits of the first octet, as they are set one field after the other. -/
lemma firstOctet_eq (b : UInt8) (srcPort dstPort : UInt16) :
    let ported := (((b &&& ~~~ ((0b11111 : UInt8) <<< 3)) ||| ((0b11110 : UInt8) <<< 3)) &&&
      ~~~ ((0b11 : UInt8) <<< 0)) ||| ((portsMode srcPort dstPort).1 <<< 0)
    ported &&& 0b11 = (portsMode srcPort dstPort).1 ∧
      (ported &&& ~~~ ((0b1 : UInt8) <<< 2)) ||| ((0b0 : UInt8) <<< 2) =
        firstOctet (portsMode srcPort dstPort).1 := by
  have hall : ∀ (b : BitVec 8) (i : Fin 4),
      let ported := (((UInt8.ofBitVec b &&& ~~~ ((0b11111 : UInt8) <<< 3)) |||
        ((0b11110 : UInt8) <<< 3)) &&& ~~~ ((0b11 : UInt8) <<< 0)) ||| (UInt8.ofNat i <<< 0)
      ported &&& 0b11 = UInt8.ofNat i ∧
        (ported &&& ~~~ ((0b1 : UInt8) <<< 2)) ||| ((0b0 : UInt8) <<< 2) =
          firstOctet (UInt8.ofNat i) := by
    decide +kernel
  obtain ⟨i, hi⟩ := exists_portsMode srcPort dstPort
  rw [hi]
  exact hall b.toBitVec i

/-- The fields of the first octet. -/
lemma firstOctet_fields (srcPort dstPort : UInt16) :
    firstOctet (portsMode srcPort dstPort).1 &&& 0b11 = (portsMode srcPort dstPort).1 ∧
      (firstOctet (portsMode srcPort dstPort).1 >>> 3) &&& 0b11111 = 0b11110 ∧
      (firstOctet (portsMode srcPort dstPort).1 >>> 2) &&& 0b1 = 0 := by
  have hall : ∀ i : Fin 4, firstOctet (UInt8.ofNat i) &&& 0b11 = UInt8.ofNat i ∧
      (firstOctet (UInt8.ofNat i) >>> 3) &&& 0b11111 = 0b11110 ∧
      (firstOctet (UInt8.ofNat i) >>> 2) &&& 0b1 = 0 := by
    decide
  obtain ⟨i, hi⟩ := exists_portsMode srcPort dstPort
  rw [hi]
  exact hall i

lemma Tiny.short {port : UInt16} (h : Tiny port) : Short port :=
  ⟨UInt16.le_trans (by decide) h.1, UInt16.le_trans h.2 (by decide)⟩

lemma Short.add_sub {port : UInt16} (h : Short port) :
    (0xf000 : UInt16) + (port - 0xf000).toUInt8.toUInt16 = port := by
  have hle := UInt16.le_iff_toNat_le.mp h.1
  have hge := UInt16.le_iff_toNat_le.mp h.2
  apply UInt16.toNat.inj
  rw [UInt16.toNat_add, UInt8.toNat_toUInt16, UInt16.toNat_toUInt8,
    UInt16.toNat_sub_of_le _ _ h.1]
  change (61440 + (port.toNat - 61440) % 2 ^ 8) % 2 ^ 16 = port.toNat
  change 61440 ≤ port.toNat at hle
  change port.toNat ≤ 61695 at hge
  omega

/-- The four bits of the source port are lost, and those of the destination port with them. -/
lemma Tiny.octet_eq {srcPort dstPort : UInt16} (hsrc : Tiny srcPort) (hdst : Tiny dstPort) :
    ((srcPort - 0xf0b0).toUInt8 <<< 4) &&& (dstPort - 0xf0b0).toUInt8 = 0 := by
  have hlow : ∀ {port : UInt16}, Tiny port →
      ∃ i : Fin 16, (port - 0xf0b0).toUInt8 = UInt8.ofNat i := by
    intro port h
    have hle := UInt16.le_iff_toNat_le.mp h.1
    have hge := UInt16.le_iff_toNat_le.mp h.2
    change 61616 ≤ port.toNat at hle
    change port.toNat ≤ 61631 at hge
    refine ⟨⟨port.toNat - 61616, by omega⟩, ?_⟩
    apply UInt8.toNat.inj
    rw [UInt16.toNat_toUInt8, UInt16.toNat_sub_of_le _ _ h.1, UInt8.toNat_ofNat']
    rfl
  obtain ⟨i, hi⟩ := hlow hsrc
  obtain ⟨j, hj⟩ := hlow hdst
  have hall : ∀ i j : Fin 16, (UInt8.ofNat i <<< 4) &&& UInt8.ofNat j = 0 := by decide
  rw [hi, hj, hall]

/-- The octets of a compressed header and its payload. -/
def octets (srcPort dstPort checksum : UInt16) (payload : List UInt8) : List UInt8 :=
  firstOctet (portsMode srcPort dstPort).1 ::
    ((portsMode srcPort dstPort).2 ++ (ofU16 checksum ++ payload))

section Octets

variable (srcPort dstPort checksum : UInt16) (payload : List UInt8)

lemma portsField_octets : portsField (octets srcPort dstPort checksum payload) =
    .ok (portsMode srcPort dstPort).1 := by
  have h := (firstOctet_fields srcPort dstPort).1
  rw [portsField, octets, field_cons, UInt8.shiftRight_zero, h]

lemma srcPort_octets : UdpNhcPacket.srcPort (octets srcPort dstPort checksum payload) =
    .ok (if Tiny srcPort ∧ Tiny dstPort then 0xf0b0 else srcPort) := by
  rcases portsMode_cases srcPort dstPort with ⟨hs, hd, h⟩ | ⟨hn, hs, h⟩ | ⟨hs, hd, h⟩ | ⟨hs, hd, h⟩
  · rw [if_pos ⟨hs, hd⟩, UdpNhcPacket.srcPort, portsField_octets, octets, h, hs.octet_eq hd]
    rfl
  · rw [if_neg hn, UdpNhcPacket.srcPort, portsField_octets, octets, h]
    exact congrArg Except.ok hs.add_sub
  · rw [if_neg fun hb => hs hb.1.short, UdpNhcPacket.srcPort, portsField_octets, octets, h]
    exact readU16_append (l := [firstOctet 0b01]) rfl srcPort
  · rw [if_neg fun hb => hs hb.1.short, UdpNhcPacket.srcPort, portsField_octets, octets, h]
    exact readU16_append (l := [firstOctet 0b00]) rfl srcPort

/-- Where only the destination port is short, the first octet of the source port is read for it. -/
lemma dstPort_octets : UdpNhcPacket.dstPort (octets srcPort dstPort checksum payload) =
    .ok (if Tiny srcPort ∧ Tiny dstPort then 0xf0b0
      else if ¬ Short srcPort ∧ Short dstPort then
        0xf000 + (UInt8.ofNat (srcPort.toNat / 256)).toUInt16
      else dstPort) := by
  rcases portsMode_cases srcPort dstPort with ⟨hs, hd, h⟩ | ⟨hn, hs, h⟩ | ⟨hs, hd, h⟩ | ⟨hs, hd, h⟩
  · rw [if_pos ⟨hs, hd⟩, UdpNhcPacket.dstPort, portsField_octets, octets, h, hs.octet_eq hd]
    rfl
  · rw [if_neg hn, if_neg fun hb => hb.1 hs, UdpNhcPacket.dstPort, portsField_octets, octets, h]
    exact readU16_append (l := [firstOctet 0b10, (srcPort - 0xf000).toUInt8]) rfl dstPort
  · rw [if_neg fun hb => hs hb.1.short, if_pos ⟨hs, hd⟩, UdpNhcPacket.dstPort, portsField_octets,
      octets, h]
    rfl
  · rw [if_neg fun hb => hs hb.1.short, if_neg fun hb => hd hb.2, UdpNhcPacket.dstPort,
      portsField_octets, octets, h]
    exact readU16_append (l := firstOctet 0b00 :: ofU16 srcPort) rfl dstPort

lemma portsSize_octets : portsSize (octets srcPort dstPort checksum payload) =
    .ok (portsMode srcPort dstPort).2.length :=
  portsSize_cons _ (firstOctet_fields srcPort dstPort).1

lemma checksumField_octets : checksumField (octets srcPort dstPort checksum payload) = .ok 0 := by
  have h := (firstOctet_fields srcPort dstPort).2.2
  rw [checksumField, octets, field_cons, h]

lemma checksumSize_octets : checksumSize (octets srcPort dstPort checksum payload) = .ok 2 := by
  rw [checksumSize, checksumField_octets]
  rfl

lemma checksum_octets : UdpNhcPacket.checksum (octets srcPort dstPort checksum payload) =
    .ok (some checksum) := by
  have hread : Outcome.readU16 (octets srcPort dstPort checksum payload)
      (1 + (portsMode srcPort dstPort).2.length) = .ok checksum := by
    have hat := readU16_append (l := firstOctet (portsMode srcPort dstPort).1 ::
      (portsMode srcPort dstPort).2) (r := payload)
      (n := 1 + (portsMode srcPort dstPort).2.length) (by simp [Nat.add_comm]) checksum
    simpa [octets] using hat
  rw [UdpNhcPacket.checksum, checksumField_octets, ok_bind, if_pos rfl, portsSize_octets, ok_bind,
    hread]
  rfl

lemma payload_octets : UdpNhcPacket.payload (octets srcPort dstPort checksum payload) =
    .ok payload := by
  have hcons : octets srcPort dstPort checksum payload =
      (firstOctet (portsMode srcPort dstPort).1 :: ((portsMode srcPort dstPort).2 ++
        ofU16 checksum)) ++ payload := by
    simp [octets]
  rw [UdpNhcPacket.payload, portsSize_octets, ok_bind, checksumSize_octets, ok_bind,
    sliceFrom_of (by simp [octets]; omega), hcons, List.drop_left']
  simp
  omega

lemma dispatchField_octets : dispatchField (octets srcPort dstPort checksum payload) =
    .ok 0b11110 := by
  have h := (firstOctet_fields srcPort dstPort).2.1
  rw [dispatchField, octets, field_cons, h]

lemma checkLen_octets : checkLen (octets srcPort dstPort checksum payload) = .ok () := by
  have hlen : (octets srcPort dstPort checksum payload).length =
      1 + (portsMode srcPort dstPort).2.length + 2 + payload.length := by
    simp [octets]
    omega
  rw [checkLen, if_neg (by omega), portsSize_octets, ok_bind, checksumSize_octets, ok_bind]
  exact reject_of_not (by omega)

end Octets

end UdpNhcPacket

namespace UdpNhcRepr

open Outcome Octets UdpNhcPacket

variable (repr : UdpNhcRepr)

lemma headerLen_eq : repr.headerLen =
    1 + (portsMode repr.udp.srcPort repr.udp.dstPort).2.length + 2 := by
  have hlen : repr.headerLen = if Tiny repr.udp.srcPort ∧ Tiny repr.udp.dstPort then 4
      else if Short repr.udp.srcPort ∨ Short repr.udp.dstPort then 6 else 7 := rfl
  rw [hlen]
  rcases portsMode_cases repr.udp.srcPort repr.udp.dstPort with
    ⟨hs, hd, h⟩ | ⟨hn, hs, h⟩ | ⟨hs, hd, h⟩ | ⟨hs, hd, h⟩
  · rw [h, if_pos ⟨hs, hd⟩]
    rfl
  · rw [h, if_neg hn, if_pos (.inl hs)]
    rfl
  · rw [h, if_neg fun hb => hs hb.1.short, if_pos (.inr hd)]
    rfl
  · rw [h, if_neg fun hb => hs hb.1.short, if_neg (by simp [hs, hd])]
    rfl

variable {repr} {srcAddr dstAddr : BitVec 128} {payload : List UInt8}

/-- What is emitted does not depend on what was in the buffer. -/
lemma emit_eq {buf : List UInt8} (hbuf : buf.length = repr.headerLen + payload.length) :
    emit true repr buf srcAddr dstAddr payload.length (copyFromSlice payload) =
      .ok (octets repr.udp.srcPort repr.udp.dstPort
        (sum srcAddr dstAddr repr.udp.srcPort repr.udp.dstPort payload.length payload)
        payload) := by
  set ports := (portsMode repr.udp.srcPort repr.udp.dstPort).2 with hports
  rw [headerLen_eq, ← hports] at hbuf
  obtain ⟨b, rest, rfl⟩ := List.exists_cons_of_length_pos (show 0 < buf.length by omega)
  rw [List.length_cons] at hbuf
  -- the buffer has a place for the ports, one for the checksum and one for the payload
  obtain ⟨m, c, r, rfl, hm, hc, hr⟩ : ∃ m c r, rest = m ++ (c ++ r) ∧ m.length = ports.length ∧
      c.length = 2 ∧ r.length = payload.length := by
    refine ⟨rest.take ports.length, (rest.drop ports.length).take 2,
      (rest.drop ports.length).drop 2, ?_, ?_, ?_, ?_⟩
    · rw [List.take_append_drop, List.take_append_drop]
    · exact List.length_take_of_le (by omega)
    · exact List.length_take_of_le (by rw [List.length_drop]; omega)
    · simp only [List.length_drop]
      omega
  obtain ⟨hfield, hfirst⟩ := firstOctet_eq b repr.udp.srcPort repr.udp.dstPort
  set ported := (((b &&& ~~~ ((0b11111 : UInt8) <<< 3)) ||| ((0b11110 : UInt8) <<< 3)) &&&
    ~~~ ((0b11 : UInt8) <<< 0)) ||| ((portsMode repr.udp.srcPort repr.udp.dstPort).1 <<< 0)
    with hported
  have hpay : payloadMut (ported :: (ports ++ (c ++ r))) (copyFromSlice payload) =
      .ok (ported :: (ports ++ (c ++ payload))) := by
    have hcons : ported :: (ports ++ (c ++ r)) = (ported :: (ports ++ c)) ++ r := by simp
    have hlen : (ported :: (ports ++ c)).length = 1 + ports.length + 2 := by simp [hc]; omega
    rw [payloadMut, portsSize_cons _ hfield, ok_bind, hcons]
    dsimp only
    rw [← hports, sliceFrom_of (by rw [List.length_append]; omega), ok_bind,
      List.drop_left' hlen, copyFromSlice_of hr, ok_bind, List.take_left' hlen]
    simp
  have hslice : sliceFrom (ported :: (ports ++ (c ++ payload))) (1 + ports.length + 2) =
      .ok payload := by
    have hcons : ported :: (ports ++ (c ++ payload)) = (ported :: (ports ++ c)) ++ payload := by
      simp
    have hlen : (ported :: (ports ++ c)).length = 1 + ports.length + 2 := by simp [hc]; omega
    rw [hcons, sliceFrom_of (by rw [List.length_append]; omega), List.drop_left' hlen]
  have hsum : ∀ v, setChecksum (ported :: (ports ++ (c ++ payload))) v =
      .ok (octets repr.udp.srcPort repr.udp.dstPort v payload) := by
    intro v
    rw [setChecksum, setChecksumField, setField_cons, ok_bind, hfirst,
      portsSize_cons _ (firstOctet_fields repr.udp.srcPort repr.udp.dstPort).1, ok_bind]
    have hat := write_append (l := firstOctet (portsMode repr.udp.srcPort repr.udp.dstPort).1 ::
      ports) (m := c) (d := ofU16 v) (r := payload) (n := 1 + ports.length)
      (by simp [Nat.add_comm]) (by simpa using hc)
    simpa [octets] using hat
  rw [emit, setDispatchField, setField_cons, ok_bind, setPorts_cons _ hm, ok_bind, hpay, ok_bind,
    if_pos rfl, portsSize_cons _ hfield, ok_bind, hslice, ok_bind, hsum]

/-- The header is parsed back, if the ports that are read from it are those it was made with. -/
lemma parse_octets {srcPort dstPort checksum : UInt16}
    (hsum : checksum = sum srcAddr dstAddr srcPort dstPort payload.length payload)
    (hsrc : UdpNhcPacket.srcPort (octets srcPort dstPort checksum payload) = .ok srcPort)
    (hdst : UdpNhcPacket.dstPort (octets srcPort dstPort checksum payload) = .ok dstPort) :
    parse true (octets srcPort dstPort checksum payload) srcAddr dstAddr =
      .ok ⟨srcPort, dstPort⟩ := by
  have hcheck := checkLen_octets srcPort dstPort checksum payload
  have hexpect : expectChecksum true (octets srcPort dstPort checksum payload) srcAddr dstAddr =
      .ok () := by
    rw [expectChecksum, if_pos rfl, payload_octets, ok_bind, hsrc, ok_bind, hdst, ok_bind,
      checksum_octets, ok_bind]
    exact reject_of_not (by simp [hsum])
  rw [parse, hcheck, ok_bind, dispatchField_octets, ok_bind, reject_of_not (by simp), ok_bind,
    hexpect, ok_bind, hsrc, ok_bind, hdst, ok_bind]
  rfl

/-- What is parsed has the ports that are read. -/
lemma ports_of_parse {rx : Bool} {buf : List UInt8} {r : UdpNhcRepr}
    (h : parse rx buf srcAddr dstAddr = .ok r) :
    UdpNhcPacket.srcPort buf = .ok r.udp.srcPort ∧
      UdpNhcPacket.dstPort buf = .ok r.udp.dstPort := by
  obtain ⟨_, -, h⟩ := bind_eq_ok.mp h
  obtain ⟨_, -, h⟩ := bind_eq_ok.mp h
  obtain ⟨_, -, h⟩ := bind_eq_ok.mp h
  obtain ⟨_, -, h⟩ := bind_eq_ok.mp h
  obtain ⟨srcPort, hsrc, h⟩ := bind_eq_ok.mp h
  obtain ⟨dstPort, hdst, h⟩ := bind_eq_ok.mp h
  cases h
  exact ⟨hsrc, hdst⟩

/-- A header and payload that are emitted into a buffer and parsed from it. -/
def RoundTrip (repr : UdpNhcRepr) (srcAddr dstAddr : BitVec 128) (payload buf : List UInt8) :
    Prop :=
  ∃ out, emit true repr buf srcAddr dstAddr payload.length (copyFromSlice payload) = .ok out ∧
    checkLen out = .ok () ∧ parse true out srcAddr dstAddr = .ok repr ∧
    UdpNhcPacket.payload out = .ok payload ∧
    ∃ ports checksum, portsSize out = .ok ports ∧ checksumSize out = .ok checksum ∧
      1 + ports + checksum = repr.headerLen

/-- The ports that survive: not two of 4 bits other than the first, and a short destination port
only if its last octet is the first of a source port that is not short. -/
structure Kept (srcPort dstPort : UInt16) : Prop where
  tiny : Tiny srcPort → Tiny dstPort → srcPort = 0xf0b0 ∧ dstPort = 0xf0b0
  short : ¬ Short srcPort → Short dstPort → dstPort.toNat = 0xf000 + srcPort.toNat / 256

lemma kept_iff {srcPort dstPort : UInt16} : Kept srcPort dstPort ↔
    (if Tiny srcPort ∧ Tiny dstPort then 0xf0b0 else srcPort) = srcPort ∧
    (if Tiny srcPort ∧ Tiny dstPort then 0xf0b0
      else if ¬ Short srcPort ∧ Short dstPort then
        0xf000 + (UInt8.ofNat (srcPort.toNat / 256)).toUInt16
      else dstPort) = dstPort := by
  have hread : (0xf000 + (UInt8.ofNat (srcPort.toNat / 256)).toUInt16 = dstPort) ↔
      dstPort.toNat = 0xf000 + srcPort.toNat / 256 := by
    have hlt := srcPort.toNat_lt
    have hval : (0xf000 + (UInt8.ofNat (srcPort.toNat / 256)).toUInt16 : UInt16).toNat =
        0xf000 + srcPort.toNat / 256 := by
      rw [UInt16.toNat_add, UInt8.toNat_toUInt16, UInt8.toNat_ofNat']
      change (61440 + srcPort.toNat / 256 % 2 ^ 8) % 2 ^ 16 = 61440 + srcPort.toNat / 256
      omega
    rw [← UInt16.toNat_inj, hval, eq_comm]
  by_cases htiny : Tiny srcPort ∧ Tiny dstPort
  · rw [if_pos htiny, if_pos htiny]
    constructor
    · intro h
      obtain ⟨hs, hd⟩ := h.tiny htiny.1 htiny.2
      exact ⟨hs.symm, hd.symm⟩
    · rintro ⟨hs, hd⟩
      exact ⟨fun _ _ => ⟨hs.symm, hd.symm⟩, fun hn => absurd htiny.1.short hn⟩
  · rw [if_neg htiny, if_neg htiny]
    by_cases hshort : ¬ Short srcPort ∧ Short dstPort
    · rw [if_pos hshort, hread]
      constructor
      · intro h
        exact ⟨rfl, h.short hshort.1 hshort.2⟩
      · intro h
        exact ⟨fun hs hd => absurd ⟨hs, hd⟩ htiny, fun _ _ => h.2⟩
    · rw [if_neg hshort]
      refine ⟨fun _ => ⟨rfl, rfl⟩, fun _ => ⟨fun hs hd => absurd ⟨hs, hd⟩ htiny, fun hs hd => ?_⟩⟩
      exact absurd ⟨hs, hd⟩ hshort

lemma RoundTrip.kept {buf : List UInt8} (hbuf : buf.length = repr.headerLen + payload.length)
    (h : RoundTrip repr srcAddr dstAddr payload buf) : Kept repr.udp.srcPort repr.udp.dstPort := by
  obtain ⟨out, hout, -, hparse, -⟩ := h
  rw [emit_eq hbuf] at hout
  obtain rfl := Except.ok.inj hout
  obtain ⟨hsrc, hdst⟩ := ports_of_parse hparse
  rw [srcPort_octets] at hsrc
  rw [dstPort_octets] at hdst
  exact kept_iff.mpr ⟨Except.ok.inj hsrc, Except.ok.inj hdst⟩

/-- A compressed header is parsed back exactly if its ports are kept. -/
theorem parse_emit_iff {buf : List UInt8} (hbuf : buf.length = repr.headerLen + payload.length) :
    RoundTrip repr srcAddr dstAddr payload buf ↔ Kept repr.udp.srcPort repr.udp.dstPort := by
  refine ⟨RoundTrip.kept hbuf, fun hkept => ?_⟩
  obtain ⟨hsrc, hdst⟩ := kept_iff.mp hkept
  refine ⟨_, emit_eq hbuf, checkLen_octets _ _ _ _, parse_octets rfl ?_ ?_, payload_octets _ _ _ _,
    _, _, portsSize_octets _ _ _ _, checksumSize_octets _ _ _ _, ?_⟩
  · rw [srcPort_octets, hsrc]
  · rw [dstPort_octets, hdst]
  · rw [headerLen_eq]

theorem parse_emit_dns :
    RoundTrip ⟨⟨0xf012, 53⟩⟩ 1 2 [0xab] (List.replicate 7 0xff) :=
  (@parse_emit_iff ⟨⟨0xf012, 53⟩⟩ 1 2 [0xab] (List.replicate 7 0xff) (by decide)).mpr
    ⟨by decide, by decide⟩

/-- Two ports of 4 bits, and a destination port of 8 bits with a long source port. -/
theorem not_parse_emit :
    ¬ RoundTrip ⟨⟨0xf0b1, 0xf0b2⟩⟩ 1 2 [] (List.replicate 4 0) ∧
    ¬ RoundTrip ⟨⟨0x1234, 0xf001⟩⟩ 1 2 [] (List.replicate 6 0) := by
  constructor
  · intro h
    exact absurd ((h.kept (by decide)).tiny (by decide) (by decide)).1 (by decide)
  · intro h
    exact absurd ((h.kept (by decide)).short (by decide) (by decide)) (by decide)

end UdpNhcRepr

end Smoltcp
