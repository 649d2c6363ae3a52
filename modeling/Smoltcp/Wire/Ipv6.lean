import Smoltcp.Wire.Fields
import Smoltcp.Wire.Sixlowpan.Address

/-!
# IPv6 headers

A header of fixed length without options. Whatever was in the buffer, every bit of the header is set
(`emit_eq`).
-/

namespace Smoltcp

open Outcome

namespace Ipv6Packet

variable (buf : List UInt8)

def payloadLen : Outcome UInt16 := readU16 buf 4

/-- The payload length added to the known header length. -/
def totalLen : Outcome ℕ := do
  return ipv6HeaderLen + (← payloadLen buf).toNat

def version : Outcome UInt8 := do
  return (← index buf 0) >>> 4

def nextHeader : Outcome IpProtocol := do
  return .ofByte (← index buf 6)

def hopLimit : Outcome UInt8 := index buf 7

def srcAddr : Outcome Ipv6.Address := do
  Ipv6.fromBytes (← slice buf 8 24)

def dstAddr : Outcome Ipv6.Address := do
  Ipv6.fromBytes (← slice buf 24 40)

def payload : Outcome (List UInt8) := do
  slice buf ipv6HeaderLen (← totalLen buf)

/-- Ensure that no accessor method will panic if called. -/
def checkLen : Outcome Unit := do
  if buf.length < ipv6HeaderLen then fail
  else reject (buf.length < (← totalLen buf))

def setVersion (value : UInt8) : Outcome (List UInt8) := do
  let first ← index buf 0
  write buf 0 [(first &&& (0x0f : UInt8)) ||| ((value &&& (0x0f : UInt8)) <<< (4 : UInt8))]

def setTrafficClass (value : UInt8) : Outcome (List UInt8) := do
  let first ← index buf 0
  let buf ← write buf 0
    [(first &&& (0xf0 : UInt8)) ||| ((value &&& (0xf0 : UInt8)) >>> (4 : UInt8))]
  let second ← index buf 1
  write buf 1 [(second &&& (0x0f : UInt8)) ||| ((value &&& (0x0f : UInt8)) <<< (4 : UInt8))]

/-- Set the flow label. The lower order bits of the traffic class are retained. -/
def setFlowLabel (value : ℕ) : Outcome (List UInt8) := do
  let second ← index buf 1
  let raw := ((second &&& (0xf0 : UInt8)).toNat <<< 16) ||| (value &&& 0x0fffff)
  write buf 1 (Octets.ofNatBE 3 raw)

def setPayloadLen (value : UInt16) : Outcome (List UInt8) := write buf 4 (Octets.ofU16 value)

def setNextHeader (value : IpProtocol) : Outcome (List UInt8) := write buf 6 [value.toByte]

def setHopLimit (value : UInt8) : Outcome (List UInt8) := write buf 7 [value]

def setSrcAddr (value : Ipv6.Address) : Outcome (List UInt8) := write buf 8 (Ipv6.octets value)

def setDstAddr (value : Ipv6.Address) : Outcome (List UInt8) := write buf 24 (Ipv6.octets value)

lemma checkLen_safe : Safe (checkLen buf) fun _ => ipv6HeaderLen ≤ buf.length := by
  unfold checkLen
  apply Safe.ite
  · exact fun _ => Safe.fail
  intro hlen
  have hle : ipv6HeaderLen ≤ buf.length := not_lt.mp hlen
  rw [totalLen, payloadLen, readU16_of (by rw [ipv6HeaderLen] at hle; omega)]
  exact (Safe.reject _).mono fun _ _ => hle

/-! ### What the fields are -/

variable {buf}

/-- `fromBytes` of a part of sixteen octets. -/
lemma fromBytes_slice {i j : ℕ} (hj : i + 16 = j) (h : j ≤ buf.length) :
    (do Ipv6.fromBytes (← slice buf i j)) = .ok (Octets.toU128 ((buf.take j).drop i)) := by
  have hlen : ((buf.take j).drop i).length = 16 := by
    rw [List.length_drop, List.length_take]
    omega
  rw [slice_of (by omega) h, ok_bind, Ipv6.fromBytes, copyFromSlice_of (by simp [hlen])]
  rfl

/-- The buffer holds the header, and as much behind it as the length field says. -/
def Framed (buf : List UInt8) : Prop :=
  ipv6HeaderLen + (Octets.readU16 buf 4).toNat ≤ buf.length

namespace Framed

lemma length_ge (h : Framed buf) : 40 ≤ buf.length := le_trans (Nat.le_add_right _ _) h

lemma payloadLen_eq (h : Framed buf) : payloadLen buf = .ok (Octets.readU16 buf 4) := by
  have := h.length_ge
  exact readU16_of (by omega)

lemma payload_eq (h : Framed buf) :
    payload buf = .ok ((buf.drop ipv6HeaderLen).take (Octets.readU16 buf 4).toNat) := by
  rw [payload, totalLen, h.payloadLen_eq, ok_bind, pure_eq_ok, ok_bind, slice_of (by omega) h,
    List.drop_take, Nat.add_sub_cancel_left]

end Framed

lemma checkLen_eq_ok_iff : checkLen buf = .ok () ↔ Framed buf := by
  unfold checkLen Framed
  split_ifs with h
  · simp only [fail, reduceCtorEq, false_iff]
    omega
  · rw [totalLen, payloadLen, readU16_of (by rw [ipv6HeaderLen] at h; omega)]
    simp only [ok_bind, pure_eq_ok, reject, fail]
    split_ifs with hlt
    · simp only [false_iff]
      omega
    · simp only [true_iff]
      omega

end Ipv6Packet

/-- A high-level representation of an IPv6 packet header. -/
structure Ipv6Repr where
  srcAddr : Ipv6.Address
  dstAddr : Ipv6.Address
  nextHeader : IpProtocol
  payloadLen : ℕ
  hopLimit : UInt8
  deriving DecidableEq, Repr

namespace Ipv6Repr

open Ipv6Packet

def parse (buf : List UInt8) : Outcome Ipv6Repr := do
  checkLen buf
  reject ((← version buf) ≠ 6)
  return {
    srcAddr := ← Ipv6Packet.srcAddr buf
    dstAddr := ← Ipv6Packet.dstAddr buf
    nextHeader := ← Ipv6Packet.nextHeader buf
    payloadLen := (← Ipv6Packet.payloadLen buf).toNat
    hopLimit := ← Ipv6Packet.hopLimit buf }

def bufferLen (_ : Ipv6Repr) : ℕ := ipv6HeaderLen

def emit (repr : Ipv6Repr) (buf : List UInt8) : Outcome (List UInt8) := do
  let buf ← setVersion buf 6
  let buf ← setTrafficClass buf 0
  let buf ← setFlowLabel buf 0
  let buf ← setPayloadLen buf (.ofNat repr.payloadLen)
  let buf ← setHopLimit buf repr.hopLimit
  let buf ← setNextHeader buf repr.nextHeader
  let buf ← setSrcAddr buf repr.srcAddr
  setDstAddr buf repr.dstAddr

/-- The header that the first octets stand for. -/
def ofOctets (buf : List UInt8) : Ipv6Repr where
  srcAddr := Octets.toU128 ((buf.take 24).drop 8)
  dstAddr := Octets.toU128 ((buf.take 40).drop 24)
  nextHeader := .ofByte (Octets.get buf 6)
  payloadLen := (Octets.readU16 buf 4).toNat
  hopLimit := Octets.get buf 7

lemma parse_eq_ok_iff {buf : List UInt8} {repr : Ipv6Repr} : parse buf = .ok repr ↔
    Framed buf ∧ Octets.get buf 0 >>> 4 = 6 ∧ repr = ofOctets buf := by
  have heval : ∀ h : Framed buf, parse buf =
      (do reject (Octets.get buf 0 >>> 4 ≠ 6); return ofOctets buf) := by
    intro h
    have hlen := h.length_ge
    rw [parse, checkLen_eq_ok_iff.mpr h, ok_bind, version, index_get (by omega), ok_bind,
      pure_eq_ok, ok_bind, Ipv6Packet.srcAddr, fromBytes_slice rfl (by omega), ok_bind,
      Ipv6Packet.dstAddr, fromBytes_slice rfl (by omega), ok_bind, Ipv6Packet.nextHeader,
      index_get (by omega), ok_bind, pure_eq_ok, ok_bind, h.payloadLen_eq, ok_bind,
      Ipv6Packet.hopLimit, index_get (by omega)]
    rfl
  constructor
  · intro h
    obtain ⟨u, hlen, -⟩ := bind_eq_ok.mp h
    have hframed := checkLen_eq_ok_iff.mp hlen
    rw [heval hframed] at h
    by_cases hver : Octets.get buf 0 >>> 4 = 6
    · rw [reject_of_not (not_not.mpr hver)] at h
      exact ⟨hframed, hver, (Except.ok.inj h).symm⟩
    · rw [reject_of hver] at h
      cases h
  · rintro ⟨hframed, hver, rfl⟩
    rw [heval hframed, reject_of_not (not_not.mpr hver)]
    rfl

lemma parse_safe (buf : List UInt8) : Safe (parse buf) fun repr => parse buf = .ok repr := by
  refine Safe.iff.mpr ⟨fun p => ?_, fun _ h => h⟩
  by_cases h : Framed buf
  · by_cases hver : Octets.get buf 0 >>> 4 = 6
    · rw [parse_eq_ok_iff.mpr ⟨h, hver, rfl⟩]
      exact nofun
    · have hlen := h.length_ge
      rw [parse, checkLen_eq_ok_iff.mpr h, ok_bind, version, index_get (by omega), ok_bind,
        pure_eq_ok, ok_bind, reject_of hver, fail_bind]
      exact nofun
  · have hcheck : checkLen buf = fail := by
      cases hc : checkLen buf with
      | ok u => exact absurd (checkLen_eq_ok_iff.mp hc) h
      | error e =>
        have hsafe := checkLen_safe buf
        rw [hc] at hsafe
        cases e with
        | malformed => rfl
        | panic p => exact hsafe.elim
    rw [parse, hcheck, fail_bind]
    exact nofun

/-- The octets of a header. -/
def octets (repr : Ipv6Repr) : List UInt8 :=
  [0x60, 0, 0, 0] ++ Octets.ofU16 (.ofNat repr.payloadLen) ++
    [repr.nextHeader.toByte, repr.hopLimit] ++ Ipv6.octets repr.srcAddr ++ Ipv6.octets repr.dstAddr

@[simp] lemma length_octets (repr : Ipv6Repr) : (octets repr).length = ipv6HeaderLen := by
  simp [octets, ipv6HeaderLen]

/-- The first octets, as they are set one field after the other. -/
lemma first_eq (a : UInt8) :
    ((a &&& (0x0f : UInt8)) ||| (((6 : UInt8) &&& (0x0f : UInt8)) <<< (4 : UInt8))) &&&
    (0xf0 : UInt8) ||| (((0 : UInt8) &&& (0xf0 : UInt8)) >>> (4 : UInt8)) =
      0x60 ∧
    ((a &&& (0x0f : UInt8)) ||| (((0 : UInt8) &&& (0x0f : UInt8)) <<< (4 : UInt8))) &&&
      (0xf0 : UInt8) = 0 := by
  have hall : ∀ a : BitVec 8,
      ((UInt8.ofBitVec a &&& (0x0f : UInt8)) |||
      (((6 : UInt8) &&& (0x0f : UInt8)) <<< (4 : UInt8))) &&& (0xf0 : UInt8) |||
        (((0 : UInt8) &&& (0xf0 : UInt8)) >>> (4 : UInt8)) = 0x60 ∧
      ((UInt8.ofBitVec a &&& (0x0f : UInt8)) |||
        (((0 : UInt8) &&& (0x0f : UInt8)) <<< (4 : UInt8))) &&& (0xf0 : UInt8) = 0 := by
    decide +kernel
  exact hall a.toBitVec

lemma exists_header {buf : List UInt8} (h : buf.length = ipv6HeaderLen) :
    ∃ a b c d len nh hop src dst, buf = [a, b, c, d] ++ len ++ [nh, hop] ++ src ++ dst ∧
      len.length = 2 ∧ src.length = 16 ∧ dst.length = 16 := by
  match buf, h with
  | a :: b :: c :: d :: e :: f :: nh :: hop :: rest, h =>
    have hrest : rest.length = 32 := by
      simp only [List.length_cons, ipv6HeaderLen] at h
      omega
    refine ⟨a, b, c, d, [e, f], nh, hop, rest.take 16, rest.drop 16, ?_, rfl, ?_, ?_⟩
    · simp
    · simp [hrest]
    · simp [hrest]

/-- Version, traffic class and flow label. -/
lemma set_first (a b c d : UInt8) (tail : List UInt8) :
    (do let buf ← setVersion ([a, b, c, d] ++ tail) 6
        let buf ← setTrafficClass buf 0
        setFlowLabel buf 0) = .ok ([0x60, 0, 0, 0] ++ tail) := by
  have hversion : setVersion ([a, b, c, d] ++ tail) 6 =
      .ok ([(a &&& 0x0f) ||| (((6 : UInt8) &&& 0x0f) <<< (4 : UInt8)), b, c, d] ++ tail) := by
    rw [setVersion, index_of rfl, ok_bind, write_of (by simp)]
    rfl
  have hclass : ∀ a, setTrafficClass ([a, b, c, d] ++ tail) 0 =
      .ok ([(a &&& 0xf0) ||| (((0 : UInt8) &&& 0xf0) >>> (4 : UInt8)),
        (b &&& 0x0f) ||| (((0 : UInt8) &&& 0x0f) <<< (4 : UInt8)), c, d] ++ tail) := by
    intro a
    rw [setTrafficClass, index_of rfl, ok_bind, write_of (by simp), ok_bind, index_of rfl, ok_bind,
      write_of (by simp [List.overwrite])]
    rfl
  have hflow : ∀ a b : UInt8, b &&& 0xf0 = 0 → setFlowLabel ([a, b, c, d] ++ tail) 0 =
      .ok ([a, 0, 0, 0] ++ tail) := by
    intro a b hb
    rw [setFlowLabel, index_of rfl, ok_bind, hb, write_of (by simp)]
    rfl
  rw [hversion, ok_bind, hclass, ok_bind, hflow _ _ (first_eq b).2, (first_eq a).1]

/-- Every octet of the header is set, and what is behind it stays. -/
lemma emit_append (repr : Ipv6Repr) {header : List UInt8}
    (h : header.length = ipv6HeaderLen) (rest : List UInt8) :
    emit repr (header ++ rest) = .ok (octets repr ++ rest) := by
  obtain ⟨a, b, c, d, len, nh, hop, src, dst, rfl, hlen, hsrc, hdst⟩ := exists_header h
  have hparts : [a, b, c, d] ++ len ++ [nh, hop] ++ src ++ dst ++ rest =
      [a, b, c, d] ++ ([len, [nh], [hop], src, dst].flatten ++ rest) := by simp
  have hfirst := set_first a b c d ([len, [nh], [hop], src, dst].flatten ++ rest)
  obtain ⟨buf₁, hver, hfirst⟩ := bind_eq_ok.mp hfirst
  obtain ⟨buf₂, hclass, hflow⟩ := bind_eq_ok.mp hfirst
  have hbegin : [0x60, 0, 0, 0] ++ ([len, [nh], [hop], src, dst].flatten ++ rest) =
      [[0x60, 0, 0, 0], len, [nh], [hop], src, dst].flatten ++ rest := by simp
  rw [emit, hparts, hver, ok_bind, hclass, ok_bind, hflow, ok_bind, hbegin]
  unfold Ipv6Packet.setPayloadLen Ipv6Packet.setHopLimit Ipv6Packet.setNextHeader
    Ipv6Packet.setSrcAddr Ipv6Packet.setDstAddr
  rw [write_parts 1 (by simp [hlen]) (by rfl), ok_bind,
    write_parts 3 (by simp) (by simp), ok_bind, write_parts 2 (by simp) (by simp), ok_bind,
    write_parts 4 (by simp [hsrc]) (by simp), ok_bind,
    write_parts 5 (by simp [hdst]) (by simp)]
  simp [octets]

lemma emit_eq (repr : Ipv6Repr) {buf : List UInt8} (h : buf.length = ipv6HeaderLen) :
    emit repr buf = .ok (octets repr) := by
  have happend := emit_append repr h []
  rw [List.append_nil, List.append_nil] at happend
  exact happend

end Ipv6Repr

end Smoltcp
