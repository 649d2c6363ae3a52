import Smoltcp.Socket.Raw

/-!
# IP headers parse back

A header in front of a payload of the length that it tells is parsed to what it was made from, and
the payload is found behind it.
-/

namespace Smoltcp

/-- Protocols that were read from a packet are written back. -/
lemma IpProtocol.toByte_ofByte (number : UInt8) : (IpProtocol.ofByte number).toByte = number := by
  have hall : ∀ b : BitVec 8, (IpProtocol.ofByte (.ofBitVec b)).toByte = .ofBitVec b := by
    decide +kernel
  exact hall number.toBitVec

/-! ### IPv6 -/

namespace Ipv6Repr

open Outcome Ipv6Packet

variable (repr : Ipv6Repr) (rest : List UInt8)

lemma readPayloadLen_octets :
    Octets.readU16 (repr.octets ++ rest) 4 = .ofNat repr.payloadLen := Octets.toU16_ofNat _

lemma framed_octets (hlen : repr.payloadLen ≤ rest.length) :
    Framed (repr.octets ++ rest) := by
  rw [Framed, readPayloadLen_octets, UInt16.toNat_ofNat', List.length_append, length_octets]
  have := Nat.mod_le repr.payloadLen (2 ^ 16)
  omega

lemma ofOctets_octets (hlen : repr.payloadLen < 2 ^ 16) :
    ofOctets (repr.octets ++ rest) =
    { repr with nextHeader := .ofByte repr.nextHeader.toByte } := by
  have hsplit : repr.octets ++ rest = ([0x60, 0, 0, 0] ++ Octets.ofU16 (.ofNat repr.payloadLen) ++
      [repr.nextHeader.toByte, repr.hopLimit]) ++ Ipv6.octets repr.srcAddr ++
        (Ipv6.octets repr.dstAddr ++ rest) := by
    simp [octets]
  have hsplit' : repr.octets ++ rest = ([0x60, 0, 0, 0] ++ Octets.ofU16 (.ofNat repr.payloadLen) ++
      [repr.nextHeader.toByte, repr.hopLimit] ++ Ipv6.octets repr.srcAddr) ++
        Ipv6.octets repr.dstAddr ++ rest := by
    simp [octets]
  have hsrc : ((repr.octets ++ rest).take 24).drop 8 = Ipv6.octets repr.srcAddr := by
    rw [hsplit, List.take_left' (by simp), List.drop_left' (by simp)]
  have hdst : ((repr.octets ++ rest).take 40).drop 24 = Ipv6.octets repr.dstAddr := by
    rw [hsplit', List.take_left' (by simp), List.drop_left' (by simp)]
  have hpayload : (Octets.readU16 (repr.octets ++ rest) 4).toNat = repr.payloadLen := by
    rw [readPayloadLen_octets, UInt16.toNat_ofNat', Nat.mod_eq_of_lt hlen]
  rw [ofOctets, hsrc, hdst, hpayload, Ipv6.octets, Ipv6.octets, Octets.toU128_ofU128,
    Octets.toU128_ofU128]
  rfl

lemma parse_octets (hlt : repr.payloadLen < 2 ^ 16) (hle : repr.payloadLen ≤ rest.length) :
    parse (repr.octets ++ rest) =
      .ok { repr with nextHeader := .ofByte repr.nextHeader.toByte } := by
  refine parse_eq_ok_iff.mpr ⟨framed_octets repr rest hle, ?_, ?_⟩
  · change (0x60 : UInt8) >>> 4 = 6
    decide
  · exact (ofOctets_octets repr rest hlt).symm

lemma payload_octets (hlt : repr.payloadLen < 2 ^ 16) (hle : repr.payloadLen ≤ rest.length) :
    payload (repr.octets ++ rest) = .ok (rest.take repr.payloadLen) := by
  rw [(framed_octets repr rest hle).payload_eq, List.drop_left' (length_octets repr),
    readPayloadLen_octets, UInt16.toNat_ofNat', Nat.mod_eq_of_lt hlt]

end Ipv6Repr

/-! ### IPv4 -/

namespace Ipv4

open Octets

/-- The header that is emitted for a representation. -/
def Repr.emitted (tx : Bool) (repr : Repr) : Header :=
  { repr.header with checksum := if tx then repr.header.sum else 0 }

section Emitted

variable (tx rx : Bool) (repr : Repr) (rest : List UInt8)

lemma Repr.emit_replicate :
    repr.emit tx (List.replicate ipv4HeaderLen 0) = (repr.emitted tx).octets := by
  have hzero : List.replicate ipv4HeaderLen (0 : UInt8) =
      Header.octets ⟨0, 0, 0, 0, 0, 0, 0, 0, 0, 0⟩ ++ [] := by decide
  rw [hzero, repr.emit_eq]
  exact List.append_nil _

lemma toNat_totalLen_emitted : (totalLen ((repr.emitted tx).octets ++ rest)).toNat =
    (20 + repr.payloadLen) % 2 ^ 16 := by
  rw [totalLen, Header.readLength]
  change ((20 : UInt16) + .ofNat repr.payloadLen).toNat = _
  rw [UInt16.toNat_add, UInt16.toNat_ofNat']
  change (20 + _) % _ = _
  omega

lemma nextHeader_emitted :
    nextHeader ((repr.emitted tx).octets ++ rest) = .ofByte repr.nextHeader.toByte := rfl

/-- A checksum is right if it was filled in, or would have been zero. -/
lemma verifyChecksum_emitted :
    verifyChecksum ((repr.emitted tx).octets ++ rest) ↔ tx ∨ repr.header.sum = 0 := by
  cases tx with
  | true =>
    simp only [true_or, iff_true]
    exact Header.Plain.verifyChecksum (h := repr.header) ⟨rfl⟩ rest
  | false =>
    have hplain : (repr.emitted false).Plain := ⟨rfl⟩
    have htake : ((repr.emitted false).octets ++ rest).take 20 = (repr.emitted false).octets :=
      List.take_left' rfl
    have hsum : repr.header.sum = ~~~ (Checksum.data (repr.emitted false).octets) := rfl
    rw [verifyChecksum, hplain.headerLen rest, htake, hsum]
    simp only [Bool.false_eq_true, false_or]
    generalize Checksum.data (repr.emitted false).octets = x
    constructor
    · rintro rfl
      rfl
    · intro h
      rw [← UInt16.not_not (a := x), h]
      rfl

lemma checkLen_emitted (hlen : 20 + repr.payloadLen < 2 ^ 16)
    (hle : repr.payloadLen ≤ rest.length) :
    checkLen ((repr.emitted tx).octets ++ rest) = .ok () := by
  have hplain : (repr.emitted tx).Plain := ⟨rfl⟩
  have htotal := toNat_totalLen_emitted tx repr rest
  have hlength : ((repr.emitted tx).octets ++ rest).length = 20 + rest.length := by simp
  unfold checkLen
  rw [hplain.headerLen, htotal, hlength, Nat.mod_eq_of_lt hlen, if_neg (by omega),
    if_neg (by omega), if_neg (by omega), if_neg (by omega)]

lemma payload_emitted (hlen : 20 + repr.payloadLen < 2 ^ 16) :
    payload ((repr.emitted tx).octets ++ rest) = rest.take repr.payloadLen := by
  have hplain : (repr.emitted tx).Plain := ⟨rfl⟩
  have htake : ((repr.emitted tx).octets ++ rest).take (20 + repr.payloadLen) =
      (repr.emitted tx).octets ++ rest.take repr.payloadLen := by
    rw [← Header.length_octets (repr.emitted tx), List.take_length_add_append]
  rw [payload, hplain.headerLen, toNat_totalLen_emitted, Nat.mod_eq_of_lt hlen, htake]
  exact List.drop_left' rfl

/-- A header that is emitted parses back, if its checksum is right or not verified. -/
lemma parse_emitted (hlen : 20 + repr.payloadLen < 2 ^ 16) (hle : repr.payloadLen ≤ rest.length) :
    Repr.parse rx ((repr.emitted tx).octets ++ rest) =
      if rx → (tx ∨ repr.header.sum = 0) then
        .ok { repr with nextHeader := .ofByte repr.nextHeader.toByte }
      else .error .mk := by
  have hplain : (repr.emitted tx).Plain := ⟨rfl⟩
  have hversion : version ((repr.emitted tx).octets ++ rest) = 4 := by
    change (0x45 : UInt8) >>> 4 = 4
    decide
  have hsrc : Ipv4.srcAddr ((repr.emitted tx).octets ++ rest) = repr.srcAddr := toU32_ofNat _
  have hdst : Ipv4.dstAddr ((repr.emitted tx).octets ++ rest) = repr.dstAddr := toU32_ofNat _
  have hverify : (rx ∧ ¬ verifyChecksum ((repr.emitted tx).octets ++ rest)) ↔
      ¬ (rx → (tx ∨ repr.header.sum = 0)) := by
    rw [verifyChecksum_emitted, Classical.not_imp]
  unfold Repr.parse
  rw [checkLen_emitted tx repr rest hlen hle, hversion, if_neg (not_not.mpr rfl)]
  simp only [hverify, hsrc, hdst, nextHeader_emitted, hplain.headerLen, toNat_totalLen_emitted,
    Nat.mod_eq_of_lt hlen, Nat.add_sub_cancel_left]
  by_cases h : rx = true → tx = true ∨ repr.header.sum = 0
  · rw [if_neg (not_not.mpr h), if_pos h]
    rfl
  · rw [if_pos h, if_neg h]
    rfl

end Emitted

end Ipv4

end Smoltcp
