import Smoltcp.Wire.Integrity

/-!
# UDP datagrams parse back

A datagram that is emitted tells its length, and its checksum is right or left out. Octets behind it
in the buffer stay as they were. The beginning of a datagram is not parsed.
-/

namespace Smoltcp

open Octets (ofU16 writeU16)
open Outcome

namespace UdpRepr

/-- Emit a datagram. `tx` tells whether checksums are computed. -/
def emit (tx : Bool) (repr : UdpRepr) (srcAddr dstAddr : IpAddress) (payload buf : List UInt8) :
    Outcome (List UInt8) := do
  let buf ← UdpPacket.setSrcPort buf repr.srcPort
  let buf ← UdpPacket.setDstPort buf repr.dstPort
  let buf ← UdpPacket.setLen buf (.ofNat (udpHeaderLen + payload.length))
  let length ← UdpPacket.len buf
  let buf ← copyAt buf udpHeaderLen length.toNat payload
  if tx then UdpPacket.fillChecksum buf srcAddr dstAddr else UdpPacket.setChecksum buf 0

end UdpRepr

namespace UdpPacket

variable {buf rest : List UInt8} {srcAddr dstAddr : IpAddress} {repr : UdpRepr} {tx rx : Bool}

/-- The octets are those of a datagram, from their first to their last. -/
structure IsDatagram (buf : List UInt8) (srcAddr dstAddr : IpAddress) (repr : UdpRepr) : Prop where
  header_le : udpHeaderLen ≤ buf.length
  len_eq : (Octets.readU16 buf 4).toNat = buf.length
  srcPort_eq : Octets.readU16 buf 0 = repr.srcPort
  dstPort_eq : Octets.readU16 buf 2 = repr.dstPort
  dstPort_ne : repr.dstPort ≠ 0
  verified : verifyChecksum buf srcAddr dstAddr = .ok true

namespace IsDatagram

lemma framed (h : IsDatagram buf srcAddr dstAddr repr) : Framed buf :=
  ⟨h.len_eq ▸ h.header_le, h.len_eq.le⟩

lemma length_ge (h : IsDatagram buf srcAddr dstAddr repr) : 8 ≤ buf.length := h.header_le

lemma parse (h : IsDatagram buf srcAddr dstAddr repr) :
    UdpRepr.parse rx buf srcAddr dstAddr = .ok repr := by
  have hlen := h.length_ge
  have hsrc : srcPort buf = .ok repr.srcPort := by rw [srcPort, readU16_of (by omega), h.srcPort_eq]
  have hdst : dstPort buf = .ok repr.dstPort := by rw [dstPort, readU16_of (by omega), h.dstPort_eq]
  have hchecksum : UdpRepr.expectChecksum rx buf srcAddr dstAddr = .ok () := by
    unfold UdpRepr.expectChecksum
    split_ifs
    · rw [h.verified]
      rfl
    · rfl
  rw [UdpRepr.parse, checkLen_eq_ok_iff.mpr h.framed, ok_bind, hdst, ok_bind,
    reject_of_not h.dstPort_ne, ok_bind, hchecksum, ok_bind, hsrc]
  rfl

/-- The beginning of a datagram is refused. -/
lemma parse_take (h : IsDatagram buf srcAddr dstAddr repr) {n : ℕ} (h8 : 8 ≤ n)
    (hn : n < buf.length) : UdpRepr.parse rx (buf.take n) srcAddr dstAddr = fail := by
  have htake : (buf.take n).length = n := List.length_take_of_le hn.le
  have hfield : Octets.readU16 (buf.take n) 4 = Octets.readU16 buf 4 := by
    rw [Octets.readU16, Octets.readU16, Octets.get, Octets.get, Octets.get, Octets.get,
      List.getElem?_take_of_lt (by omega), List.getElem?_take_of_lt (by omega)]
  have hcheck : checkLen (buf.take n) = fail := by
    rw [checkLen, if_neg (by rw [htake, udpHeaderLen]; omega), len, readU16_of (by omega), ok_bind,
      if_pos (by rw [hfield, h.len_eq, htake]; omega)]
  rw [UdpRepr.parse, hcheck]
  rfl

end IsDatagram

end UdpPacket

namespace UdpRepr

open UdpPacket

variable {payload buf : List UInt8} {srcAddr dstAddr : IpAddress} {repr : UdpRepr} {tx : Bool}

/-- The octets of a header in front of its checksum. -/
def ports (repr : UdpRepr) (length : ℕ) : List UInt8 :=
  ofU16 repr.srcPort ++ ofU16 repr.dstPort ++ ofU16 (.ofNat length)

/-- What is emitted, with some checksum. -/
def octets (repr : UdpRepr) (payload : List UInt8) (checksum : UInt16) : List UInt8 :=
  repr.ports (udpHeaderLen + payload.length) ++ ofU16 checksum ++ payload

@[simp] lemma length_octets (payload : List UInt8) (checksum : UInt16) :
    (repr.octets payload checksum).length = udpHeaderLen + payload.length := by
  rw [octets, List.length_append]
  rfl

/-- A buffer that is long enough, by its first eight octets. -/
lemma exists_header (hlen : udpHeaderLen ≤ buf.length) :
    ∃ a b c d e f g h, buf = a :: b :: c :: d :: e :: f :: g :: h :: buf.drop udpHeaderLen := by
  match buf, hlen with
  | a :: b :: c :: d :: e :: f :: g :: h :: rest, _ => exact ⟨a, b, c, d, e, f, g, h, rfl⟩

section Octets

variable (repr payload) (w v : UInt16) (rest : List UInt8)

lemma readLen_octets :
    Octets.readU16 (repr.octets payload w ++ rest) 4 = .ofNat (udpHeaderLen + payload.length) :=
  Octets.toU16_ofNat _

lemma setChecksum_octets :
    setChecksum (repr.octets payload w ++ rest) v = .ok (repr.octets payload v ++ rest) := by
  have hsplit : ∀ v, repr.octets payload v ++ rest =
      repr.ports (udpHeaderLen + payload.length) ++ ofU16 v ++ (payload ++ rest) := by
    simp [octets]
  rw [hsplit, hsplit]
  exact write_append rfl rfl

lemma toNat_len_octets (hlt : udpHeaderLen + payload.length < 2 ^ 16) :
    (Octets.readU16 (repr.octets payload w ++ rest) 4).toNat =
      udpHeaderLen + payload.length := by
  rw [readLen_octets, UInt16.toNat_ofNat', Nat.mod_eq_of_lt hlt]

lemma framed_octets (hlt : udpHeaderLen + payload.length < 2 ^ 16) :
    Framed (repr.octets payload w ++ rest) := by
  have hlen := repr.toNat_len_octets payload w rest hlt
  refine ⟨?_, ?_⟩
  · rw [hlen]
    omega
  · rw [hlen, List.length_append, length_octets]
    omega

/-- Octets behind the datagram are not summed up. -/
lemma sum_octets (hlt : udpHeaderLen + payload.length < 2 ^ 16) :
    sum (repr.octets payload w ++ rest) srcAddr dstAddr =
      sum (repr.octets payload w) srcAddr dstAddr := by
  have hframed := repr.framed_octets payload w rest hlt
  have hlen := repr.toNat_len_octets payload w rest hlt
  have hframed' : Framed (repr.octets payload w) := by
    simpa using repr.framed_octets payload w [] hlt
  have hlen' : (Octets.readU16 (repr.octets payload w) 4).toNat =
      udpHeaderLen + payload.length := by
    simpa using repr.toNat_len_octets payload w [] hlt
  have htake : (repr.octets payload w ++ rest).take (udpHeaderLen + payload.length) =
      repr.octets payload w := List.take_left' (length_octets payload w)
  rw [sum, sum, hframed.len_eq, hframed'.len_eq, ok_bind, ok_bind, hlen, hlen',
    slice_of (by omega) (by simp), slice_of (by omega) (by simp), htake,
    List.take_of_length_le (length_octets payload w).le]

/-- The checksum that is filled in depends on the datagram only. -/
lemma exists_fillChecksum (hversion : srcAddr.version = dstAddr.version)
    (hlt : udpHeaderLen + payload.length < 2 ^ 16) :
    ∃ v, verifyChecksum (repr.octets payload v) srcAddr dstAddr = .ok true ∧ ∀ w rest,
      fillChecksum (repr.octets payload w ++ rest) srcAddr dstAddr =
        .ok (repr.octets payload v ++ rest) := by
  have hframed : Framed (repr.octets payload 0) := by
    simpa using repr.framed_octets payload 0 [] hlt
  obtain ⟨v, hfill, hverify, -⟩ := fillChecksum_protects hversion hframed
  have hzero : setChecksum (repr.octets payload 0) 0 = .ok (repr.octets payload 0) := by
    simpa using repr.setChecksum_octets payload 0 0 []
  obtain ⟨s, hs, hv⟩ : ∃ s, sum (repr.octets payload 0) srcAddr dstAddr = .ok s ∧
      setChecksum (repr.octets payload 0) (if ~~~ s = 0 then 0xffff else ~~~ s) =
        .ok (writeU16 (writeU16 (repr.octets payload 0) 6 0) 6 v) := by
    rw [fillChecksum, hzero, ok_bind] at hfill
    obtain ⟨s, hs, hfill⟩ := bind_eq_ok.mp hfill
    exact ⟨s, hs, hfill⟩
  have hset := repr.setChecksum_octets payload 0 (if ~~~ s = 0 then 0xffff else ~~~ s) []
  rw [List.append_nil, List.append_nil, hv] at hset
  refine ⟨if ~~~ s = 0 then 0xffff else ~~~ s, ?_, fun w rest => ?_⟩
  · rw [← Except.ok.inj hset]
    exact hverify
  · rw [fillChecksum, setChecksum_octets, ok_bind, repr.sum_octets payload 0 rest hlt, hs, ok_bind,
      setChecksum_octets]

end Octets

/-- The header up to its checksum is written over six octets. -/
lemma write_ports (repr : UdpRepr) (a b c d e f : UInt8) (rest : List UInt8) (length : ℕ) :
    (do
      let buf ← setSrcPort (a :: b :: c :: d :: e :: f :: rest) repr.srcPort
      let buf ← setDstPort buf repr.dstPort
      setLen buf (.ofNat length)) = .ok (repr.ports length ++ rest) := by
  have hsrc : setSrcPort (a :: b :: c :: d :: e :: f :: rest) repr.srcPort =
      .ok ([] ++ ofU16 repr.srcPort ++ (c :: d :: e :: f :: rest)) :=
    write_append (l := []) (m := [a, b]) rfl rfl
  have hdst : setDstPort (ofU16 repr.srcPort ++ [c, d] ++ (e :: f :: rest)) repr.dstPort =
      .ok (ofU16 repr.srcPort ++ ofU16 repr.dstPort ++ (e :: f :: rest)) := write_append rfl rfl
  have hlen : setLen (ofU16 repr.srcPort ++ ofU16 repr.dstPort ++ [e, f] ++ rest) (.ofNat length) =
      .ok (ofU16 repr.srcPort ++ ofU16 repr.dstPort ++ ofU16 (.ofNat length) ++ rest) :=
    write_append rfl rfl
  rw [hsrc, ok_bind]
  change (do let buf ← setDstPort (ofU16 repr.srcPort ++ [c, d] ++ (e :: f :: rest)) _; _) = _
  rw [hdst, ok_bind]
  exact hlen

/-- The steps of emission in front of the checksum. -/
lemma emit_eq (repr : UdpRepr) (tx : Bool) (srcAddr dstAddr : IpAddress)
    (hlen : udpHeaderLen + payload.length ≤ buf.length)
    (hlt : udpHeaderLen + payload.length < 2 ^ 16) :
    ∃ w, repr.emit tx srcAddr dstAddr payload buf =
      if tx then fillChecksum
        (repr.octets payload w ++ buf.drop (udpHeaderLen + payload.length)) srcAddr dstAddr
      else .ok (repr.octets payload 0 ++ buf.drop (udpHeaderLen + payload.length)) := by
  obtain ⟨a, b, c, d, e, f, g, h, hbuf⟩ := exists_header (le_trans (Nat.le_add_right _ _) hlen)
  set rest := buf.drop udpHeaderLen with hrest
  have hdrop : buf.drop (udpHeaderLen + payload.length) = rest.drop payload.length := by
    rw [hrest, List.drop_drop]
  have hle : payload.length ≤ rest.length := by
    rw [hrest, List.length_drop]
    omega
  set header := repr.ports (udpHeaderLen + payload.length) ++ [g, h] with hheader
  have hlength : len (header ++ rest) = .ok (.ofNat (udpHeaderLen + payload.length)) := by
    have hsix : 6 ≤ (header ++ rest).length := by
      rw [hheader, List.length_append]
      exact Nat.le_add_right_of_le (show 6 ≤ 8 by decide)
    rw [len, readU16_of hsix]
    exact congrArg _ (Octets.toU16_ofNat _)
  have hcopy : copyAt (header ++ rest) udpHeaderLen (udpHeaderLen + payload.length) payload =
      .ok (repr.octets payload (Octets.toU16 g h) ++ rest.drop payload.length) := by
    have hover : (header ++ rest).overwrite udpHeaderLen payload =
        header ++ rest.overwrite 0 payload := List.overwrite_append_right 0
    rw [copyAt_of (by rw [List.length_append]; exact Nat.add_le_add_left hle 8) rfl, hover,
      List.overwrite_zero, octets, Octets.ofU16_toU16, ← List.append_assoc]
  refine ⟨Octets.toU16 g h, ?_⟩
  have hports := repr.write_ports a b c d e f (g :: h :: rest) (udpHeaderLen + payload.length)
  rw [hdrop, hbuf, emit]
  obtain ⟨buf₁, h₁, hports⟩ := bind_eq_ok.mp hports
  obtain ⟨buf₂, h₂, h₃⟩ := bind_eq_ok.mp hports
  have h₃ : setLen buf₂ (.ofNat (udpHeaderLen + payload.length)) = .ok (header ++ rest) := by
    rw [h₃, hheader, List.append_assoc, List.cons_append, List.singleton_append]
  rw [h₁, ok_bind, h₂, ok_bind, h₃, ok_bind, hlength, ok_bind, UInt16.toNat_ofNat',
    Nat.mod_eq_of_lt hlt, hcopy, ok_bind, setChecksum_octets]

/-- What is emitted depends on the datagram only, and stands in front of what was in the buffer
behind it. -/
lemma exists_emit (repr : UdpRepr) (tx : Bool) (hversion : srcAddr.version = dstAddr.version)
    (hlt : udpHeaderLen + payload.length < 2 ^ 16) :
    ∃ v, verifyChecksum (repr.octets payload v) srcAddr dstAddr = .ok true ∧
      ∀ buf, udpHeaderLen + payload.length ≤ buf.length →
        repr.emit tx srcAddr dstAddr payload buf =
          .ok (repr.octets payload v ++ buf.drop (udpHeaderLen + payload.length)) := by
  cases tx with
  | true =>
    obtain ⟨v, hverify, hfill⟩ := repr.exists_fillChecksum payload hversion hlt
    refine ⟨v, hverify, fun buf hlen => ?_⟩
    obtain ⟨w, hemit⟩ := repr.emit_eq true srcAddr dstAddr hlen hlt
    rw [hemit, if_pos rfl, hfill]
  | false =>
    refine ⟨0, ?_, fun buf hlen => ?_⟩
    · have hframed : Framed (repr.octets payload 0) := by
        simpa using repr.framed_octets payload 0 [] hlt
      have hzero : Octets.readU16 (repr.octets payload 0) 6 = 0 := Octets.toU16_ofNat 0
      rw [verifyChecksum, hframed.checksum_eq, ok_bind, if_pos hzero]
      rfl
    · obtain ⟨w, hemit⟩ := repr.emit_eq false srcAddr dstAddr hlen hlt
      rw [hemit, if_neg Bool.false_ne_true]

/-- What is emitted into a buffer of its length is a datagram. -/
lemma emit_isDatagram (hversion : srcAddr.version = dstAddr.version) (hdst : repr.dstPort ≠ 0)
    (hlt : udpHeaderLen + payload.length < 2 ^ 16)
    (hlen : buf.length = udpHeaderLen + payload.length) :
    ∃ out, repr.emit tx srcAddr dstAddr payload buf = .ok out ∧ out.length = buf.length ∧
      IsDatagram out srcAddr dstAddr repr := by
  obtain ⟨v, hverify, hemit⟩ := repr.exists_emit tx hversion hlt
  refine ⟨repr.octets payload v, ?_, by rw [length_octets, hlen], ?_, ?_, ?_, ?_, hdst, hverify⟩
  · rw [hemit buf hlen.ge, List.drop_of_length_le hlen.le, List.append_nil]
  · rw [length_octets]
    omega
  · rw [length_octets]
    simpa using repr.toNat_len_octets payload v [] hlt
  · exact Octets.toU16_ofNat _
  · exact Octets.toU16_ofNat _

end UdpRepr

end Smoltcp
