import Smoltcp.Wire.Icmpv4
import Smoltcp.Wire.Icmpv6.Repr
import Smoltcp.Wire.Integrity
import Smoltcp.Wire.IpRoundTrip

/-!
# ICMP errors as they are emitted

An error that is emitted is a header, the quoted IP header and what the error quotes of the payload.
Its checksum is right, if it is computed.
-/

/-- Copying over what stands behind a part of the list. -/
lemma List.overwrite_behind {α : Type*} {l m d : List α} {n : ℕ} (hn : l.length = n) :
    (l ++ m).overwrite n d = l ++ d ++ m.drop d.length := by
  have hover := List.overwrite_append_right (l := l) (m := m) (d := d) 0
  rwa [Nat.add_zero, hn, List.overwrite_zero, ← List.append_assoc] at hover

/-- The first eight octets. -/
lemma Octets.exists_eight {buf : List UInt8} (hlen : 8 ≤ buf.length) :
    ∃ a b c d e f g h rest, buf = a :: b :: c :: d :: e :: f :: g :: h :: rest := by
  obtain _ | ⟨a, _ | ⟨b, _ | ⟨c, _ | ⟨d, _ | ⟨e, _ | ⟨f, _ | ⟨g, _ | ⟨h, rest⟩⟩⟩⟩⟩⟩⟩⟩ := buf
  case cons.cons.cons.cons.cons.cons.cons.cons => exact ⟨a, b, c, d, e, f, g, h, rest, rfl⟩
  all_goals simp at hlen

/-- Writing a word behind the first two octets. -/
lemma Octets.writeU16_second {a b c d : UInt8} {rest : List UInt8} (v : UInt16) :
    writeU16 (a :: b :: c :: d :: rest) 2 v = a :: b :: (ofU16 v ++ rest) := rfl

namespace Smoltcp

open Octets Checksum OnesComplement

/-! ### IPv4 -/

namespace Icmpv4

variable {buf : List UInt8}

lemma verify_fillChecksum (hlen : 4 ≤ buf.length) (hle : buf.length ≤ 2 ^ 17)
    (htype : get buf 0 ≠ 0) : verifyChecksum (fillChecksum buf) := by
  have hset : ∀ v, (writeU16 buf 2 v).length = buf.length := length_writeU16 (by omega)
  have hsum : (words (writeU16 buf 2 0)).sum ≠ 0 := by
    match buf, hlen with
    | a :: b :: c :: d :: rest, _ =>
      have ha : a.toNat ≠ 0 := fun hzero => htype (UInt8.toNat.inj hzero)
      rw [Octets.writeU16_second, words, List.sum_cons]
      omega
  have hfold : fold (0 + (words (fillChecksum buf)).sum) = 65535 := by
    refine Checksum.fold_filled (k := 1) (by omega) (by simpa using hsum) ?_
    have hdata :=
      (toNat_data (show (setChecksum buf 0).length ≤ 2 ^ 17 from (hset 0).le.trans hle)).2
    rw [toNat_complement, hdata, Nat.zero_add]
    rfl
  rw [Nat.zero_add] at hfold
  unfold verifyChecksum
  rw [eq_max_iff, (toNat_data ?_).2]
  · exact hfold
  · simp only [fillChecksum, setChecksum]
    rw [length_writeU16 (by rw [hset]; omega), hset]
    exact hle

end Icmpv4

namespace Icmpv4Repr

open Icmpv4

/-- The eight octets in front of what is quoted, of which the last four stay as they were. -/
lemma emitError_eq (tx : Bool) (type : Message) (code : UInt8) (header : Ipv4.Repr)
    {data buf : List UInt8} (hbuf : buf.length = headerEnd + ipv4HeaderLen + data.length) :
    ∃ c d e f g h, emitError tx type code header data buf =
      type.toByte :: code :: c :: d :: e :: f :: g :: h ::
        ((header.emitted tx).octets ++ data) := by
  rw [headerEnd, ipv4HeaderLen] at hbuf
  obtain ⟨a, b, c, d, e, f, g, h, rest, rfl⟩ := @exists_eight buf (by omega)
  have hrest : rest.length = 20 + data.length := by
    simp only [List.length_cons] at hbuf
    omega
  have hlen : 20 ≤ rest.length := by omega
  obtain ⟨old, hold⟩ := Ipv4.Header.exists_octets hlen
  have hquoted : (header.emit tx rest).overwrite header.bufferLen data =
      (header.emitted tx).octets ++ data := by
    have hemit : header.emit tx rest = (header.emitted tx).octets ++ rest.drop 20 := by
      rw [hold, Ipv4.Repr.emit_eq, List.drop_left' (Ipv4.Header.length_octets old)]
      rfl
    rw [hemit, List.overwrite, Ipv4.Repr.bufferLen, ipv4HeaderLen,
      List.take_left' (Ipv4.Header.length_octets _), List.drop_of_length_le (by simp; omega),
      List.append_nil]
  refine ⟨c, d, e, f, g, h, ?_⟩
  change (type.toByte :: code :: c :: d :: e :: f :: g :: h :: rest).overwrite 8
    ((header.emit tx rest).overwrite header.bufferLen data) = _
  rw [hquoted, List.overwrite, List.drop_of_length_le (by simp; omega), List.append_nil]
  rfl

lemma emit_dstUnreachable (checksum : ChecksumCapabilities) {reason : DstUnreachable}
    {header : Ipv4.Repr} {data buf : List UInt8}
    (hbuf : buf.length = (dstUnreachable reason header data).bufferLen)
      (hlen : data.length ≤ 2 ^ 16) :
    ∃ c d e f g h message, (dstUnreachable reason header data).emit checksum buf = message ∧
      message = 3 :: reason :: c :: d :: e :: f :: g :: h ::
        ((header.emitted checksum.ipv4.computes).octets ++ data) ∧
      (checksum.icmpv4.computes → verifyChecksum message) := by
  set tx := checksum.ipv4.computes with htx
  obtain ⟨c, d, e, f, g, h, hemit⟩ := emitError_eq tx .dstUnreachable reason header hbuf
  set quoted := (header.emitted tx).octets ++ data with hquoted
  have hset : ∀ v a b, setChecksum (3 :: reason :: a :: b :: e :: f :: g :: h :: quoted) v =
      3 :: reason :: (ofU16 v ++ e :: f :: g :: h :: quoted) := fun v a b => rfl
  have hverify : verifyChecksum
    (fillChecksum (3 :: reason :: c :: d :: e :: f :: g :: h :: quoted)) := by
    refine verify_fillChecksum (by simp) ?_ (show (3 : UInt8) ≠ 0 by decide)
    rw [hquoted]
    simp only [List.length_cons, List.length_append, Ipv4.Header.length_octets]
    omega
  have hemit : (dstUnreachable reason header data).emit checksum buf =
      if checksum.icmpv4.computes then
        fillChecksum (3 :: reason :: c :: d :: e :: f :: g :: h :: quoted)
      else setChecksum (3 :: reason :: c :: d :: e :: f :: g :: h :: quoted) 0 := by
    unfold emit
    dsimp only
    rw [hemit]
    rfl
  rw [hemit]
  split_ifs with hcomputes
  · exact ⟨_, _, e, f, g, h, _, rfl, rfl, fun _ => hverify⟩
  · exact ⟨_, _, e, f, g, h, _, rfl, rfl, fun h => absurd h hcomputes⟩

end Icmpv4Repr

/-! ### IPv6 -/

namespace Icmpv6Repr

open Icmpv6 Icmpv6Packet

variable {buf data : List UInt8} {srcAddr dstAddr : Ipv6.Address}

lemma verify_fillChecksum (hlen : 4 ≤ buf.length) (hle : buf.length ≤ 2 ^ 17) :
    verifyChecksum (fillChecksum srcAddr dstAddr buf) srcAddr dstAddr := by
  obtain ⟨c, hc, hne⟩ := @pseudoHeader_ne_zero (.ipv6 srcAddr) (.ipv6 dstAddr) .icmpv6 (by decide)
    rfl buf.length
  have hc : pseudoHeaderV6 srcAddr dstAddr IpProtocol.icmpv6.toByte buf.length = c :=
    Except.ok.inj hc
  have hset : ∀ v, (writeU16 buf 2 v).length = buf.length := length_writeU16 (by omega)
  have hfill : fillChecksum srcAddr dstAddr buf = writeU16 (writeU16 buf 2 0) 2
      (~~~ (combine [c, Checksum.data (writeU16 buf 2 0)])) := by
    unfold fillChecksum
    dsimp only
    rw [hset, hc]
  have hfold : fold (c.toNat + (words (fillChecksum srcAddr dstAddr buf)).sum) = 65535 := by
    rw [hfill]
    refine Checksum.fold_filled (k := 1) (by omega) (by omega) ?_
    rw [toNat_complement, toNat_combine_data c ((hset 0).le.trans hle)]
  have hlength : (fillChecksum srcAddr dstAddr buf).length = buf.length := by
    rw [hfill, length_writeU16 (by rw [hset]; omega), hset]
  unfold verifyChecksum
  rw [eq_max_iff, hlength, hc, toNat_combine_data c (hlength.le.trans hle)]
  exact hfold

/-- The eight octets in front of what is quoted, of which the last four stay as they were. -/
lemma emitError_eq (type : Message) (code : UInt8) (header : Ipv6Repr)
    (hbuf : buf.length = headerEnd + ipv6HeaderLen + data.length)
    (hle : buf.length ≤ maxErrorPacketLen) :
    ∃ c d e f g h, emitError type code header data buf =
      type.toByte :: code :: c :: d :: e :: f :: g :: h :: (header.octets ++ data) := by
  rw [maxErrorPacketLen, ipv6MinMtu, ipv6HeaderLen] at hle
  rw [headerEnd, ipv6HeaderLen] at hbuf
  obtain ⟨a, b, c, d, e, f, g, h, rest, rfl⟩ := @exists_eight buf (by omega)
  have hrest : rest.length = 40 + data.length := by
    simp only [List.length_cons] at hbuf
    omega
  have htake : data.take (maxErrorPacketLen - headerEnd - ipv6HeaderLen) = data := by
    rw [List.take_of_length_le]
    rw [maxErrorPacketLen, ipv6MinMtu, ipv6HeaderLen, headerEnd]
    omega
  have hfront : (type.toByte :: code :: c :: d :: e :: f :: g :: h :: rest).overwrite headerEnd
      header.octets = [type.toByte, code, c, d, e, f, g, h] ++ header.octets ++
        rest.drop ipv6HeaderLen := by
    rw [← Ipv6Repr.length_octets header]
    exact List.overwrite_behind (l := [type.toByte, code, c, d, e, f, g, h]) rfl
  have hdata : ([type.toByte, code, c, d, e, f, g, h] ++ header.octets ++
      rest.drop ipv6HeaderLen).overwrite (headerEnd + header.bufferLen) data =
        [type.toByte, code, c, d, e, f, g, h] ++ header.octets ++ data := by
    rw [List.overwrite_behind (by rw [List.length_append, Ipv6Repr.length_octets]; rfl),
      List.drop_of_length_le, List.append_nil]
    rw [List.length_drop, hrest, ipv6HeaderLen]
    omega
  refine ⟨c, d, e, f, g, h, ?_⟩
  unfold emitError
  dsimp only
  rw [htake]
  change ((type.toByte :: code :: c :: d :: e :: f :: g :: h :: rest).overwrite headerEnd
    _).overwrite
    _ _ = _
  rw [hfront, hdata, List.append_assoc]
  rfl

lemma emit_dstUnreachable (checksum : ChecksumCapabilities) (srcAddr dstAddr : Ipv6.Address)
    {reason : DstUnreachable} {header : Ipv6Repr}
    (hlen : headerEnd + ipv6HeaderLen + data.length ≤ maxErrorPacketLen)
    (hbuf : buf.length = (dstUnreachable reason header data).bufferLen) :
    ∃ c d e f g h message,
      (dstUnreachable reason header data).emit checksum srcAddr dstAddr buf = some message ∧
      message = 1 :: reason :: c :: d :: e :: f :: g :: h :: (header.octets ++ data) ∧
      (checksum.icmpv6.computes → verifyChecksum message srcAddr dstAddr) := by
  have hbuf : buf.length = headerEnd + ipv6HeaderLen + data.length :=
    hbuf.trans (Nat.min_eq_left hlen)
  obtain ⟨c, d, e, f, g, h, hemit⟩ :=
    emitError_eq .dstUnreachable reason header hbuf (hbuf.le.trans hlen)
  set quoted := header.octets ++ data with hquoted
  have hset : ∀ v a b, writeU16 (1 :: reason :: a :: b :: e :: f :: g :: h :: quoted) 2 v =
      1 :: reason :: (ofU16 v ++ e :: f :: g :: h :: quoted) := fun v a b => rfl
  have hverify : verifyChecksum (fillChecksum srcAddr dstAddr
      (1 :: reason :: c :: d :: e :: f :: g :: h :: quoted)) srcAddr dstAddr := by
    refine verify_fillChecksum (by simp) ?_
    rw [hquoted]
    simp only [List.length_cons, List.length_append, Ipv6Repr.length_octets]
    rw [maxErrorPacketLen, ipv6MinMtu, headerEnd] at hlen
    omega
  have hemit : (dstUnreachable reason header data).emit checksum srcAddr dstAddr buf =
      some (if checksum.icmpv6.computes then
        fillChecksum srcAddr dstAddr (1 :: reason :: c :: d :: e :: f :: g :: h :: quoted)
      else writeU16 (1 :: reason :: c :: d :: e :: f :: g :: h :: quoted) 2 0) := by
    unfold emit
    dsimp only
    rw [hemit]
    rfl
  rw [hemit]
  split_ifs with hcomputes
  · exact ⟨_, _, e, f, g, h, _, rfl, rfl, fun _ => hverify⟩
  · exact ⟨_, _, e, f, g, h, _, rfl, rfl, fun h => absurd h hcomputes⟩

end Icmpv6Repr

end Smoltcp
