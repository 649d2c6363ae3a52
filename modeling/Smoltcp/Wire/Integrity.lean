import Smoltcp.Wire.Ipv4
import Smoltcp.Wire.TcpPacket
import Smoltcp.Wire.Udp

/-!
# What the internet checksum protects

A packet whose checksum was filled in is verified, and is not verified any more when one of the
words that the checksum covers is changed. How many octets it covers is read from the packet, for
IPv4 from the header length and for UDP from the length field: a change of one of these may move
the end of what is summed up, and is not always found. Nor is a packet without a checksum always
found, where it has to have one.
-/

namespace Smoltcp

open Octets OnesComplement Outcome

/-- One word of the octets is changed to a value that is different modulo 0xffff. -/
structure Garbled (octets octets' : List UInt8) : Prop where
  length_eq : octets'.length = octets.length
  word : ∃ (i : ℕ) (hi : i < (words octets).length) (w : ℕ),
    words octets' = (words octets).set i w ∧ w % 65535 ≠ (words octets)[i] % 65535

/-- A sum that was all ones is not after a change of one word. -/
lemma Garbled.fold_ne {octets octets' : List UInt8} (h : Garbled octets octets') {c : ℕ}
    (hfull : fold (c + (words octets).sum) = 65535) : fold (c + (words octets').sum) ≠ 65535 := by
  obtain ⟨i, hi, w, hwords, hne⟩ := h.word
  rw [hwords]
  exact fold_set_ne hi hne hfull

/-! ### The sum -/

/-- A checksum over octets that are split at an even position is that over all of them. -/
lemma Checksum.combine_split {octets : List UInt8} (hlen : octets.length ≤ 2 ^ 17) {k : ℕ}
    (hk : k % 2 = 0) (hle : k ≤ octets.length) :
    combine [data (octets.take k), data (octets.drop k)] = data octets := by
  have htake : (octets.take k).length = k := List.length_take_of_le hle
  have hwords : words octets = words (octets.take k) ++ words (octets.drop k) := by
    rw [← words_append (by omega), List.take_append_drop]
  apply UInt16.toNat.inj
  rw [toNat_combine (by simp)]
  simp only [List.map_cons, List.map_nil, List.sum_cons, List.sum_nil, Nat.add_zero]
  rw [(toNat_data (by omega)).2, (toNat_data (by rw [List.length_drop]; omega)).2,
    (toNat_data hlen).2, fold_add_fold, fold_fold_add, hwords, List.sum_append]

/-- A checksum over three even numbers of octets is that over all of them. -/
lemma Checksum.toNat_combine_three {a b c : List UInt8} (ha : a.length % 2 = 0)
    (hb : b.length % 2 = 0)
    (hlen : a.length + b.length + c.length ≤ 2 ^ 17) :
    (combine [data a, data b, data c]).toNat =
      fold (words (a ++ b ++ c)).sum := by
  rw [toNat_combine (by simp)]
  simp only [List.map_cons, List.map_nil, List.sum_cons, List.sum_nil, Nat.add_zero]
  rw [(toNat_data (by omega)).2, (toNat_data (by omega)).2,
    (toNat_data (by omega)).2, fold_fold_add, ← Nat.add_assoc, fold_add_fold,
    Nat.add_right_comm, fold_add_fold, words_append (by rw [List.length_append]; omega),
    words_append ha, List.sum_append, List.sum_append]
  congr 1
  omega

/-- Octets whose checksum is word `k`, with the checksum of the rest filled in. -/
lemma Checksum.fold_filled {c k : ℕ} {octets : List UInt8} {v : UInt16}
    (hk : 2 * k + 2 ≤ octets.length)
    (hne : c + (words (writeU16 octets (2 * k) 0)).sum ≠ 0)
    (hv : v.toNat % 65535 = (65535 - fold (c + (words (writeU16 octets (2 * k) 0)).sum)) % 65535) :
    fold (c + (words (writeU16 (writeU16 octets (2 * k) 0) (2 * k) v)).sum) = 65535 := by
  refine fold_fill ?_ ?_ hne hv
  · rwa [length_writeU16 hk]
  · rw [words_writeU16 hk, List.getElem?_set_self (by rw [length_words]; omega)]
    rfl

/-! ### IPv4 headers -/

namespace Ipv4

variable {buf : List UInt8}

/-- The header that the header length field announces is in the buffer. -/
structure Headed (buf : List UInt8) : Prop where
  fixed_le : 20 ≤ headerLen buf
  le_length : headerLen buf ≤ buf.length

lemma headerLen_le (buf : List UInt8) : headerLen buf ≤ 60 := by
  have hbits : ∀ x : BitVec 8, ((x &&& 0x0f#8) * 4#8).toNat ≤ 60 := by decide
  exact hbits (get buf 0).toBitVec

lemma verifyChecksum_iff : verifyChecksum buf ↔ fold (words (buf.take (headerLen buf))).sum =
    65535 := by
  have hlen := headerLen_le buf
  unfold verifyChecksum
  rw [Checksum.eq_max_iff, (Checksum.toNat_data (by rw [List.length_take]; omega)).2]

lemma headerLen_setChecksum (h : Headed buf) (v : UInt16) :
    headerLen (setChecksum buf v) = headerLen buf := by
  have := h.fixed_le
  have := h.le_length
  unfold headerLen setChecksum
  rw [get_writeU16 (by omega) v (by omega)]

lemma Headed.setChecksum (h : Headed buf) (v : UInt16) : Headed (setChecksum buf v) := by
  have := h.fixed_le
  have := h.le_length
  refine ⟨?_, ?_⟩
  · rwa [headerLen_setChecksum h]
  · rw [headerLen_setChecksum h, Ipv4.setChecksum, length_writeU16 (by omega)]
    exact h.le_length

/-- The first octet of a header that is long enough is not zero. -/
lemma Headed.sum_ne_zero (h : Headed buf) : (words (buf.take (headerLen buf))).sum ≠ 0 := by
  have hfixed := h.fixed_le
  have hlen := h.le_length
  match buf, hlen with
  | hi :: lo :: rest, _ =>
    have hhi : hi.toNat ≠ 0 := by
      intro hzero
      have : hi = 0 := UInt8.toNat.inj hzero
      subst this
      exact absurd hfixed (show ¬ 20 ≤ (((0 : UInt8) &&& 0x0f) * 4).toNat by decide)
    obtain ⟨n, hn⟩ : ∃ n, headerLen (hi :: lo :: rest) = n + 2 :=
      ⟨headerLen (hi :: lo :: rest) - 2, by omega⟩
    rw [hn, List.take_succ_cons, List.take_succ_cons, words, List.sum_cons]
    omega
  | [_], hlen => simp at hlen; omega
  | [], hlen => simp at hlen; omega

lemma Headed.headerLen_fillChecksum (h : Headed buf) :
    headerLen (fillChecksum buf) = headerLen buf := by
  simp only [fillChecksum]
  rw [headerLen_setChecksum (h.setChecksum 0), headerLen_setChecksum h]

lemma Headed.take_fillChecksum (h : Headed buf) :
    (fillChecksum buf).take (headerLen (fillChecksum buf)) =
      writeU16 (writeU16 (buf.take (headerLen buf)) 10 0) 10
        (~~~ (Checksum.data (writeU16 (buf.take (headerLen buf)) 10 0))) := by
  have hfixed := h.fixed_le
  have hlen := h.le_length
  have hzero := headerLen_setChecksum h 0
  rw [h.headerLen_fillChecksum]
  simp only [fillChecksum, hzero]
  simp only [Ipv4.setChecksum]
  rw [take_writeU16 (by omega) (by rw [length_writeU16 (by omega)]; exact hlen),
    take_writeU16 (by omega) hlen]

lemma Headed.verify_fillChecksum (h : Headed buf) : verifyChecksum (fillChecksum buf) := by
  have hfixed := h.fixed_le
  have hlen := h.le_length
  have hmax := headerLen_le buf
  have htake : (buf.take (headerLen buf)).length = headerLen buf := List.length_take_of_le hlen
  have hsum : (words (writeU16 (buf.take (headerLen buf)) 10 0)).sum ≠ 0 := by
    have := (h.setChecksum 0).sum_ne_zero
    rwa [headerLen_setChecksum h, Ipv4.setChecksum, take_writeU16 (by omega) hlen] at this
  rw [verifyChecksum_iff, h.take_fillChecksum, ← Nat.zero_add (List.sum _)]
  refine Checksum.fold_filled (k := 5) (by omega) (by simpa using hsum) ?_
  rw [Checksum.toNat_complement, Nat.zero_add,
    (Checksum.toNat_data (by rw [length_writeU16 (by omega)]; omega)).2]

/-- A change of the header is found, as long as it is still as long as before. -/
lemma not_verify_of_garbled (h : verifyChecksum buf) {buf' : List UInt8}
    (hlen : headerLen buf' = headerLen buf)
    (hbad : Garbled (buf.take (headerLen buf)) (buf'.take (headerLen buf))) :
    ¬ verifyChecksum buf' := by
  rw [verifyChecksum_iff] at h ⊢
  rw [hlen]
  have hne := hbad.fold_ne (c := 0) (by simpa using h)
  simpa using hne

/-! ### Which headers are accepted -/

section Acceptance

variable (rx : Bool) (buf : List UInt8)

/-- `new_checked` and `parse` both succeed. -/
def Accepts : Prop := checkLen buf = .ok () ∧ ∃ repr, Repr.parse rx buf = .ok repr

/-- The ones' complement sum over the whole header is all ones. -/
def Summed : Prop := OnesComplement.sum (words (buf.take (headerLen buf))) = 0xffff

/-- A header as it should be accepted. -/
structure WellFormed : Prop where
  version_eq : version buf = 4
  fixed_le : 20 ≤ headerLen buf
  header_le : headerLen buf ≤ (totalLen buf).toNat
  total_le : (totalLen buf).toNat ≤ buf.length
  summed : rx → Summed buf

/-- The payload is the range behind the header, and is disjoint from the fixed header. -/
structure Delimited : Prop where
  range : buf.take (totalLen buf).toNat = buf.take (headerLen buf) ++ payload buf
  fixed_le : 20 ≤ (buf.take (headerLen buf)).length

variable {rx buf}

lemma verifyChecksum_iff_summed : verifyChecksum buf ↔ Summed buf := by
  unfold Summed
  rw [verifyChecksum_iff, sum_eq_fold (words_lt _)]

lemma checkLen_eq_ok_iff : checkLen buf = .ok () ↔ 20 ≤ buf.length ∧
    headerLen buf ≤ (totalLen buf).toNat ∧ (totalLen buf).toNat ≤ buf.length := by
  unfold checkLen
  split_ifs with h20 hhead htotal hlen
  · exact ⟨nofun, fun h => by omega⟩
  · exact ⟨nofun, fun h => by omega⟩
  · exact ⟨nofun, fun h => by omega⟩
  · exact ⟨nofun, fun h => by omega⟩
  · exact ⟨fun _ => by omega, fun _ => rfl⟩

lemma accepts_iff : Accepts rx buf ↔ (20 ≤ buf.length ∧ headerLen buf ≤ (totalLen buf).toNat ∧
    (totalLen buf).toNat ≤ buf.length) ∧ version buf = 4 ∧ (rx → Summed buf) := by
  unfold Accepts
  rw [checkLen_eq_ok_iff]
  refine and_congr_right fun hlen => ?_
  unfold Repr.parse
  rw [checkLen_eq_ok_iff.mpr hlen]
  change (∃ repr, (if version buf ≠ 4 then _ else _) = Except.ok repr) ↔ _
  by_cases hversion : version buf = 4
  · rw [if_neg (not_not.mpr hversion)]
    by_cases hrx : rx ∧ ¬ verifyChecksum buf
    · rw [if_pos hrx]
      refine ⟨nofun, fun h => absurd (h.2 hrx.1) ?_⟩
      rw [← verifyChecksum_iff_summed]
      exact hrx.2
    · rw [if_neg hrx]
      refine ⟨fun _ => ⟨hversion, fun h => ?_⟩, fun _ => ⟨_, rfl⟩⟩
      rw [← verifyChecksum_iff_summed]
      exact not_not.mp fun hbad => hrx ⟨h, hbad⟩
  · rw [if_pos hversion]
    exact ⟨nofun, fun h => absurd h.1 hversion⟩

lemma delimited_iff (hhead : headerLen buf ≤ (totalLen buf).toNat)
    (htotal : (totalLen buf).toNat ≤ buf.length) : Delimited buf ↔ 20 ≤ headerLen buf := by
  have hlen : (buf.take (headerLen buf)).length = headerLen buf :=
    List.length_take_of_le (by omega)
  refine ⟨fun h => hlen ▸ h.fixed_le, fun h => ⟨?_, by omega⟩⟩
  have hsplit := List.take_append_drop (headerLen buf) (buf.take (totalLen buf).toNat)
  rw [List.take_take, Nat.min_eq_left hhead] at hsplit
  exact hsplit.symm

/-- The header is shorter than the fixed header, and nothing else is wrong with the packet. -/
structure Short (rx : Bool) (buf : List UInt8) : Prop where
  header_lt : headerLen buf < 20
  length_ge : 20 ≤ buf.length
  version_eq : version buf = 4
  header_le : headerLen buf ≤ (totalLen buf).toNat
  total_le : (totalLen buf).toNat ≤ buf.length
  summed : rx → Summed buf

/-- Exactly the well-formed headers are accepted, and payloads are behind them, unless the header
length field is too small and nothing else is wrong. -/
theorem accepts_exactly_iff :
    ((Accepts rx buf ↔ WellFormed rx buf) ∧ (Accepts rx buf → Delimited buf)) ↔ ¬ Short rx buf := by
  constructor
  · rintro ⟨hiff, -⟩ hshort
    have haccepts : Accepts rx buf := accepts_iff.mpr
      ⟨⟨hshort.length_ge, hshort.header_le, hshort.total_le⟩, hshort.version_eq, hshort.summed⟩
    have := (hiff.mp haccepts).fixed_le
    have := hshort.header_lt
    omega
  · intro hnot
    have hwell : Accepts rx buf → 20 ≤ headerLen buf := by
      intro h
      obtain ⟨⟨hlen, hhead, htotal⟩, hversion, hsum⟩ := accepts_iff.mp h
      by_contra hlt
      exact hnot ⟨by omega, hlen, hversion, hhead, htotal, hsum⟩
    refine ⟨⟨fun h => ?_, fun h => ?_⟩, fun h => ?_⟩
    · obtain ⟨⟨hlen, hhead, htotal⟩, hversion, hsum⟩ := accepts_iff.mp h
      exact ⟨hversion, hwell h, hhead, htotal, hsum⟩
    · have := h.fixed_le
      have := h.header_le
      have := h.total_le
      exact accepts_iff.mpr ⟨⟨by omega, h.header_le, h.total_le⟩, h.version_eq, h.summed⟩
    · obtain ⟨⟨-, hhead, htotal⟩, -⟩ := accepts_iff.mp h
      exact (delimited_iff hhead htotal).mpr (hwell h)

/-- A header length of 8 octets is accepted, with the checksum over these, and the addresses are
taken for payload. -/
theorem accepts_short_header :
    let buf : List UInt8 :=
      [0x42, 0, 0, 20, 0xbd, 0xeb, 0, 0, 64, 6, 0, 0, 10, 0, 0, 1, 10, 0, 0, 2]
    Accepts true buf ∧ ¬ WellFormed true buf ∧ ¬ Delimited buf := by
  refine ⟨⟨by decide, _, rfl⟩, fun h => ?_, fun h => ?_⟩
  · exact absurd h.fixed_le (by decide)
  · exact absurd h.fixed_le (by decide)

end Acceptance

end Ipv4

/-! ### TCP segments -/

namespace TcpPacket

variable {buf : List UInt8} {srcAddr dstAddr : IpAddress}

/-- The sum of a segment of `n` octets, with `c` from the pseudo-header. -/
lemma sum_eq (hversion : srcAddr.version = dstAddr.version) {n : ℕ} (hn : n ≤ 2 ^ 17) :
    ∃ c : UInt16, c.toNat ≠ 0 ∧ ∀ buf : List UInt8, buf.length = n →
      ∃ s : UInt16, sum buf srcAddr dstAddr = .ok s ∧
      s.toNat = fold (c.toNat + (words buf).sum) := by
  obtain ⟨c, hc, hne⟩ := @Checksum.pseudoHeader_ne_zero srcAddr dstAddr .tcp (by decide) hversion n
  refine ⟨c, hne, fun buf hlen => ⟨_, ?_, Checksum.toNat_combine_data c (by omega)⟩⟩
  rw [sum, hlen, hc]
  rfl

lemma setChecksum_eq (hlen : tcpHeaderLen ≤ buf.length) (v : UInt16) :
    setChecksum buf v = .ok (writeU16 buf 16 v) := by
  simp only [tcpHeaderLen] at hlen
  exact write_of (by simpa using by omega)

lemma verifyChecksum_of {s : UInt16} (hs : sum buf srcAddr dstAddr = .ok s) :
    verifyChecksum buf srcAddr dstAddr = .ok (s.toNat = 65535) := by
  rw [verifyChecksum, hs, ok_bind, pure_eq_ok]
  simp only [Checksum.eq_max_iff]

/-- A segment whose checksum is filled in is verified, and every change of one word is found. -/
lemma fillChecksum_protects (hversion : srcAddr.version = dstAddr.version)
    (hlen : tcpHeaderLen ≤ buf.length) (hmax : buf.length ≤ 2 ^ 17) :
    ∃ v : UInt16, fillChecksum buf srcAddr dstAddr = .ok (writeU16 (writeU16 buf 16 0) 16 v) ∧
      verifyChecksum (writeU16 (writeU16 buf 16 0) 16 v) srcAddr dstAddr = .ok true ∧
      ∀ bad, Garbled (writeU16 (writeU16 buf 16 0) 16 v) bad →
        verifyChecksum bad srcAddr dstAddr = .ok false := by
  have hlen' : 20 ≤ buf.length := hlen
  obtain ⟨c, hc, hsum⟩ := @sum_eq srcAddr dstAddr hversion _ hmax
  have hzero : (writeU16 buf 16 0).length = buf.length := length_writeU16 (by omega) 0
  have hfull : ∀ v, (writeU16 (writeU16 buf 16 0) 16 v).length = buf.length := fun v => by
    rw [length_writeU16 (by omega), hzero]
  obtain ⟨s, hs, hval⟩ := hsum _ hzero
  obtain ⟨t, ht, htval⟩ := hsum _ (hfull (~~~ s))
  have hones : fold (c.toNat + (words (writeU16 (writeU16 buf 16 0) 16 (~~~ s))).sum) = 65535 := by
    refine Checksum.fold_filled (k := 8) (by omega) (by omega) ?_
    rw [Checksum.toNat_complement, hval]
  refine ⟨~~~ s, ?_, ?_, ?_⟩
  · rw [fillChecksum, setChecksum_eq hlen, ok_bind, hs, ok_bind, setChecksum_eq (by rwa [hzero])]
  · rw [verifyChecksum_of ht, htval, hones]
    rfl
  · intro bad hbad
    obtain ⟨u, hu, huval⟩ := hsum bad (by rw [hbad.length_eq, hfull])
    rw [verifyChecksum_of hu, huval, decide_eq_false (hbad.fold_ne hones)]

end TcpPacket

/-! ### UDP datagrams -/

namespace UdpPacket

variable {buf : List UInt8} {srcAddr dstAddr : IpAddress}

/-- The sum of a datagram whose length field is `n`, with `c` from the pseudo-header. -/
lemma sum_eq (hversion : srcAddr.version = dstAddr.version) (n : ℕ) :
    ∃ c : UInt16, c.toNat ≠ 0 ∧
      ∀ buf : List UInt8, Framed buf → (Octets.readU16 buf 4).toNat = n →
        ∃ s : UInt16, sum buf srcAddr dstAddr = .ok s ∧
          s.toNat = fold (c.toNat + (words (buf.take n)).sum) := by
  obtain ⟨c, hc, hne⟩ := @Checksum.pseudoHeader_ne_zero srcAddr dstAddr .udp (by decide) hversion n
  refine ⟨c, hne, fun buf hframed hlen => ⟨_, ?_, Checksum.toNat_combine_data c ?_⟩⟩
  · have hle := hframed.le_length
    rw [sum, hframed.len_eq, ok_bind, hlen, hc]
    change (do let data ← slice buf 0 n; _) = _
    rw [slice_of (by omega) (by omega)]
    rfl
  · have := (Octets.readU16 buf 4).toNat_lt
    rw [List.length_take]
    omega

lemma verifyChecksum_of (hframed : Framed buf) {s : UInt16} (hs : sum buf srcAddr dstAddr = .ok s)
    (hne : Octets.readU16 buf 6 ≠ 0) :
    verifyChecksum buf srcAddr dstAddr = .ok (s.toNat = 65535) := by
  rw [verifyChecksum, hframed.checksum_eq, ok_bind, if_neg hne, hs, ok_bind, pure_eq_ok]
  simp only [Checksum.eq_max_iff]

/-- A datagram whose checksum is filled in is verified. A change of one word is found, unless it
changes the length of the datagram or takes the checksum away. -/
lemma fillChecksum_protects (hversion : srcAddr.version = dstAddr.version) (hframed : Framed buf) :
    ∃ v : UInt16, fillChecksum buf srcAddr dstAddr = .ok (writeU16 (writeU16 buf 6 0) 6 v) ∧
      verifyChecksum (writeU16 (writeU16 buf 6 0) 6 v) srcAddr dstAddr = .ok true ∧
      ∀ bad, Octets.readU16 bad 4 = Octets.readU16 buf 4 → Octets.readU16 bad 6 ≠ 0 →
        (Octets.readU16 buf 4).toNat ≤ bad.length →
        Garbled ((writeU16 (writeU16 buf 6 0) 6 v).take (Octets.readU16 buf 4).toNat)
          (bad.take (Octets.readU16 buf 4).toNat) →
        verifyChecksum bad srcAddr dstAddr = .ok false := by
  have hlen := hframed.length_ge
  have hhead := hframed.header_le
  have hle := hframed.le_length
  simp only [udpHeaderLen] at hhead
  have hzero := hframed.writeU16 0
  set n := (Octets.readU16 buf 4).toNat with hn
  obtain ⟨c, hc, hsum⟩ := @sum_eq srcAddr dstAddr hversion n
  obtain ⟨s, hs, hval⟩ := hsum _ hzero (by rw [hframed.readU16_writeU16])
  set v : UInt16 := if ~~~ s = 0 then 0xffff else ~~~ s with hv
  have hvne : v ≠ 0 := by
    rw [hv]
    split_ifs with h
    · decide
    · exact h
  have hvmod : v.toNat % 65535 = (65535 - s.toNat) % 65535 := by
    rw [hv, ← Checksum.toNat_complement]
    split_ifs with h
    · rw [h]
      rfl
    · rfl
  have hfull := hzero.writeU16 v
  have hlenfield : (Octets.readU16 (writeU16 (writeU16 buf 6 0) 6 v) 4).toNat = n := by
    rw [hzero.readU16_writeU16, hframed.readU16_writeU16]
  obtain ⟨t, ht, htval⟩ := hsum _ hfull hlenfield
  have hlen0 : (writeU16 buf 6 0).length = buf.length := length_writeU16 (by omega) 0
  have htake : (buf.take n).length = n := List.length_take_of_le hle
  have hones : fold (c.toNat + (words ((writeU16 (writeU16 buf 6 0) 6 v).take n)).sum) = 65535 := by
    rw [take_writeU16 (by omega) (by omega) v]
    rw [take_writeU16 (by omega) hle 0] at hval ⊢
    refine Checksum.fold_filled (k := 3) (by omega) (by omega) ?_
    rw [hvmod, hval]
  refine ⟨v, ?_, ?_, ?_⟩
  · rw [fillChecksum, hframed.setChecksum_eq, ok_bind, hs, ok_bind, hzero.setChecksum_eq]
  · rw [verifyChecksum_of hfull ht, htval, hones]
    · rfl
    · rwa [readU16_writeU16 (by omega)]
  · intro bad hfield hck hbadlen hbad
    have hbframed : Framed bad := by
      refine ⟨?_, ?_⟩
      · rw [hfield]
        exact hframed.header_le
      · rw [hfield]
        exact hbadlen
    obtain ⟨u, hu, huval⟩ := hsum bad hbframed (by rw [hfield])
    rw [verifyChecksum_of hbframed hu hck, huval, decide_eq_false (hbad.fold_ne hones)]

/-! ### Which datagrams are accepted -/

section Acceptance

/-- The octets in front of a datagram that its checksum covers as well. -/
def pseudoOctets (n : ℕ) : IpAddress → IpAddress → Option (List UInt8)
  | .ipv4 src, .ipv4 dst => some (ofU32 src ++ ofU32 dst ++ [0, 17] ++ ofU16 (.ofNat n))
  | .ipv6 src, .ipv6 dst =>
    some (ofU128 src ++ ofU128 dst ++ [0, 0] ++ ofU16 (.ofNat n) ++ [0, 0] ++ [0, 17])
  | _, _ => none

variable (buf srcAddr dstAddr)

/-- The ones' complement sum over the pseudo-header and the datagram is all ones. -/
def Summed : Prop :=
  ∃ pseudo, pseudoOctets (Octets.readU16 buf 4).toNat srcAddr dstAddr = some pseudo ∧
    OnesComplement.sum (words (pseudo ++ buf.take (Octets.readU16 buf 4).toNat)) = 0xffff

/-- Both addresses are of IPv4, where the checksum can be omitted. -/
def OverIpv4 : Prop := srcAddr.version = .ipv4 ∧ dstAddr.version = .ipv4

/-- A datagram as it should be accepted. -/
structure Intact : Prop where
  dstPort_ne : Octets.readU16 buf 2 ≠ 0
  header_le : 8 ≤ (Octets.readU16 buf 4).toNat
  le_length : (Octets.readU16 buf 4).toNat ≤ buf.length
  summed : Summed buf srcAddr dstAddr ∨ Octets.readU16 buf 6 = 0 ∧ OverIpv4 srcAddr dstAddr
  not_omitted : srcAddr.version = .ipv6 → dstAddr.version = .ipv6 → Octets.readU16 buf 6 ≠ 0

/-- The checksum is omitted where it cannot be, and nothing else is wrong with the datagram. -/
structure Bare : Prop where
  framed : Framed buf
  dstPort_ne : Octets.readU16 buf 2 ≠ 0
  omitted : Octets.readU16 buf 6 = 0
  not_overIpv4 : ¬ OverIpv4 srcAddr dstAddr

variable {buf srcAddr dstAddr}

/-- The pseudo-header of the source has the sum of its octets. -/
lemma pseudoHeader_eq {pseudo : List UInt8} {n : ℕ}
    (h : pseudoOctets n srcAddr dstAddr = some pseudo) :
    pseudo.length % 2 = 0 ∧ ∃ c : UInt16,
      Checksum.pseudoHeader srcAddr dstAddr .udp n = .ok c ∧ c.toNat = fold (words pseudo).sum := by
  cases srcAddr with
  | ipv4 src =>
    cases dstAddr with
    | ipv6 dst => cases h
    | ipv4 dst =>
      obtain rfl := Option.some.inj h
      refine ⟨by simp, Checksum.pseudoHeaderV4 src dst IpProtocol.udp.toByte n, rfl, ?_⟩
      rw [Checksum.pseudoHeaderV4, Checksum.toNat_combine_three (by simp) (by simp) (by simp)]
      simp only [List.append_assoc]
      rfl
  | ipv6 src =>
    cases dstAddr with
    | ipv4 dst => cases h
    | ipv6 dst =>
      obtain rfl := Option.some.inj h
      refine ⟨by simp, Checksum.pseudoHeaderV6 src dst IpProtocol.udp.toByte n, rfl, ?_⟩
      rw [Checksum.pseudoHeaderV6, Checksum.toNat_combine_three (by simp) (by simp) (by simp)]
      simp only [List.append_assoc, words_append (l := ofU128 _) (by simp),
        words_append (l := [_, _]) (by simp), words_append (l := ofU16 _) (by simp),
        List.sum_append]
      have hzero : (words [0, 0]).sum = 0 := rfl
      have hnext : (words [0, IpProtocol.udp.toByte]).sum = (words [0, 17]).sum := rfl
      rw [hzero, hnext, Nat.zero_add, Nat.zero_add, Nat.add_comm (words [0, 17]).sum]

lemma summed_iff (hframed : Framed buf) :
    Summed buf srcAddr dstAddr ↔ sum buf srcAddr dstAddr = .ok 0xffff := by
  have hlt := (Octets.readU16 buf 4).toNat_lt
  unfold Summed
  cases hpseudo : pseudoOctets (Octets.readU16 buf 4).toNat srcAddr dstAddr with
  | none =>
    refine ⟨nofun, fun h => ?_⟩
    rw [sum, hframed.len_eq, ok_bind] at h
    match srcAddr, dstAddr, hpseudo, h with
    | .ipv4 _, .ipv6 _, _, h => cases h
    | .ipv6 _, .ipv4 _, _, h => cases h
  | some pseudo =>
    obtain ⟨heven, c, hc, hval⟩ := pseudoHeader_eq hpseudo
    rw [sum, hframed.len_eq, ok_bind, hc]
    change _ ↔ (do let data ← slice buf 0 (Octets.readU16 buf 4).toNat; _) = _
    rw [slice_of (by omega) hframed.le_length, List.drop_zero, ok_bind, pure_eq_ok,
      Except.ok.injEq, Checksum.eq_max_iff, Checksum.toNat_combine_data c
        (by rw [List.length_take]; omega), hval, fold_fold_add, ← List.sum_append,
      ← words_append heven, ← sum_eq_fold (words_lt _)]
    simp

lemma expectChecksum_eq_ok_iff (hframed : Framed buf) :
    UdpRepr.expectChecksum true buf srcAddr dstAddr = .ok () ↔
      Octets.readU16 buf 6 = 0 ∨ Summed buf srcAddr dstAddr := by
  rw [summed_iff hframed]
  unfold UdpRepr.expectChecksum
  rw [if_pos rfl, verifyChecksum, hframed.checksum_eq, ok_bind]
  by_cases hzero : Octets.readU16 buf 6 = 0
  · rw [if_pos hzero]
    exact ⟨fun _ => .inl hzero, fun _ => rfl⟩
  · rw [if_neg hzero]
    cases hsum : sum buf srcAddr dstAddr with
    | error e => exact ⟨nofun, fun h => absurd (h.resolve_left hzero) nofun⟩
    | ok s =>
      by_cases hs : s = 0xffff
      · subst hs
        exact ⟨fun _ => .inr rfl, fun _ => rfl⟩
      · refine ⟨fun h => ?_, fun h => absurd (Except.ok.inj (h.resolve_left hzero)) hs⟩
        -- where the sum is wrong, only a checksum of zero would be let through
        simp only [ok_bind, pure_eq_ok, hs, decide_false] at h
        cases srcAddr <;> cases dstAddr <;>
          simp [reject, hzero, fail] at h

/-- What is accepted, with checksums verified. -/
lemma parse_eq_ok_iff : (∃ repr, UdpRepr.parse true buf srcAddr dstAddr = .ok repr) ↔
    Framed buf ∧ Octets.readU16 buf 2 ≠ 0 ∧
      (Octets.readU16 buf 6 = 0 ∨ Summed buf srcAddr dstAddr) := by
  constructor
  · rintro ⟨repr, hparse⟩
    obtain ⟨_, hcheck, hparse⟩ := bind_eq_ok.mp hparse
    have hframed := checkLen_eq_ok_iff.mp hcheck
    have hlen := hframed.length_ge
    rw [dstPort, readU16_of (by omega), ok_bind] at hparse
    obtain ⟨_, hreject, hparse⟩ := bind_eq_ok.mp hparse
    obtain ⟨_, hexpect, -⟩ := bind_eq_ok.mp hparse
    refine ⟨hframed, fun hport => ?_, (expectChecksum_eq_ok_iff hframed).mp hexpect⟩
    rw [reject_of hport] at hreject
    cases hreject
  · rintro ⟨hframed, hport, hsum⟩
    have hlen := hframed.length_ge
    rw [UdpRepr.parse, checkLen_eq_ok_iff.mpr hframed, ok_bind, dstPort, readU16_of (by omega),
      ok_bind, reject_of_not hport, ok_bind, (expectChecksum_eq_ok_iff hframed).mpr hsum, ok_bind,
      srcPort, readU16_of (by omega), ok_bind]
    exact ⟨_, rfl⟩

/-- Every datagram that is accepted is intact, unless its checksum is omitted where it cannot be:
the checksum of zero is let through before the addresses are looked at. -/
theorem accepts_intact_iff :
    ((∃ repr, UdpRepr.parse true buf srcAddr dstAddr = .ok repr) → Intact buf srcAddr dstAddr) ↔
      ¬ Bare buf srcAddr dstAddr := by
  rw [parse_eq_ok_iff]
  constructor
  · rintro hall hbare
    have hintact := hall ⟨hbare.framed, hbare.dstPort_ne, .inl hbare.omitted⟩
    rcases hintact.summed with ⟨pseudo, hpseudo, -⟩ | ⟨-, hv4⟩
    · match srcAddr, dstAddr, hpseudo with
      | .ipv4 src, .ipv4 dst, _ => exact hbare.not_overIpv4 ⟨rfl, rfl⟩
      | .ipv6 src, .ipv6 dst, _ => exact hintact.not_omitted rfl rfl hbare.omitted
    · exact hbare.not_overIpv4 hv4
  · rintro hnot ⟨hframed, hport, hsum⟩
    have hv4 : Octets.readU16 buf 6 = 0 → OverIpv4 srcAddr dstAddr := by
      intro hzero
      by_contra hv4
      exact hnot ⟨hframed, hport, hzero, hv4⟩
    refine ⟨hport, hframed.header_le, hframed.le_length, ?_, fun hsrc _ hzero => ?_⟩
    · exact hsum.elim (fun hzero => .inr ⟨hzero, hv4 hzero⟩) .inl
    · rw [(hv4 hzero).1] at hsrc
      cases hsrc

/-- A datagram over IPv6 without a checksum is accepted. -/
theorem accepts_without_checksum :
    let buf : List UInt8 := [0, 53, 0, 53, 0, 8, 0, 0]
    (∃ repr, UdpRepr.parse true buf (.ipv6 1) (.ipv6 2) = .ok repr) ∧
      ¬ Intact buf (.ipv6 1) (.ipv6 2) := by
  refine ⟨⟨_, rfl⟩, fun h => ?_⟩
  exact h.not_omitted rfl rfl (by decide)

end Acceptance

end UdpPacket

/-! ### The checksum of the three protocols -/

namespace Checksum

/-- The checksum is the sum in ones' complement of all words, computed without overflow, and over a
split at an even position it is combined to the same. Checksums that are filled in are verified,
and a change of one word is found where it leaves alone how much is covered. -/
theorem protects :
    (∀ octets : List UInt8, octets.length ≤ 65535 →
      (data octets).toNat = OnesComplement.sum (words octets) ∧
      accumulateLoops octets = accumulate octets ∧ accumulate octets < 2 ^ 32 ∧
      (∀ sum, sum = accumulate octets / 2 ^ 16 + accumulate octets % 2 ^ 16 →
        sum < 2 ^ 32 ∧ sum / 2 ^ 16 + sum % 2 ^ 16 < 2 ^ 16) ∧
      ∀ k ≤ octets.length, k % 2 = 0 →
        combine [data (octets.take k), data (octets.drop k)] = data octets) ∧
    (∀ buf : List UInt8, Ipv4.Headed buf →
      Ipv4.verifyChecksum (Ipv4.fillChecksum buf) ∧
      ∀ bad, Ipv4.headerLen bad = Ipv4.headerLen buf →
        Garbled ((Ipv4.fillChecksum buf).take (Ipv4.headerLen buf))
          (bad.take (Ipv4.headerLen buf)) →
        ¬ Ipv4.verifyChecksum bad) ∧
    (∀ (srcAddr dstAddr : IpAddress) (buf : List UInt8), srcAddr.version = dstAddr.version →
      tcpHeaderLen ≤ buf.length → buf.length ≤ 65535 →
      ∃ buf', TcpPacket.fillChecksum buf srcAddr dstAddr = .ok buf' ∧
        TcpPacket.verifyChecksum buf' srcAddr dstAddr = .ok true ∧
        ∀ bad, Garbled buf' bad → TcpPacket.verifyChecksum bad srcAddr dstAddr = .ok false) ∧
    (∀ (srcAddr dstAddr : IpAddress) (buf : List UInt8), srcAddr.version = dstAddr.version →
      UdpPacket.checkLen buf = .ok () →
      ∃ buf' len, UdpPacket.fillChecksum buf srcAddr dstAddr = .ok buf' ∧
        UdpPacket.len buf' = .ok len ∧
        UdpPacket.verifyChecksum buf' srcAddr dstAddr = .ok true ∧
        ∀ bad, UdpPacket.len bad = .ok len → UdpPacket.checksum bad ≠ .ok 0 →
          len.toNat ≤ bad.length → Garbled (buf'.take len.toNat) (bad.take len.toNat) →
          UdpPacket.verifyChecksum bad srcAddr dstAddr = .ok false) := by
  refine ⟨?_, ?_, ?_, ?_⟩
  · intro octets hlen
    obtain ⟨hlt, hdata⟩ := @toNat_data octets (by omega)
    refine ⟨?_, accumulateLoops_eq octets, hlt, ?_, ?_⟩
    · rw [hdata, sum_eq_fold (words_lt octets)]
    · rintro sum rfl
      exact ⟨by omega, carries_lt hlt⟩
    · intro k hle hk
      exact combine_split (by omega) hk hle
  · intro buf h
    refine ⟨h.verify_fillChecksum, fun bad hlen hbad => ?_⟩
    have hfill := h.headerLen_fillChecksum
    exact Ipv4.not_verify_of_garbled h.verify_fillChecksum (by rw [hlen, hfill])
      (by rwa [hfill])
  · intro srcAddr dstAddr buf hversion hlen hmax
    obtain ⟨v, hfill, hverify, hbad⟩ := TcpPacket.fillChecksum_protects hversion hlen (by omega)
    exact ⟨_, hfill, hverify, hbad⟩
  · intro srcAddr dstAddr buf hversion hcheck
    have hframed := UdpPacket.checkLen_eq_ok_iff.mp hcheck
    have hfilled := fun v => (hframed.writeU16 0).writeU16 v
    obtain ⟨v, hfill, hverify, hbad⟩ := UdpPacket.fillChecksum_protects hversion hframed
    have hlen : Octets.readU16 (writeU16 (writeU16 buf 6 0) 6 v) 4 = Octets.readU16 buf 4 := by
      rw [(hframed.writeU16 0).readU16_writeU16, hframed.readU16_writeU16]
    refine ⟨_, Octets.readU16 buf 4, hfill, ?_, hverify, fun bad hfield hck hle hgarbled => ?_⟩
    · rw [(hfilled v).len_eq, hlen]
    · have hge := hframed.header_le
      simp only [udpHeaderLen] at hge
      rw [UdpPacket.len, readU16_of (by omega)] at hfield
      rw [UdpPacket.checksum, readU16_of (by omega)] at hck
      exact hbad bad (Except.ok.inj hfield) (fun h => hck (congrArg _ h)) hle hgarbled

theorem protects_datagram :
    ∃ buf', UdpPacket.fillChecksum [0, 53, 0, 53, 0, 10, 0, 0, 1, 2] (.ipv4 1) (.ipv4 2) =
    .ok buf' ∧
      UdpPacket.verifyChecksum buf' (.ipv4 1) (.ipv4 2) = .ok true := by
  obtain ⟨buf', len, hfill, -, hverify, -⟩ := protects.2.2.2 (.ipv4 1) (.ipv4 2)
    [0, 53, 0, 53, 0, 10, 0, 0, 1, 2] rfl (by decide)
  exact ⟨buf', hfill, hverify⟩

/-- A header of 24 octets whose first word is changed so that it has 20: the options are not summed
up any more, and make up for the change. -/
theorem protects_not_header_length :
    ∃ buf bad : List UInt8, Ipv4.Headed buf ∧ Ipv4.Headed bad ∧
      Ipv4.verifyChecksum (Ipv4.fillChecksum buf) ∧ Garbled (Ipv4.fillChecksum buf) bad ∧
      Ipv4.verifyChecksum bad := by
  refine ⟨[0x46, 0, 0, 24, 0, 0, 0, 0, 64, 17, 0, 0, 10, 0, 0, 1, 10, 0, 0, 2, 0xfe, 0xff, 0, 0],
    [0x45, 0, 0, 24, 0, 0, 0, 0, 64, 17, 0x66, 0xd3, 10, 0, 0, 1, 10, 0, 0, 2, 0xfe, 0xff, 0, 0],
    ⟨by decide, by decide⟩, ⟨by decide, by decide⟩, by decide,
      ⟨by decide, 0, by decide, 0x4500, ?_⟩,
    by decide⟩
  exact ⟨by decide, by decide⟩

end Checksum

end Smoltcp
