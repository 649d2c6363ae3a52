import Smoltcp.Lib.Octets
import Smoltcp.Lib.OnesComplement
import Smoltcp.Wire.Ip

/-!
# The internet checksum

The sum of all 16-bit words in ones' complement. Sums of 32 bits are computed without overflow for
buffers shorter than 2^17 octets.
-/

namespace Smoltcp.Checksum

open Octets OnesComplement

def propagateCarries (word : ℕ) : UInt16 :=
  let sum := word / 2 ^ 16 + word % 2 ^ 16
  .ofNat (sum / 2 ^ 16) + .ofNat sum

/-- The sum of all words; a last odd octet counts as the upper half of a word. -/
def accumulate : List UInt8 → ℕ
  | [] => 0
  | [value] => value.toNat * 256
  | hi :: lo :: rest => (toU16 hi lo).toNat + accumulate rest

/-- Compute an RFC 1071 compliant checksum (without the final complement). -/
def data (octets : List UInt8) : UInt16 := propagateCarries (accumulate octets % 2 ^ 32)

/-- Combine several RFC 1071 compliant checksums. -/
def combine (checksums : List UInt16) : UInt16 :=
  propagateCarries ((checksums.map UInt16.toNat).sum % 2 ^ 32)

def pseudoHeaderV4 (srcAddr dstAddr : BitVec 32) (nextHeader : UInt8) (length : ℕ) : UInt16 :=
  combine [data (ofU32 srcAddr), data (ofU32 dstAddr),
    data ([0, nextHeader] ++ ofU16 (.ofNat length))]

def pseudoHeaderV6 (srcAddr dstAddr : BitVec 128) (nextHeader : UInt8) (length : ℕ) : UInt16 :=
  combine [data (ofU128 srcAddr), data (ofU128 dstAddr),
    data ([0, nextHeader] ++ ofU16 (.ofNat length))]

def pseudoHeader (srcAddr dstAddr : IpAddress) (nextHeader : IpProtocol) (length : ℕ) :
    Checked UInt16 :=
  match srcAddr, dstAddr with
  | .ipv4 src, .ipv4 dst => .ok (pseudoHeaderV4 src dst nextHeader.toByte length)
  | .ipv6 src, .ipv6 dst => .ok (pseudoHeaderV6 src dst nextHeader.toByte length)
  | _, _ => .error .unreachable

/-! ### The loops of the source -/

/-- Take by two octets and sum them, as long as there are two. -/
def sumWords (accum : ℕ) : List UInt8 → ℕ × List UInt8
  | hi :: lo :: rest => sumWords (accum + (toU16 hi lo).toNat) rest
  | rest => (accum, rest)

/-- For each chunk of 32 octets, sum its words. -/
def sumChunks (accum : ℕ) (octets : List UInt8) : ℕ × List UInt8 :=
  if 32 ≤ octets.length then sumChunks (sumWords accum (octets.take 32)).1 (octets.drop 32)
  else (accum, octets)
termination_by octets.length
decreasing_by
  rw [List.length_drop]
  omega

/-- The accumulator at the end of all loops. -/
def accumulateLoops (octets : List UInt8) : ℕ :=
  let (accum, rest) := sumChunks 0 octets
  let (accum, rest) := sumWords accum rest
  match rest with
  | [] => accum
  | value :: _ => accum + value.toNat * 256

lemma toU16_eq (hi lo : UInt8) : (toU16 hi lo).toNat = hi.toNat * 256 + lo.toNat := by
  have := hi.toNat_lt
  have := lo.toNat_lt
  simp only [toU16, UInt16.toNat_ofNat']
  omega

lemma accumulate_eq (octets : List UInt8) : accumulate octets = (words octets).sum := by
  induction octets using accumulate.induct with
  | case1 => simp [accumulate, words]
  | case2 value => simp [accumulate, words]
  | case3 hi lo rest ih => simp only [accumulate, words, List.sum_cons, ih, toU16_eq]

lemma accumulate_append {l : List UInt8} (h : l.length % 2 = 0) (m : List UInt8) :
    accumulate (l ++ m) = accumulate l + accumulate m := by
  simp only [accumulate_eq, words_append h, List.sum_append]

/-- What the loop over pairs leaves is at most one octet. -/
lemma sumWords_eq (accum : ℕ) (octets : List UInt8) :
    ∃ rest, (sumWords accum octets).2 = rest ∧ rest.length ≤ 1 ∧
      (sumWords accum octets).1 + accumulate rest = accum + accumulate octets ∧
      (octets.length % 2 = 0 → rest = []) := by
  induction octets using accumulate.induct generalizing accum with
  | case1 => exact ⟨[], by simp [sumWords, accumulate]⟩
  | case2 value => exact ⟨[value], by simp [sumWords]⟩
  | case3 hi lo rest ih =>
    obtain ⟨r, hr, hlen, hsum, hnil⟩ := ih (accum + (toU16 hi lo).toNat)
    refine ⟨r, by simpa [sumWords] using hr, hlen, ?_, fun he => hnil ?_⟩
    · simp only [sumWords, accumulate]
      omega
    · simp only [List.length_cons] at he
      omega

lemma sumChunks_eq (accum : ℕ) (octets : List UInt8) :
    (sumChunks accum octets).1 + accumulate (sumChunks accum octets).2 =
      accum + accumulate octets := by
  induction accum, octets using sumChunks.induct with
  | case1 accum octets hlen ih =>
    have htake : (octets.take 32).length = 32 := List.length_take_of_le hlen
    obtain ⟨rest, -, -, hsum, hnil⟩ := sumWords_eq accum (octets.take 32)
    rw [hnil (by omega)] at hsum
    have hsplit := accumulate_append (l := octets.take 32) (by omega) (octets.drop 32)
    rw [List.take_append_drop] at hsplit
    rw [sumChunks, if_pos hlen, ih]
    simp only [accumulate] at hsum
    omega
  | case2 accum octets hlen => rw [sumChunks, if_neg hlen]

/-- The loops add up all words. -/
lemma accumulateLoops_eq (octets : List UInt8) : accumulateLoops octets = accumulate octets := by
  have hchunks := sumChunks_eq 0 octets
  obtain ⟨rest, hrest, hlen, hsum, -⟩ :=
    sumWords_eq (sumChunks 0 octets).1 (sumChunks 0 octets).2
  simp only [accumulateLoops, hrest]
  match rest, hlen with
  | [], _ =>
    simp only [accumulate] at hsum ⊢
    omega
  | [value], _ =>
    simp only [accumulate] at hsum ⊢
    omega

lemma toNat_propagateCarries {word : ℕ} (h : word < 2 ^ 32) :
    (propagateCarries word).toNat % 65535 = word % 65535 ∧
      (0 < word → 0 < (propagateCarries word).toNat) := by
  set sum := word / 2 ^ 16 + word % 2 ^ 16 with hsum
  have hval : (propagateCarries word).toNat = (sum / 2 ^ 16 % 2 ^ 16 + sum % 2 ^ 16) % 2 ^ 16 := by
    simp only [propagateCarries, UInt16.toNat_add, UInt16.toNat_ofNat']
    rfl
  have hmod : sum % 65535 = word % 65535 := by omega
  have hle : sum ≤ 2 ^ 17 - 2 := by omega
  rcases Nat.lt_or_ge sum (2 ^ 16) with hlt | hge
  · rw [Nat.div_eq_of_lt hlt, Nat.mod_eq_of_lt hlt, Nat.zero_mod, Nat.zero_add,
      Nat.mod_eq_of_lt hlt] at hval
    omega
  · have hone : sum / 2 ^ 16 = 1 := by omega
    have hrest : sum % 2 ^ 16 = sum - 2 ^ 16 := by omega
    rw [hone, hrest] at hval
    omega

/-- The complement of a sum makes the words sum up to all ones. -/
lemma propagateCarries_complement {word : ℕ} (hpos : 0 < word) (h : word < 2 ^ 31) :
    propagateCarries (word + (~~~ (propagateCarries word)).toNat) = 0xffff := by
  obtain ⟨hmod, hne⟩ := toNat_propagateCarries (show word < 2 ^ 32 by omega)
  have hlt := (propagateCarries word).toNat_lt
  have hnot : (~~~ (propagateCarries word)).toNat = 65535 - (propagateCarries word).toNat := by
    rw [UInt16.toNat_not]
    rfl
  rw [hnot]
  obtain ⟨hmod', hne'⟩ := toNat_propagateCarries
    (show word + (65535 - (propagateCarries word).toNat) < 2 ^ 32 by omega)
  have hlt' := (propagateCarries (word + (65535 - (propagateCarries word).toNat))).toNat_lt
  apply UInt16.toNat.inj
  have hp := hne hpos
  have hp' := hne' (by omega)
  change _ = 65535
  omega

/-! ### Sums in ones' complement -/

lemma toNat_propagateCarries_eq {word : ℕ} (h : word < 2 ^ 32) :
    (propagateCarries word).toNat = fold word := by
  obtain ⟨hmod, hpos⟩ := toNat_propagateCarries h
  have hlt := (propagateCarries word).toNat_lt
  refine eq_fold (by omega) hmod ⟨fun hz => by omega, ?_⟩
  rintro rfl
  rfl

/-- Folding the carries does not overflow. -/
lemma carries_lt {word : ℕ} (h : word < 2 ^ 32) :
    (word / 2 ^ 16 + word % 2 ^ 16) / 2 ^ 16 + (word / 2 ^ 16 + word % 2 ^ 16) % 2 ^ 16 <
    2 ^ 16 := by
  omega

lemma accumulate_le (octets : List UInt8) :
    accumulate octets ≤ 65535 * ((octets.length + 1) / 2) := by
  rw [accumulate_eq, ← length_words, Nat.mul_comm]
  refine List.sum_le_card_nsmul _ _ ?_
  intro w hw
  have := words_lt octets w hw
  omega

/-- Buffers of less than 2^17 octets do not overflow the accumulator. -/
lemma toNat_data {octets : List UInt8} (h : octets.length ≤ 2 ^ 17) :
    accumulate octets < 2 ^ 32 ∧ (data octets).toNat = fold (words octets).sum := by
  have hle := accumulate_le octets
  have hlt : accumulate octets < 2 ^ 32 := by omega
  refine ⟨hlt, ?_⟩
  rw [data, Nat.mod_eq_of_lt hlt, toNat_propagateCarries_eq hlt, accumulate_eq]

lemma toNat_combine {checksums : List UInt16} (h : checksums.length ≤ 2 ^ 16) :
    (combine checksums).toNat = fold (checksums.map UInt16.toNat).sum := by
  have hle : (checksums.map UInt16.toNat).sum ≤ checksums.length * 65535 := by
    have hsum := List.sum_le_card_nsmul (checksums.map UInt16.toNat) 65535 ?_
    · simpa using hsum
    · intro w hw
      obtain ⟨v, -, rfl⟩ := List.mem_map.mp hw
      have := v.toNat_lt
      omega
  have hlt : (checksums.map UInt16.toNat).sum < 2 ^ 32 := by
    have := Nat.mul_le_mul_right 65535 h
    omega
  rw [combine, Nat.mod_eq_of_lt hlt, toNat_propagateCarries_eq hlt]

/-- A pseudo-header is not zero, since the number of the protocol is not. -/
lemma pseudoHeader_ne_zero {srcAddr dstAddr : IpAddress} {nextHeader : IpProtocol}
    (hnext : nextHeader.toByte ≠ 0) (hversion : srcAddr.version = dstAddr.version) (length : ℕ) :
    ∃ c : UInt16, pseudoHeader srcAddr dstAddr nextHeader length = .ok c ∧ c.toNat ≠ 0 := by
  have hproto : (data ([0, nextHeader.toByte] ++ ofU16 (.ofNat length))).toNat ≠ 0 := by
    have hbyte : nextHeader.toByte.toNat ≠ 0 := fun h => hnext (UInt8.toNat.inj h)
    rw [(toNat_data (by simp)).2, Ne, fold_eq_zero_iff]
    simp only [ofU16, List.cons_append, List.nil_append, words, List.sum_cons]
    have hzero : (0 : UInt8).toNat = 0 := rfl
    omega
  have hcombine : ∀ a b : UInt16,
      (combine [a, b, data ([0, nextHeader.toByte] ++ ofU16 (.ofNat length))]).toNat ≠ 0 := by
    intro a b
    rw [toNat_combine (by simp), Ne, fold_eq_zero_iff]
    simp only [List.map_cons, List.sum_cons]
    omega
  cases srcAddr <;> cases dstAddr <;> first
    | exact ⟨_, rfl, hcombine _ _⟩
    | cases hversion

/-- A checksum over a pseudo-header and a segment. -/
lemma toNat_combine_data (c : UInt16) {seg : List UInt8} (h : seg.length ≤ 2 ^ 17) :
    (combine [c, data seg]).toNat = fold (c.toNat + (words seg).sum) := by
  rw [toNat_combine (by simp)]
  simp only [List.map_cons, List.map_nil, List.sum_cons, List.sum_nil, Nat.add_zero,
    (toNat_data h).2, fold_add_fold]

lemma eq_max_iff (c : UInt16) : c = 0xffff ↔ c.toNat = 65535 := by
  rw [← UInt16.toNat_inj]
  rfl

lemma toNat_complement (c : UInt16) : (~~~ c).toNat = 65535 - c.toNat := by
  rw [UInt16.toNat_not]
  rfl

/-- Filling the complement of a sum into a word that was zero. -/
lemma fold_fill {c k : ℕ} {seg : List UInt8} {v : UInt16} (hk : 2 * k + 2 ≤ seg.length)
    (hzero : (words seg)[k]? = some 0) (hne : c + (words seg).sum ≠ 0)
    (hv : v.toNat % 65535 = (65535 - fold (c + (words seg).sum)) % 65535) :
    fold (c + (words (writeU16 seg (2 * k) v)).sum) = 65535 := by
  have hlen : k < (words seg).length := by
    rw [length_words]
    omega
  have hget : (words seg)[k] = 0 := by
    rw [List.getElem?_eq_getElem hlen] at hzero
    exact Option.some.inj hzero
  have hsum : ((words seg).set k v.toNat).sum = (words seg).sum + v.toNat := by
    have hold := List.sum_take_add_sum_drop (words seg) k
    rw [List.drop_eq_getElem_cons hlen, List.sum_cons, hget] at hold
    rw [List.sum_set, if_pos hlen]
    omega
  have hfull := fold_add_complement hne
  rw [fold_eq_max_iff] at hfull
  rw [words_writeU16 hk, hsum, fold_eq_max_iff]
  omega

end Smoltcp.Checksum
