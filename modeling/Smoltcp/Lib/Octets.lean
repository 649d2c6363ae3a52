import Mathlib
import Smoltcp.Lib.Overwrite

/-!
# Numbers in network byte order

Octets of a buffer are read and written as numbers of 16 and 32 bits, the most significant octet
first.
-/

namespace Octets

/-- The two octets of a 16-bit number. -/
def ofU16 (v : UInt16) : List UInt8 := [.ofNat (v.toNat / 256), .ofNat v.toNat]

/-- The four octets of a 32-bit number. -/
def ofU32 (v : BitVec 32) : List UInt8 :=
  [.ofNat (v.toNat / 2 ^ 24), .ofNat (v.toNat / 2 ^ 16), .ofNat (v.toNat / 2 ^ 8), .ofNat v.toNat]

def toU16 (hi lo : UInt8) : UInt16 := .ofNat (hi.toNat * 256 + lo.toNat)

@[simp] lemma length_ofU16 (v : UInt16) : (ofU16 v).length = 2 := rfl

@[simp] lemma length_ofU32 (v : BitVec 32) : (ofU32 v).length = 4 := rfl

@[simp] lemma toU16_ofNat (v : UInt16) : toU16 (.ofNat (v.toNat / 256)) (.ofNat v.toNat) = v := by
  have hlt := v.toNat_lt
  apply UInt16.toNat.inj
  simp only [toU16, UInt16.toNat_ofNat', UInt8.toNat_ofNat']
  omega

/-- The octet at a position, 0 behind the end. -/
def get (l : List UInt8) (i : ℕ) : UInt8 := l[i]?.getD 0

def readU16 (l : List UInt8) (i : ℕ) : UInt16 := toU16 (get l i) (get l (i + 1))

def writeU16 (l : List UInt8) (i : ℕ) (v : UInt16) : List UInt8 := l.overwrite i (ofU16 v)

def writeU32 (l : List UInt8) (i : ℕ) (v : BitVec 32) : List UInt8 := l.overwrite i (ofU32 v)

lemma ofU16_toU16 (hi lo : UInt8) : ofU16 (toU16 hi lo) = [hi, lo] := by
  have hhi := hi.toNat_lt
  have hlo := lo.toNat_lt
  have hval : (toU16 hi lo).toNat = hi.toNat * 256 + lo.toNat := by
    simp only [toU16, UInt16.toNat_ofNat']
    omega
  rw [ofU16, hval, show (hi.toNat * 256 + lo.toNat) / 256 = hi.toNat by omega, UInt8.ofNat_toNat]
  congr 2
  apply UInt8.toNat.inj
  rw [UInt8.toNat_ofNat']
  omega

/-- The 32-bit number of four octets. -/
def toU32 (a b c d : UInt8) : BitVec 32 :=
  .ofNat 32 (a.toNat * 2 ^ 24 + b.toNat * 2 ^ 16 + c.toNat * 2 ^ 8 + d.toNat)

lemma ofU32_toU32 (a b c d : UInt8) : ofU32 (toU32 a b c d) = [a, b, c, d] := by
  have ha := a.toNat_lt
  have hb := b.toNat_lt
  have hc := c.toNat_lt
  have hd := d.toNat_lt
  have hval : (toU32 a b c d).toNat =
      a.toNat * 2 ^ 24 + b.toNat * 2 ^ 16 + c.toNat * 2 ^ 8 + d.toNat := by
    simp only [toU32, BitVec.toNat_ofNat]
    omega
  have hoctet : ∀ (x : UInt8) (n : ℕ), n % 2 ^ 8 = x.toNat → UInt8.ofNat n = x := by
    intro x n hn
    apply UInt8.toNat.inj
    rw [UInt8.toNat_ofNat', hn]
  rw [ofU32, hval, hoctet a _ (by omega), hoctet b _ (by omega), hoctet c _ (by omega),
    hoctet d _ (by omega)]

@[simp] lemma toU32_ofNat (v : BitVec 32) :
    toU32 (.ofNat (v.toNat / 2 ^ 24)) (.ofNat (v.toNat / 2 ^ 16)) (.ofNat (v.toNat / 2 ^ 8))
      (.ofNat v.toNat) = v := by
  have hlt := v.isLt
  apply BitVec.eq_of_toNat_eq
  simp only [toU32, BitVec.toNat_ofNat, UInt8.toNat_ofNat']
  omega

def readU32 (l : List UInt8) (i : ℕ) : BitVec 32 :=
  toU32 (get l i) (get l (i + 1)) (get l (i + 2)) (get l (i + 3))

/-! ### Words -/

/-- The octets as big-endian words of 16 bits, filled up with a zero if there is an odd one. -/
def words : List UInt8 → List ℕ
  | [] => []
  | [value] => [value.toNat * 256]
  | hi :: lo :: rest => (hi.toNat * 256 + lo.toNat) :: words rest

lemma length_words (l : List UInt8) : (words l).length = (l.length + 1) / 2 := by
  induction l using words.induct with
  | case1 => rfl
  | case2 value => simp [words]
  | case3 hi lo rest ih =>
    simp only [words, List.length_cons, ih]
    omega

lemma words_lt (l : List UInt8) : ∀ w ∈ words l, w < 2 ^ 16 := by
  induction l using words.induct with
  | case1 => simp [words]
  | case2 value =>
    have := value.toNat_lt
    simp only [words, List.mem_singleton]
    omega
  | case3 hi lo rest ih =>
    have := hi.toNat_lt
    have := lo.toNat_lt
    simp only [words, List.mem_cons]
    rintro w (rfl | hw)
    · omega
    · exact ih w hw

lemma words_append {l : List UInt8} (h : l.length % 2 = 0) (m : List UInt8) :
    words (l ++ m) = words l ++ words m := by
  induction l using words.induct with
  | case1 => rfl
  | case2 value => simp at h
  | case3 hi lo rest ih =>
    simp only [List.length_cons] at h
    simp only [List.cons_append, words, ih (by omega)]

lemma words_ofU16 (v : UInt16) : words (ofU16 v) = [v.toNat] := by
  have hlt := v.toNat_lt
  simp only [ofU16, words, UInt8.toNat_ofNat', List.cons.injEq, and_true]
  omega

/-- Writing a word sets it. -/
lemma words_writeU16 {l : List UInt8} {k : ℕ} (h : 2 * k + 2 ≤ l.length) (v : UInt16) :
    words (writeU16 l (2 * k) v) = (words l).set k v.toNat := by
  have hlen : (l.take (2 * k)).length = 2 * k := List.length_take_of_le (by omega)
  obtain ⟨hi, lo, rest, hdrop⟩ : ∃ hi lo rest, l.drop (2 * k) = hi :: lo :: rest := by
    match hl : l.drop (2 * k) with
    | hi :: lo :: rest => exact ⟨hi, lo, rest, rfl⟩
    | [_] =>
      have := congrArg List.length hl
      simp at this
      omega
    | [] =>
      have := congrArg List.length hl
      simp at this
      omega
  have hsplit : l = l.take (2 * k) ++ (hi :: lo :: rest) := by
    rw [← hdrop, List.take_append_drop]
  have hrest : l.drop (2 * k + 2) = rest := by
    rw [← List.drop_drop, hdrop]
    rfl
  have hwords : (words (l.take (2 * k))).length = k := by
    rw [length_words, hlen]
    omega
  rw [writeU16, List.overwrite, length_ofU16, hrest, List.append_assoc,
    words_append (by rw [hlen]; omega), words_append (by simp), words_ofU16]
  conv_rhs => rw [hsplit, words_append (by rw [hlen]; omega), words,
    List.set_append_right _ _ (by omega), hwords, Nat.sub_self, List.set_cons_zero]
  rfl

/-! ### Writes and parts of a buffer -/

lemma length_writeU16 {l : List UInt8} {i : ℕ} (h : i + 2 ≤ l.length) (v : UInt16) :
    (writeU16 l i v).length = l.length :=
  List.length_overwrite (by simpa using h)

lemma get_writeU16 {l : List UInt8} {i : ℕ} (h : i + 2 ≤ l.length) (v : UInt16) {j : ℕ}
    (hj : j < i ∨ i + 2 ≤ j) : get (writeU16 l i v) j = get l j := by
  rw [get, get, writeU16, List.getElem?_overwrite (by simpa using h), if_neg]
  rw [length_ofU16]
  omega

lemma take_writeU16 {l : List UInt8} {i n : ℕ} (h : i + 2 ≤ n) (hn : n ≤ l.length) (v : UInt16) :
    (writeU16 l i v).take n = writeU16 (l.take n) i v := by
  have hlen : (l.take n).length = n := List.length_take_of_le hn
  apply List.ext_getElem?
  intro j
  rw [writeU16, writeU16, List.getElem?_overwrite (by rw [hlen, length_ofU16]; omega)]
  by_cases hj : j < n
  · rw [List.getElem?_take_of_lt hj, List.getElem?_take_of_lt hj,
      List.getElem?_overwrite (by rw [length_ofU16]; omega)]
  · rw [List.getElem?_eq_none (by rw [List.length_take]; omega),
      if_neg (by rw [length_ofU16]; omega),
      List.getElem?_eq_none (by omega)]

lemma readU16_writeU16 {l : List UInt8} {i : ℕ} (h : i + 2 ≤ l.length) (v : UInt16) :
    readU16 (writeU16 l i v) i = v := by
  have hget : ∀ j < 2, get (writeU16 l i v) (i + j) = get (ofU16 v) j := by
    intro j hj
    rw [get, get, writeU16, List.getElem?_overwrite (by simpa using h),
      if_pos (by rw [length_ofU16]; omega), Nat.add_sub_cancel_left]
  have h0 := hget 0 (by omega)
  have h1 := hget 1 (by omega)
  rw [Nat.add_zero] at h0
  rw [readU16, h0, h1]
  exact toU16_ofNat v

/-! ### Numbers of any length -/

/-- The lowest `n` octets of a number. -/
def ofNatBE : ℕ → ℕ → List UInt8
  | 0, _ => []
  | n + 1, v => ofNatBE n (v / 256) ++ [.ofNat v]

/-- The number that octets make. -/
def toNatBE (l : List UInt8) : ℕ := l.foldl (fun v octet => v * 256 + octet.toNat) 0

@[simp] lemma length_ofNatBE (n v : ℕ) : (ofNatBE n v).length = n := by
  induction n generalizing v with
  | zero => rfl
  | succ n ih => simp [ofNatBE, ih]

lemma toNatBE_append (l : List UInt8) (octet : UInt8) :
    toNatBE (l ++ [octet]) = toNatBE l * 256 + octet.toNat := by
  simp [toNatBE]

lemma toNatBE_lt (l : List UInt8) : toNatBE l < 256 ^ l.length := by
  induction l using List.reverseRecOn with
  | nil => decide
  | append_singleton l octet ih =>
    have := octet.toNat_lt
    rw [toNatBE_append, List.length_append, List.length_singleton, pow_succ]
    omega

lemma toNatBE_ofNatBE (n v : ℕ) : toNatBE (ofNatBE n v) = v % 256 ^ n := by
  induction n generalizing v with
  | zero => simp [ofNatBE, toNatBE, Nat.mod_one]
  | succ n ih =>
    have hpow : (256 : ℕ) ^ (n + 1) = 256 * 256 ^ n := by rw [pow_succ, Nat.mul_comm]
    rw [ofNatBE, toNatBE_append, ih, UInt8.toNat_ofNat', hpow, Nat.mod_mul]
    omega

lemma ofNatBE_toNatBE (l : List UInt8) : ofNatBE l.length (toNatBE l) = l := by
  induction l using List.reverseRecOn with
  | nil => rfl
  | append_singleton l octet ih =>
    have hlt := octet.toNat_lt
    rw [List.length_append, List.length_singleton, ofNatBE, toNatBE_append,
      show (toNatBE l * 256 + octet.toNat) / 256 = toNatBE l by omega, ih]
    congr 2
    apply UInt8.toNat.inj
    rw [UInt8.toNat_ofNat']
    omega

/-- The sixteen octets of a 128-bit number. -/
def ofU128 (v : BitVec 128) : List UInt8 := ofNatBE 16 v.toNat

/-- The 128-bit number of sixteen octets. -/
def toU128 (l : List UInt8) : BitVec 128 := .ofNat 128 (toNatBE l)

@[simp] lemma length_ofU128 (v : BitVec 128) : (ofU128 v).length = 16 := length_ofNatBE _ _

@[simp] lemma toU128_ofU128 (v : BitVec 128) : toU128 (ofU128 v) = v := by
  have hlt := v.isLt
  apply BitVec.eq_of_toNat_eq
  rw [toU128, ofU128, toNatBE_ofNatBE, BitVec.toNat_ofNat]
  omega

lemma ofU128_toU128 {l : List UInt8} (h : l.length = 16) : ofU128 (toU128 l) = l := by
  have hlt := toNatBE_lt l
  rw [h] at hlt
  rw [ofU128, toU128, BitVec.toNat_ofNat, Nat.mod_eq_of_lt (by omega), ← h, ofNatBE_toNatBE]

end Octets
