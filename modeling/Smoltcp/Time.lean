import Mathlib

/-!
# Time

Instants are signed and durations unsigned 64-bit numbers of microseconds. Both wrap around, and
a duration beyond `i64::MAX` turns negative when it is added to an instant.
-/

namespace Smoltcp

abbrev Instant := Int64

abbrev Duration := UInt64

namespace Duration

def fromMillis (millis : UInt64) : Duration := millis * 1000

def fromSecs (secs : UInt64) : Duration := secs * 1000000

def totalMillis (d : Duration) : UInt64 := d / 1000

lemma toNat_min (d e : Duration) : (min d e).toNat = min d.toNat e.toNat := by
  change (if d ≤ e then d else e).toNat = _
  split_ifs with h
  · exact (min_eq_left (UInt64.le_iff_toNat_le.mp h)).symm
  · exact (min_eq_right (UInt64.le_iff_toNat_le.mp (UInt64.le_of_lt (UInt64.not_le.mp h)))).symm

lemma toNat_max (d e : Duration) : (max d e).toNat = max d.toNat e.toNat := by
  change (if d ≤ e then e else d).toNat = _
  split_ifs with h
  · exact (max_eq_right (UInt64.le_iff_toNat_le.mp h)).symm
  · exact (max_eq_left (UInt64.le_iff_toNat_le.mp (UInt64.le_of_lt (UInt64.not_le.mp h)))).symm

end Duration

namespace Instant

def fromMillis (millis : Int64) : Instant := millis * 1000

def totalMillis (t : Instant) : Int64 := t / 1000

/-- `impl Add<Duration> for Instant`. -/
def add (t : Instant) (d : Duration) : Instant := t + d.toInt64

/-- `impl Sub<Instant> for Instant`: the distance of two instants. -/
def since (t u : Instant) : Duration := .ofNat (t - u).toInt.natAbs

lemma toInt_min (t u : Instant) : (min t u).toInt = min t.toInt u.toInt := by
  change (if t ≤ u then t else u).toInt = _
  split_ifs with h
  · exact (min_eq_left (Int64.le_iff_toInt_le.mp h)).symm
  · exact (min_eq_right (Int64.le_iff_toInt_le.mp (Int64.le_of_lt (Int64.not_le.mp h)))).symm

/-- A sum that can be represented, of an instant with a duration of any length. -/
lemma toInt_add {t : Instant} {d : Duration} (h : t.toInt + d.toNat < 2 ^ 63) :
    (t.add d).toInt = t.toInt + d.toNat := by
  have ht := t.le_toInt
  have hcast : d.toInt64.toInt = (d.toNat : ℤ).bmod (2 ^ 64) := by
    change d.toBitVec.toInt = _
    exact BitVec.toInt_eq_toNat_bmod _
  rw [add, Int64.toInt_add, hcast, Int.add_bmod_bmod, Int.bmod_eq_of_le_mul_two]
  · push_cast; omega
  · push_cast; omega

end Instant

end Smoltcp
