import Mathlib

/-!
# Overwriting a segment of a list

`overwrite l i d` replaces the elements of `l` from position `i` on by those of `d`, as copying a
slice into an array does. It is meant for `i + d.length ≤ l.length`, where it keeps the length and
`getElem?_overwrite` describes every position.
-/

namespace List

variable {α : Type*}

/-- Copy `d` over `l`, starting at position `i`. -/
def overwrite (l : List α) (i : ℕ) (d : List α) : List α :=
  l.take i ++ d ++ l.drop (i + d.length)

variable {l d : List α} {i : ℕ}

@[simp] lemma overwrite_nil (l : List α) (i : ℕ) : l.overwrite i [] = l := by
  simp [overwrite]

lemma length_overwrite (h : i + d.length ≤ l.length) :
    (l.overwrite i d).length = l.length := by
  simp only [overwrite, length_append, length_take, length_drop]
  omega

lemma getElem?_overwrite (h : i + d.length ≤ l.length) (j : ℕ) :
    (l.overwrite i d)[j]? = if i ≤ j ∧ j < i + d.length then d[j - i]? else l[j]? := by
  have hi : i ≤ l.length := by omega
  rw [overwrite]
  by_cases hj : j < i
  · rw [if_neg (by omega), getElem?_append_left (by simp; omega),
      getElem?_append_left (by simp; omega), getElem?_take_of_lt hj]
  · by_cases hj' : j < i + d.length
    · rw [if_pos ⟨by omega, hj'⟩, getElem?_append_left (by simp; omega),
        getElem?_append_right (by simp; omega)]
      simp [Nat.min_eq_left hi]
    · rw [if_neg (by omega), getElem?_append_right (by simp; omega), getElem?_drop]
      congr 1
      simp
      omega

/-- Copying `d` and then `e` right behind it is copying `d ++ e`. -/
lemma overwrite_overwrite {e : List α} (h : i + d.length + e.length ≤ l.length) :
    (l.overwrite i d).overwrite (i + d.length) e = l.overwrite i (d ++ e) := by
  have hlen : (l.overwrite i d).length = l.length := length_overwrite (by omega)
  apply ext_getElem?
  intro j
  rw [getElem?_overwrite (by omega), getElem?_overwrite (by omega),
    getElem?_overwrite (by simp; omega)]
  by_cases h1 : i + d.length ≤ j ∧ j < i + d.length + e.length
  · rw [if_pos h1, if_pos (by simp; omega), getElem?_append_right (by omega)]
    congr 1
    omega
  · rw [if_neg h1]
    by_cases h2 : i ≤ j ∧ j < i + d.length
    · rw [if_pos h2, if_pos (by simp; omega), getElem?_append_left (by omega)]
    · rw [if_neg h2, if_neg (by simp; omega)]

lemma take_overwrite {n : ℕ} (hi : i ≤ l.length) (hn : n ≤ d.length) :
    (l.overwrite i d).take (i + n) = l.take i ++ d.take n := by
  have hlen : (l.take i).length = i := by simpa using hi
  rw [overwrite, append_assoc, take_append, hlen, take_of_length_le (by omega),
    Nat.add_sub_cancel_left, take_append_of_le_length hn]

lemma overwrite_zero : l.overwrite 0 d = d ++ l.drop d.length := by
  simp [overwrite]

lemma overwrite_append_left {m : List α} (h : i + d.length ≤ l.length) :
    (l ++ m).overwrite i d = l.overwrite i d ++ m := by
  rw [overwrite, overwrite, take_append_of_le_length (by omega), drop_append_of_le_length h]
  simp

lemma overwrite_append_right {m : List α} (i : ℕ) :
    (l ++ m).overwrite (l.length + i) d = l ++ m.overwrite i d := by
  rw [overwrite, overwrite, take_length_add_append, Nat.add_assoc, drop_length_add_append]
  simp

lemma set_eq_overwrite {x : α} (h : i < l.length) : l.set i x = l.overwrite i [x] := by
  rw [set_eq_take_append_cons_drop, if_pos h]
  simp [overwrite]

end List
