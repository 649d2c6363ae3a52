import Smoltcp.Lib.Overwrite

/-!
# Parts of a list

A list that begins with parts of known sizes: a part is overwritten without touching the others, and
found at the sum of the sizes in front of it.
-/

namespace List

variable {α : Type*} {parts : List (List α)} {rest d p : List α} {k n : ℕ}

/-- A list that is long enough begins with parts of these sizes. -/
lemma exists_parts (sizes : List ℕ) {l : List α} (h : sizes.sum ≤ l.length) :
    ∃ (parts : List (List α)) (rest : List α),
      parts.map length = sizes ∧ l = parts.flatten ++ rest := by
  induction sizes generalizing l with
  | nil => exact ⟨[], l, rfl, rfl⟩
  | cons size sizes ih =>
    rw [sum_cons] at h
    obtain ⟨parts, rest, hsizes, hl⟩ := ih (l := l.drop size) (by rw [length_drop]; omega)
    refine ⟨l.take size :: parts, rest, ?_, ?_⟩
    · rw [map_cons, hsizes, length_take_of_le (by omega)]
    · rw [flatten_cons, append_assoc, ← hl, take_append_drop]

lemma map_length_set (hd : (parts.map length)[k]? = some d.length) :
    (parts.set k d).map length = parts.map length := by
  obtain ⟨hk, hd⟩ := getElem?_eq_some_iff.mp hd
  rw [map_set, ← hd, set_getElem_self]

/-- A part and where it is. -/
lemma flatten_of_getElem? (hk : parts[k]? = some p) (hn : ((parts.map length).take k).sum = n) :
    ∃ before after, parts.flatten = before ++ p ++ after ∧ before.length = n ∧
      ∀ d, (parts.set k d).flatten = before ++ d ++ after := by
  induction parts generalizing k n with
  | nil => cases hk
  | cons q parts ih =>
    cases k with
    | zero =>
      cases hk
      cases hn
      exact ⟨[], parts.flatten, rfl, rfl, fun d => rfl⟩
    | succ k =>
      rw [map_cons, take_succ_cons, sum_cons] at hn
      obtain ⟨before, after, hflatten, hlen, hset⟩ := ih hk rfl
      refine ⟨q ++ before, after, ?_, ?_, fun d => ?_⟩
      · rw [flatten_cons, hflatten, append_assoc, append_assoc, append_assoc]
      · rw [length_append, hlen, hn]
      · rw [set_cons_succ, flatten_cons, hset, append_assoc, append_assoc, append_assoc]

end List
