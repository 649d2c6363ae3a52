import Mathlib

/-!
# Maps of bounded size

A map that keeps its entries in an array of fixed capacity, in no particular order. Keys are
distinct. Removal fills the gap with the last entry. What the operations do is stated by what is
found afterwards (`get_insert`, `get_remove`); the order of the entries is left to the definitions.
-/

structure Heapless.LinearMap (κ ν : Type*) (capacity : ℕ) where
  entries : List (κ × ν)
  nodup_keys : (entries.map Prod.fst).Nodup
  length_le : entries.length ≤ capacity

namespace List

variable {α : Type*}

/-- Remove the entry at `i`, and move the last entry to its place. -/
def swapRemove (l : List α) (i : ℕ) : List α :=
  match l.getLast? with
  | none => l
  | some last => (l.set i last).dropLast

lemma swapRemove_perm {l : List α} {i : ℕ} (h : i < l.length) : l.swapRemove i ~ l.eraseIdx i := by
  obtain ⟨a, x, b, rfl, rfl⟩ : ∃ a x b, l = a ++ x :: b ∧ i = a.length :=
    ⟨l.take i, l[i], l.drop (i + 1), by simp, by simp [h.le]⟩
  rcases b.eq_nil_or_concat' with rfl | ⟨b, y, rfl⟩
  · simp [swapRemove, eraseIdx_append_of_length_le]
  · have hlast : (a ++ x :: (b ++ [y])).getLast? = some y := by
      simp [getLast?_append, getLast?_cons]
    rw [swapRemove, hlast]
    have hset : ((a ++ x :: (b ++ [y])).set a.length y).dropLast = a ++ y :: b := by
      have hsplit : (a ++ x :: (b ++ [y])).set a.length y = (a ++ y :: b) ++ [y] := by simp
      rw [hsplit, dropLast_concat]
    simp only [hset]
    have herase : (a ++ x :: (b ++ [y])).eraseIdx a.length = a ++ (b ++ [y]) := by
      simp [eraseIdx_append_of_length_le]
    rw [herase]
    exact Perm.append_left a (perm_append_singleton y b).symm

lemma map_swapRemove {β : Type*} (f : α → β) (l : List α) (i : ℕ) :
    (l.swapRemove i).map f = (l.map f).swapRemove i := by
  unfold swapRemove
  rw [getLast?_map]
  cases l.getLast? with
  | none => rfl
  | some last => rw [Option.map_some, map_dropLast, map_set]

end List

namespace Heapless.LinearMap

variable {κ ν : Type*} [DecidableEq κ] {capacity : ℕ}

def new (capacity : ℕ) : LinearMap κ ν capacity := ⟨[], List.nodup_nil, Nat.zero_le _⟩

def clear (_ : LinearMap κ ν capacity) : LinearMap κ ν capacity := new capacity

section Operations

variable (m : LinearMap κ ν capacity)

def keys : List κ := m.entries.map Prod.fst

def get (key : κ) : Option ν := (m.entries.find? fun e => e.1 = key).map Prod.snd

/-- Write to the value of a key that is there. -/
def replace (key : κ) (value : ν) : LinearMap κ ν capacity where
  entries := m.entries.map fun e => if e.1 = key then (key, value) else e
  nodup_keys := by
    have hkeys : (m.entries.map fun e => if e.1 = key then (key, value) else e).map Prod.fst =
        m.entries.map Prod.fst := by
      rw [List.map_map]
      refine List.map_congr_left fun e _ => ?_
      simp only [Function.comp_apply]
      split_ifs with h
      · exact h.symm
      · rfl
    rw [hkeys]
    exact m.nodup_keys
  length_le := by simpa using m.length_le

/-- Insert a key that is not there. -/
def push (key : κ) (value : ν) (hkey : key ∉ m.keys) (hlen : m.entries.length < capacity) :
    LinearMap κ ν capacity where
  entries := m.entries ++ [(key, value)]
  nodup_keys := by
    rw [List.map_append]
    refine List.nodup_append.mpr ⟨m.nodup_keys, by simp, fun a ha b hb => ?_⟩
    obtain rfl : b = key := by simpa using hb
    rintro rfl
    exact hkey ha
  length_le := by simpa using hlen

/-- The value that the key had is returned beside the map. `none` means that the map is full. -/
def insert (key : κ) (value : ν) : Option (LinearMap κ ν capacity × Option ν) :=
  if hkey : key ∈ m.keys then some (m.replace key value, m.get key)
  else if hlen : m.entries.length < capacity then some (m.push key value hkey hlen, none)
  else none

/-- Remove the entry at an index. -/
def removeAt (idx : ℕ) (h : idx < m.entries.length) : LinearMap κ ν capacity where
  entries := m.entries.swapRemove idx
  nodup_keys := by
    have hperm := (List.swapRemove_perm h).map Prod.fst
    exact hperm.nodup_iff.mpr (m.nodup_keys.sublist ((List.eraseIdx_sublist _ _).map _))
  length_le := by
    rw [(List.swapRemove_perm h).length_eq]
    exact (List.eraseIdx_sublist _ _).length_le.trans m.length_le

def remove (key : κ) : LinearMap κ ν capacity :=
  if h : m.keys.idxOf key < m.entries.length then m.removeAt (m.keys.idxOf key) h else m

end Operations

variable {m m' : LinearMap κ ν capacity} {key key' : κ} {value value' : ν} {old : Option ν}

/-! ### What is found -/

lemma get_eq_some_iff : m.get key = some value ↔ (key, value) ∈ m.entries := by
  constructor
  · intro h
    obtain ⟨e, he, rfl⟩ := Option.map_eq_some_iff.mp h
    have hkey := List.find?_some he
    simp only [decide_eq_true_eq] at hkey
    rw [← hkey]
    exact List.mem_of_find?_eq_some he
  · intro h
    cases hget : m.entries.find? fun e => decide (e.1 = key) with
    | none =>
      have := List.find?_eq_none.mp hget _ h
      simp at this
    | some e =>
      have hkey : e.1 = key := by simpa using List.find?_some hget
      have he := List.mem_of_find?_eq_some hget
      have heq : e = (key, value) :=
        List.inj_on_of_nodup_map m.nodup_keys he h hkey
      rw [get, hget, heq]
      rfl

lemma get_eq_none_iff : m.get key = none ↔ key ∉ m.keys := by
  rw [get, Option.map_eq_none_iff, List.find?_eq_none, keys, List.mem_map]
  simp only [decide_eq_true_eq, not_exists, not_and]

lemma mem_keys_iff : key ∈ m.keys ↔ ∃ value, m.get key = some value := by
  rw [← Option.ne_none_iff_exists', ne_eq, get_eq_none_iff, not_not]

@[simp] lemma get_new : (new capacity : LinearMap κ ν capacity).get key = none := rfl

@[simp] lemma get_clear : m.clear.get key = none := rfl

/-- Entries of a map whose values are found alike. -/
lemma get_eq_of_mem_iff {m m' : LinearMap κ ν capacity}
    (h : ∀ v, (key, v) ∈ m.entries ↔ (key', v) ∈ m'.entries) : m.get key = m'.get key' :=
  Option.ext fun v => by rw [get_eq_some_iff, get_eq_some_iff, h]

lemma get_replace (h : key ∈ m.keys) :
    (m.replace key value).get key' = if key' = key then some value else m.get key' := by
  split_ifs with heq
  · subst heq
    rw [get_eq_some_iff, replace, List.mem_map]
    obtain ⟨e, he, rfl⟩ := List.mem_map.mp h
    exact ⟨e, he, if_pos rfl⟩
  · refine get_eq_of_mem_iff fun v => ?_
    rw [replace, List.mem_map]
    constructor
    · rintro ⟨e, he, hv⟩
      split_ifs at hv with hk
      · cases hv
        exact absurd rfl heq
      · exact hv ▸ he
    · exact fun hv => ⟨_, hv, if_neg heq⟩

@[simp] lemma keys_replace : (m.replace key value).keys = m.keys := by
  rw [keys, replace, List.map_map, keys]
  refine List.map_congr_left fun e _ => ?_
  simp only [Function.comp_apply]
  split_ifs with h
  · exact h.symm
  · rfl

lemma get_insert (h : m.insert key value = some (m', old)) :
    m'.get key' = if key' = key then some value else m.get key' := by
  unfold insert at h
  split_ifs at h with hkey hlen
  · cases h
    exact get_replace hkey
  · cases h
    split_ifs with heq
    · subst heq
      rw [get_eq_some_iff]
      exact List.mem_append_right _ (List.mem_singleton_self _)
    · refine get_eq_of_mem_iff fun v => ?_
      rw [push, List.mem_append, List.mem_singleton, Prod.mk.injEq]
      exact ⟨fun hv => hv.resolve_right fun hk => heq hk.1, .inl⟩

lemma old_of_insert (h : m.insert key value = some (m', old)) : old = m.get key := by
  unfold insert at h
  split_ifs at h with hkey hlen
  · cases h
    rfl
  · cases h
    exact (get_eq_none_iff.mpr hkey).symm

/-- An insertion fails only if the map is full and the key is not there. -/
lemma insert_eq_none_iff : m.insert key value = none ↔ m.get key = none ∧
    m.entries.length = capacity := by
  have hle := m.length_le
  rw [get_eq_none_iff, insert]
  split_ifs with hkey hlen
  · simp [hkey]
  · simp [hkey, hlen.ne]
  · simp [hkey]
    omega

lemma insert_of_mem (h : key ∈ m.keys) :
    m.insert key value = some (m.replace key value, m.get key) := dif_pos h

lemma idxOf_lt_iff : m.keys.idxOf key < m.entries.length ↔ key ∈ m.keys := by
  rw [← List.idxOf_lt_length_iff, keys, List.length_map]

lemma length_remove (h : key ∈ m.keys) :
    (m.remove key).entries.length + 1 = m.entries.length := by
  have hlt := idxOf_lt_iff.mpr h
  rw [remove, dif_pos hlt]
  change (m.entries.swapRemove _).length + 1 = _
  rw [(List.swapRemove_perm hlt).length_eq, List.length_eraseIdx_of_lt hlt]
  omega

lemma keys_remove (h : key ∈ m.keys) :
    (m.remove key).keys = m.keys.swapRemove (m.keys.idxOf key) := by
  rw [remove, dif_pos (idxOf_lt_iff.mpr h)]
  exact List.map_swapRemove _ _ _

/-- The entry of a key and those that stay when it is removed. -/
lemma entries_perm_remove (h : (key, value) ∈ m.entries) :
    m.entries.Perm ((key, value) :: (m.remove key).entries) := by
  have hkey : key ∈ m.keys := List.mem_map_of_mem h
  have hlt := idxOf_lt_iff.mpr hkey
  have hentry : m.entries[m.keys.idxOf key] = (key, value) := by
    refine List.inj_on_of_nodup_map m.nodup_keys (List.getElem_mem _) h ?_
    have hidx := List.idxOf_lt_length_iff.mpr hkey
    have hget : m.keys[m.keys.idxOf key] = key := List.getElem_idxOf hidx
    exact (List.getElem_map Prod.fst).symm.trans hget
  rw [remove, dif_pos hlt]
  have hperm := List.getElem_cons_eraseIdx_perm hlt
  rw [hentry] at hperm
  exact hperm.symm.trans ((List.swapRemove_perm hlt).symm.cons _)

lemma get_remove : (m.remove key).get key' = if key' = key then none else m.get key' := by
  unfold remove
  split_ifs with h heq heq
  · -- the key of the entry that is removed does not occur a second time
    subst heq
    rw [get_eq_none_iff]
    have hperm := (List.swapRemove_perm h).map Prod.fst
    rw [← List.eraseIdx_map] at hperm
    have herase : (m.entries.map Prod.fst).eraseIdx (m.keys.idxOf key') = m.keys.erase key' :=
      (List.erase_eq_eraseIdx_of_idxOf rfl).symm
    rw [herase] at hperm
    exact fun hmem => m.nodup_keys.not_mem_erase (hperm.mem_iff.mp hmem)
  · refine get_eq_of_mem_iff fun v => ?_
    change _ ∈ m.entries.swapRemove _ ↔ _
    rw [(List.swapRemove_perm h).mem_iff]
    refine ⟨fun hv => List.mem_of_mem_eraseIdx hv, fun hv => ?_⟩
    rw [List.mem_eraseIdx_iff_getElem]
    obtain ⟨j, hj, hget⟩ := List.getElem_of_mem hv
    refine ⟨j, hj, fun hji => heq ?_, hget⟩
    have hj' : j < m.keys.length := by simpa [keys] using hj
    have hkey : m.keys[j] = key' := by simp [keys, hget]
    subst hji
    exact hkey.symm.trans (List.getElem_idxOf hj')
  · subst heq
    exact get_eq_none_iff.mpr (idxOf_lt_iff.not.mp h)
  · rfl

end Heapless.LinearMap
