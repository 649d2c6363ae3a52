import Smoltcp.Lib.LinearMap

/-!
# Walks over a list that changes

A walk visits the items of a list one by one, and only remembers how many it has visited. Items are
what `f` finds in the entries. In between, entries are appended to the list, and removed by moving
the last one to their place. An item that stays is visited exactly once if no entry is moved over
the place where the walk stands.
-/

namespace Walk

variable {α β : Type*} (f : α → Option β)

/-- The items that a walk has visited after `n` steps. -/
def visited (l : List α) (n : ℕ) : List β := (l.filterMap f).take n

section Visited

variable {f} {l : List α} {n : ℕ} {b : α} {x y : β}

/-- What was visited stays so when an entry is appended. -/
lemma mem_visited_concat (hne : f b ≠ some x) : x ∈ visited f (l ++ [b]) n ↔ x ∈ visited f l n := by
  rw [visited, visited, List.filterMap_append, List.take_append, List.mem_append]
  refine or_iff_left fun hmem => ?_
  obtain ⟨c, hc, hfc⟩ := List.mem_filterMap.mp (List.mem_of_mem_take hmem)
  rw [List.mem_singleton.mp hc] at hfc
  exact hne hfc

/-- The next item is visited. -/
lemma mem_visited_succ (h : (l.filterMap f)[n]? = some y) :
    x ∈ visited f l (n + 1) ↔ x ∈ visited f l n ∨ x = y := by
  rw [visited, visited, List.take_add_one, h, List.mem_append, Option.toList_some,
    List.mem_singleton]

/-- The next item was not visited before. -/
lemma not_mem_visited (hnodup : (l.filterMap f).Nodup) (h : (l.filterMap f)[n]? = some y) :
    y ∉ visited f l n := by
  have hsucc : (visited f l (n + 1)).Nodup := hnodup.sublist (List.take_sublist _ _)
  rw [visited, List.take_add_one, h] at hsucc
  exact fun hmem => (List.nodup_append.mp hsucc).2.2 y hmem y (by simp) rfl

/-- At the end everything was visited. -/
lemma visited_of_none (h : (l.filterMap f)[n]? = none) : visited f l n = l.filterMap f :=
  List.take_of_length_le (List.getElem?_eq_none_iff.mp h)

end Visited

/-! ### Removal -/

section Swap

variable {l : List α} {a b : α}

lemma swapRemove_append_singleton : (l ++ [a]).swapRemove l.length = l := by
  simp [List.swapRemove]

lemma swapRemove_append_cons {m : List α} :
    (l ++ a :: (m ++ [b])).swapRemove l.length = l ++ b :: m := by
  have hsplit : l ++ a :: (m ++ [b]) = (l ++ a :: m) ++ [b] := by simp
  have hset : ((l ++ a :: m) ++ [b]).set l.length b = (l ++ b :: m) ++ [b] := by simp
  rw [hsplit, List.swapRemove, List.getLast?_concat]
  dsimp only
  rw [hset, List.dropLast_concat]

end Swap

variable [DecidableEq α]

/-- The number of items before an entry. -/
def rank (l : List α) (a : α) : ℕ := ((l.take (l.idxOf a)).filterMap f).length

/-- The entry stands behind the items that were visited, or all items were visited, or it is no item
and no item takes its place. -/
def Spares (l : List α) (n : ℕ) (a : α) : Prop :=
  n ≤ rank f l a ∨ (l.filterMap f).length ≤ n ∨ f a = none ∧ ∀ b ∈ l.getLast?, f b = none

instance [DecidableEq β] (l : List α) (n : ℕ) (a : α) : Decidable (Spares f l n a) :=
  inferInstanceAs (Decidable (_ ∨ _ ∨ _))

/-- The entries that are chosen can be removed, always the first one next. At most `k` of them are
considered. -/
def SparesAll (n : ℕ) (chosen : α → Bool) : ℕ → List α → Prop
  | 0, _ => True
  | k + 1, l => ∀ a ∈ l.find? chosen,
    Spares f l n a ∧ SparesAll n chosen k (l.swapRemove (l.idxOf a))

instance SparesAll.decidable [DecidableEq β] (n : ℕ) (chosen : α → Bool) :
    (k : ℕ) → (l : List α) → Decidable (SparesAll f n chosen k l)
  | 0, _ => instDecidableTrue
  | k + 1, l =>
    have := SparesAll.decidable n chosen k
    inferInstanceAs (Decidable (∀ a ∈ l.find? chosen, _ ∧ _))

variable {f} {l : List α} {n : ℕ} {a : α} {x : β}

lemma rank_append {r : List α} (h : a ∉ l) : rank f (l ++ a :: r) a = (l.filterMap f).length := by
  have hidx : (l ++ a :: r).idxOf a = l.length := by
    rw [List.idxOf_append_of_notMem h, List.idxOf_cons_self, add_zero]
  rw [rank, hidx, List.take_left]

/-- What was visited stays so when an entry is removed that can be removed. -/
lemma mem_visited_swapRemove (hnodup : l.Nodup) (ha : a ∈ l) (hspares : Spares f l n a)
    (hx : x ∈ l.filterMap f) (hne : f a ≠ some x) :
    x ∈ visited f (l.swapRemove (l.idxOf a)) n ↔ x ∈ visited f l n := by
  obtain ⟨s, t, hs, rfl⟩ := List.append_of_mem ha |>.imp fun s h => h.imp fun t h =>
    (⟨fun hmem => (List.nodup_append.mp (h ▸ hnodup)).2.2 a hmem a List.mem_cons_self rfl, h⟩ :
      a ∉ s ∧ l = s ++ a :: t)
  have hidx : (s ++ a :: t).idxOf a = s.length := by
    rw [List.idxOf_append_of_notMem hs, List.idxOf_cons_self, add_zero]
  rw [Spares, rank_append hs] at hspares
  rw [hidx]
  have hperm : x ∈ ((s ++ a :: t).swapRemove s.length).filterMap f := by
    obtain ⟨c, hc, hfc⟩ := List.mem_filterMap.mp hx
    have hca : c ≠ a := by
      rintro rfl
      exact hne hfc
    have hc' : c ∈ s ++ t := by
      rcases List.mem_append.mp hc with hc | hc
      · exact List.mem_append_left _ hc
      · exact List.mem_append_right _ ((List.mem_cons.mp hc).resolve_left hca)
    refine List.mem_filterMap.mpr ⟨c, ?_, hfc⟩
    rw [(List.swapRemove_perm (by simp)).mem_iff, List.eraseIdx_append_of_length_le le_rfl]
    simpa using hc'
  rcases hspares with hrank | hall | ⟨hnone, hlast⟩
  · -- the walk stands before the entry
    have hnew : visited f ((s ++ a :: t).swapRemove s.length) n = (s.filterMap f).take n := by
      rcases t.eq_nil_or_concat' with rfl | ⟨m, b, rfl⟩
      · rw [swapRemove_append_singleton, visited]
      · rw [swapRemove_append_cons, visited, List.filterMap_append,
          List.take_append_of_le_length hrank]
    rw [hnew, visited, List.filterMap_append, List.take_append_of_le_length hrank]
  · -- the walk is over
    have hlen : (((s ++ a :: t).swapRemove s.length).filterMap f).length ≤ n := by
      refine le_trans ?_ hall
      have hsub := (List.swapRemove_perm (l := s ++ a :: t) (i := s.length) (by simp)).filterMap f
      rw [hsub.length_eq]
      exact ((List.eraseIdx_sublist _ _).filterMap f).length_le
    rw [visited, visited, List.take_of_length_le hlen, List.take_of_length_le hall]
    exact iff_of_true hperm hx
  · -- the list of items stays
    have hsame : ((s ++ a :: t).swapRemove s.length).filterMap f = (s ++ a :: t).filterMap f := by
      rcases t.eq_nil_or_concat' with rfl | ⟨m, b, rfl⟩
      · rw [swapRemove_append_singleton, List.filterMap_append, List.filterMap_cons_none hnone,
          List.filterMap_nil, List.append_nil]
      · have hb : f b = none := hlast b (by simp [List.getLast?_append, List.getLast?_cons])
        rw [swapRemove_append_cons, List.filterMap_append, List.filterMap_append,
          List.filterMap_cons_none hb, List.filterMap_cons_none hnone, List.filterMap_append,
          List.filterMap_cons_none hb, List.filterMap_nil, List.append_nil]
    rw [visited, visited, hsame]

end Walk
