import Smoltcp.Iface.Rpl.Rank
import Smoltcp.Lib.LinearMap
import Smoltcp.Lib.Smallest

/-!
# The parent set of an RPL node

The set has room for a fixed number of parents. When it is full, a new parent takes the place of the
one with the greatest `dag_rank` if its own is smaller. Whatever was added in whatever order, the
set then holds the parents of smallest `dag_rank` (`keeps_smallest`), and the preferred parent is
one of the best there ever was.
-/

namespace Smoltcp.Rpl

open Heapless Smallest

structure Parent where
  rank : Rank
  preference : UInt8
  versionNumber : UInt8
  dodagId : BitVec 128

/-- `Iterator::max_by_key`: of several greatest elements the last one. -/
def maxByKey {α κ : Type} [LT κ] [DecidableLT κ] (f : α → κ) : List α → Option α
  | [] => none
  | a :: l => some (l.foldl (fun x y => if f y < f x then x else y) a)

abbrev ParentSet (capacity : ℕ) := LinearMap (BitVec 128) Parent capacity

namespace ParentSet

variable {capacity : ℕ} (set : ParentSet capacity)

/-- Find the worst parent that is currently in the parent set. -/
def worstParent : Option (BitVec 128 × Parent) :=
  maxByKey (fun e => e.2.rank.dagRank) set.entries

/-- Add a new parent to the parent set. -/
def add (address : BitVec 128) (parent : Parent) : Checked (ParentSet capacity) :=
  if (set.get address).isSome then .ok (set.replace address parent)
  else match set.insert address parent with
    | some (set', _) => .ok set'
    | none => match set.worstParent with
      | none => .error .unreachable
      | some (worstAddress, worst) =>
        if parent.rank.dagRank < worst.rank.dagRank then do
          let _ ← Checked.unwrap (set.get worstAddress)
          let (set', _) ← Checked.unwrap ((set.remove worstAddress).insert address parent)
          return set'
        else .ok set

/-- Find a parent based on its address. -/
def find (address : BitVec 128) : Option Parent := set.get address

end ParentSet

/-- One turn of the loop in `ObjectiveFunction0::preferred_parent`. -/
def ObjectiveFunction0.prefer (preferred : Option Parent) (parent : Parent) : Option Parent :=
  match preferred with
  | none => some parent
  | some p => if parent.rank < p.rank then some parent else some p

/-- `ObjectiveFunction0::preferred_parent`. -/
def ObjectiveFunction0.preferredParent {capacity : ℕ} (set : ParentSet capacity) : Option Parent :=
  (set.entries.map Prod.snd).foldl ObjectiveFunction0.prefer none

/-! ### The worst and the best parent -/

lemma maxByKey_eq_none {α κ : Type} [LT κ] [DecidableLT κ] {f : α → κ} {l : List α} :
    maxByKey f l = none ↔ l = [] := by
  cases l with
  | nil => simp [maxByKey]
  | cons a l => simp [maxByKey]

lemma maxByKey_spec {α : Type} {f : α → UInt16} {l : List α} {w : α} (h : maxByKey f l = some w) :
    w ∈ l ∧ ∀ x ∈ l, (f x).toNat ≤ (f w).toNat := by
  cases l with
  | nil => cases h
  | cons a l =>
    cases h
    induction l generalizing a with
    | nil => simp
    | cons b l ih =>
      rw [List.foldl_cons]
      obtain ⟨hmem, hmax⟩ := ih (if f b < f a then a else b)
      have hfirst := hmax _ List.mem_cons_self
      have hlt : f b < f a ↔ (f b).toNat < (f a).toNat := UInt16.lt_iff_toNat_lt
      refine ⟨?_, ?_⟩
      · rcases List.mem_cons.mp hmem with heq | hmem
        · rw [heq]
          split_ifs <;> simp
        · exact List.mem_cons_of_mem _ (List.mem_cons_of_mem _ hmem)
      · intro x hx
        rcases List.mem_cons.mp hx with rfl | hx
        · split_ifs at hfirst ⊢ with hba
          · exact hfirst
          · exact (not_lt.mp (hlt.not.mp hba)).trans hfirst
        · rcases List.mem_cons.mp hx with rfl | hx
          · split_ifs at hfirst ⊢ with hba
            · exact (hlt.mp hba).le.trans hfirst
            · exact hfirst
          · exact hmax x (List.mem_cons_of_mem _ hx)

/-- The integer part that decides between parents. -/
def Parent.dagRank (parent : Parent) : ℕ := parent.rank.dagRank.toNat

lemma foldl_prefer (q : Parent) (l : List Parent) :
    ∃ p ∈ q :: l, l.foldl ObjectiveFunction0.prefer (some q) = some p ∧
      ∀ x ∈ q :: l, p.dagRank ≤ x.dagRank := by
  induction l generalizing q with
  | nil => exact ⟨q, by simp, rfl, by simp⟩
  | cons a l ih =>
    have hlt : a.rank < q.rank ↔ a.dagRank < q.dagRank := Rank.lt_iff
    rw [List.foldl_cons]
    by_cases haq : a.rank < q.rank
    · obtain ⟨p, hp, hfold, hmin⟩ := ih a
      rw [ObjectiveFunction0.prefer, if_pos haq]
      refine ⟨p, List.mem_cons_of_mem _ hp, hfold, ?_⟩
      intro x hx
      rcases List.mem_cons.mp hx with rfl | hx
      · exact (hmin a List.mem_cons_self).trans (hlt.mp haq).le
      · exact hmin x hx
    · obtain ⟨p, hp, hfold, hmin⟩ := ih q
      rw [ObjectiveFunction0.prefer, if_neg haq]
      have hpq := hmin q List.mem_cons_self
      refine ⟨p, ?_, hfold, ?_⟩
      · rcases List.mem_cons.mp hp with rfl | hp
        · exact List.mem_cons_self
        · exact List.mem_cons_of_mem _ (List.mem_cons_of_mem _ hp)
      · intro x hx
        rcases List.mem_cons.mp hx with rfl | hx
        · exact hpq
        · rcases List.mem_cons.mp hx with rfl | hx
          · exact hpq.trans (not_lt.mp (hlt.not.mp haq))
          · exact hmin x (List.mem_cons_of_mem _ hx)

/-- The preferred parent has the smallest integer part in the set. -/
lemma preferredParent_spec {capacity : ℕ} (set : ParentSet capacity) (hne : set.entries ≠ []) :
    ∃ p ∈ set.entries.map Prod.snd, ObjectiveFunction0.preferredParent set = some p ∧
      ∀ x ∈ set.entries.map Prod.snd, p.dagRank ≤ x.dagRank := by
  unfold ObjectiveFunction0.preferredParent
  cases hl : set.entries.map Prod.snd with
  | nil => exact absurd (List.map_eq_nil_iff.mp hl) hne
  | cons q l => exact foldl_prefer q l

/-! ### Adding -/

namespace ParentSet

variable {capacity : ℕ} {set : ParentSet capacity} {adds : List (BitVec 128 × Parent)}
  {address : BitVec 128} {parent : Parent}

/-- The `dag_rank`s of entries. -/
def dagRanks (entries : List (BitVec 128 × Parent)) : List ℕ := entries.map fun e => e.2.dagRank

/-- What is known of the set after the parents `adds` were added. -/
structure Holds (set : ParentSet capacity) (adds : List (BitVec 128 × Parent)) : Prop where
  keeps : Keeps capacity (dagRanks set.entries) (dagRanks adds)
  mem : ∀ e ∈ set.entries, e ∈ adds

lemma Holds.new : Holds (LinearMap.new capacity) [] := ⟨.nil, nofun⟩

lemma Holds.get_eq_none (h : Holds set adds) (haddress : address ∉ adds.map Prod.fst) :
    set.get address = none := by
  rw [LinearMap.get_eq_none_iff]
  intro hmem
  obtain ⟨e, he, rfl⟩ := List.mem_map.mp hmem
  exact haddress (List.mem_map_of_mem (h.mem e he))

/-- A new parent beside others that were there before. -/
lemma mem_concat {entries entries' : List (BitVec 128 × Parent)}
    (h : ∀ e ∈ entries, e ∈ adds) (hsub : ∀ e ∈ entries', e ∈ entries) :
    ∀ e ∈ entries' ++ [(address, parent)], e ∈ adds ++ [(address, parent)] := by
  intro e he
  rcases List.mem_append.mp he with he | he
  · exact List.mem_append_left _ (h e (hsub e he))
  · exact List.mem_append_right _ he

/-- One more parent, with an address that was not used before. -/
lemma Holds.add (h : Holds set adds) (hcap : 0 < capacity)
    (haddress : address ∉ adds.map Prod.fst) :
    ∃ set', set.add address parent = .ok set' ∧ Holds set' (adds ++ [(address, parent)]) := by
  have hget := h.get_eq_none haddress
  have hkey := LinearMap.get_eq_none_iff.mp hget
  have hlen : (dagRanks set.entries).length = set.entries.length := List.length_map _
  have hranks : dagRanks (adds ++ [(address, parent)]) = dagRanks adds ++ [parent.dagRank] :=
    List.map_append ..
  rw [ParentSet.add, hget, Option.isSome_none, if_neg (by simp)]
  by_cases hroom : set.entries.length < capacity
  · have hinsert : set.insert address parent = some (set.push address parent hkey hroom, none) := by
      rw [LinearMap.insert, dif_neg hkey, dif_pos hroom]
    rw [hinsert]
    refine ⟨_, rfl, ?_, mem_concat h.mem fun e he => he⟩
    change Keeps capacity (dagRanks (set.entries ++ _)) _
    rw [hranks, dagRanks, List.map_append]
    exact h.keeps.push (hlen.trans_lt hroom)
  · have hfull : set.entries.length = capacity := le_antisymm set.length_le (not_lt.mp hroom)
    rw [LinearMap.insert_eq_none_iff.mpr ⟨hget, hfull⟩]
    cases hworst : set.worstParent with
    | none =>
      rw [maxByKey_eq_none.mp hworst, List.length_nil] at hfull
      omega
    | some worst =>
      obtain ⟨worstAddress, worst⟩ := worst
      obtain ⟨hmem, hmax⟩ := maxByKey_spec hworst
      have hlt : parent.rank.dagRank < worst.rank.dagRank ↔ parent.dagRank < worst.dagRank :=
        UInt16.lt_iff_toNat_lt
      dsimp only
      by_cases hbetter : parent.rank.dagRank < worst.rank.dagRank
      · have hperm := LinearMap.entries_perm_remove hmem
        have hgone : address ∉ (set.remove worstAddress).keys := by
          rw [← LinearMap.get_eq_none_iff, LinearMap.get_remove, hget, ite_self]
        have hremoved := hperm.length_eq
        rw [List.length_cons] at hremoved
        have hroom' : (set.remove worstAddress).entries.length < capacity := by omega
        have hinsert : (set.remove worstAddress).insert address parent =
            some ((set.remove worstAddress).push address parent hgone hroom', none) := by
          rw [LinearMap.insert, dif_neg hgone, dif_pos hroom']
        rw [if_pos hbetter, LinearMap.get_eq_some_iff.mpr hmem, hinsert]
        refine ⟨_, rfl, ?_, mem_concat h.mem fun e he => ?_⟩
        · change Keeps capacity (dagRanks (_ ++ _)) _
          have hranksPerm : (dagRanks set.entries).Perm
              (worst.dagRank :: dagRanks (set.remove worstAddress).entries) := hperm.map _
          rw [hranks, dagRanks, List.map_append]
          refine (h.keeps.perm hranksPerm).replace ?_ ?_ (hlt.mp hbetter)
          · rw [dagRanks, List.length_map]
            omega
          · intro x hx
            obtain ⟨e, he, rfl⟩ := List.mem_map.mp hx
            exact hmax e (hperm.mem_iff.mpr (List.mem_cons_of_mem _ he))
        · exact hperm.mem_iff.mpr (List.mem_cons_of_mem _ he)
      · rw [if_neg hbetter]
        refine ⟨set, rfl, ?_, fun e he => List.mem_append_left _ (h.mem e he)⟩
        rw [hranks]
        refine h.keeps.drop (hlen.trans hfull) ?_
        intro x hx
        obtain ⟨e, he, rfl⟩ := List.mem_map.mp hx
        exact (hmax e he).trans (not_lt.mp (hlt.not.mp hbetter))

/-- The set after parents are added one after the other. -/
def addAll (set : ParentSet capacity) (adds : List (BitVec 128 × Parent)) :
    Checked (ParentSet capacity) :=
  adds.foldlM (fun set e => set.add e.1 e.2) set

lemma Holds.addAll {before : List (BitVec 128 × Parent)} (h : Holds set before)
    (hcap : 0 < capacity) (hnodup : ((before ++ adds).map Prod.fst).Nodup) :
    ∃ set', set.addAll adds = .ok set' ∧ Holds set' (before ++ adds) := by
  induction adds generalizing set before with
  | nil => exact ⟨set, rfl, by rwa [List.append_nil]⟩
  | cons e adds ih =>
    have hsplit : before ++ e :: adds = before ++ [e] ++ adds := by simp
    rw [hsplit] at hnodup ⊢
    have haddress : e.1 ∉ before.map Prod.fst := by
      rw [List.append_assoc, List.map_append] at hnodup
      exact fun hmem => (List.nodup_append.mp hnodup).2.2 _ hmem e.1 (by simp) rfl
    obtain ⟨set₁, hadd, h₁⟩ := h.add hcap haddress
    obtain ⟨set', hall, h'⟩ := ih h₁ hnodup
    refine ⟨set', ?_, h'⟩
    rw [ParentSet.addAll, List.foldlM_cons, hadd]
    exact hall

/-- Whatever parents are added to an empty set, it ends with those of smallest `dag_rank`, each
under its own address, and prefers a parent that is as good as any that was added. -/
theorem keeps_smallest (hcap : 0 < capacity) (adds : List (BitVec 128 × Parent))
    (hnodup : (adds.map Prod.fst).Nodup) :
    ∃ set : ParentSet capacity, addAll (LinearMap.new capacity) adds = .ok set ∧
      (dagRanks set.entries).Perm ((sorted (dagRanks adds)).take capacity) ∧
      set.entries.length = min capacity adds.length ∧
      (∀ address parent, set.find address = some parent → (address, parent) ∈ adds) ∧
      (adds ≠ [] → ∃ p ∈ adds.map Prod.snd, ObjectiveFunction0.preferredParent set = some p ∧
        ∀ x ∈ adds.map Prod.snd, p.dagRank ≤ x.dagRank) := by
  obtain ⟨set, hall, h⟩ := Holds.new.addAll hcap hnodup
  rw [List.nil_append] at h
  have hlen : set.entries.length = min capacity adds.length := by
    have hkept := h.keeps.1
    rwa [dagRanks, dagRanks, List.length_map, List.length_map] at hkept
  refine ⟨set, hall, h.keeps.perm_take, hlen, ?_, ?_⟩
  · intro address parent hfind
    exact h.mem _ (LinearMap.get_eq_some_iff.mp hfind)
  · intro hne
    have hpos := List.length_pos_iff.mpr hne
    obtain ⟨p, hp, hpreferred, hmin⟩ := preferredParent_spec set
      (List.length_pos_iff.mp (by omega))
    refine ⟨p, ?_, hpreferred, ?_⟩
    · obtain ⟨e, he, rfl⟩ := List.mem_map.mp hp
      exact List.mem_map_of_mem (h.mem e he)
    · intro x hx
      obtain ⟨e, he, rfl⟩ := List.mem_map.mp hx
      obtain ⟨r, hr, hle⟩ := h.keeps.exists_le hcap (List.mem_map_of_mem he)
      obtain ⟨e', he', rfl⟩ := List.mem_map.mp hr
      exact (hmin e'.2 (List.mem_map_of_mem he')).trans hle

/-- A node that is heard first, and a root. -/
def sample : List (BitVec 128 × Parent) :=
  [(1, ⟨⟨1024, 256, by decide⟩, 0, 240, 2⟩), (2, ⟨Rank.root, 0, 240, 2⟩)]

theorem keeps_smallest_sample : ∃ set : ParentSet 1, addAll (LinearMap.new 1) sample = .ok set ∧
    (dagRanks set.entries).Perm ((sorted (dagRanks sample)).take 1) ∧
    ∃ p ∈ sample.map Prod.snd, ObjectiveFunction0.preferredParent set = some p ∧
      ∀ x ∈ sample.map Prod.snd, p.dagRank ≤ x.dagRank := by
  obtain ⟨set, hall, hperm, -, -, hpreferred⟩ :=
    @keeps_smallest 1 (by decide) sample (by decide)
  exact ⟨set, hall, hperm, hpreferred (List.cons_ne_nil _ _)⟩

end ParentSet

end Smoltcp.Rpl
