import Mathlib

/-!
# What a search looks at

`find?` stops at the first element that passes the test. `lookedAt` lists the elements it has put
to the test by then.
-/

namespace List

variable {α : Type*} {test : α → Bool} {l : List α} {a b : α}

/-- The elements up to the first one that passes, or all of them if none does. -/
def lookedAt (test : α → Bool) : List α → List α
  | [] => []
  | a :: l => if test a then [a] else a :: lookedAt test l

lemma lookedAt_subset (h : a ∈ l.lookedAt test) : a ∈ l := by
  induction l with
  | nil => exact h
  | cons b l ih =>
    unfold lookedAt at h
    split_ifs at h
    · exact List.mem_cons.mpr (.inl (List.mem_singleton.mp h))
    · rcases List.mem_cons.mp h with rfl | h
      · exact List.mem_cons_self
      · exact List.mem_cons_of_mem _ (ih h)

lemma lookedAt_of_find?_eq_some (h : l.find? test = some a) : a ∈ l.lookedAt test := by
  induction l with
  | nil => cases h
  | cons b l ih =>
    unfold lookedAt
    rw [List.find?_cons] at h
    cases hb : test b with
    | true =>
      rw [hb] at h
      cases h
      simp
    | false =>
      rw [hb] at h
      simp [ih h]

lemma lookedAt_of_find?_eq_none (h : l.find? test = none) : l.lookedAt test = l := by
  induction l with
  | nil => rfl
  | cons b l ih =>
    rw [List.find?_cons] at h
    cases hb : test b with
    | true => simp [hb] at h
    | false =>
      rw [hb] at h
      rw [lookedAt, hb, ih h]
      rfl

/-- Of a sorted list nothing behind an element that passes is looked at. -/
lemma Pairwise.lookedAt {R : α → α → Prop} (h : l.Pairwise R) (ha : a ∈ l) (htest : test a = true)
    (hb : b ∈ l.lookedAt test) : b = a ∨ R b a := by
  induction l with
  | nil => cases ha
  | cons c l ih =>
    rw [List.pairwise_cons] at h
    unfold List.lookedAt at hb
    rcases List.mem_cons.mp ha with heq | hmem
    · subst heq
      rw [if_pos htest] at hb
      exact .inl (List.mem_singleton.mp hb)
    · split_ifs at hb
      · obtain rfl := List.mem_singleton.mp hb
        exact .inr (h.1 a hmem)
      · rcases List.mem_cons.mp hb with rfl | hb
        · exact .inr (h.1 a hmem)
        · exact ih h.2 hmem hb

end List
