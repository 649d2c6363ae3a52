import Smoltcp.Wire.Dns.NameIter

/-!
# Names are read once

The pieces that the pointers behind the first one lead to stand in front of each other, so none of
their octets is consumed twice. Only the first piece, which need not be in the packet at all, may
overlap with them: where its pointer leads forward, the name may come back to it.
-/

namespace Smoltcp

namespace Dns

variable {memory : ℕ → UInt8} {s s' : Span} {n ptr : ℕ}

/-! ### Pieces of a name -/

variable (memory) in
/-- The length of the piece of a name at the front: whole labels, and what ends them. -/
def pieceLen (s : Span) : ℕ :=
  match _ : front memory s with
  | .label n => 1 + n + pieceLen (s.drop (1 + n))
  | .root => Front.root.size
  | .pointer ptr => (Front.pointer ptr).size
  | .malformed => Front.malformed.size
termination_by s.len
decreasing_by
  obtain ⟨-, -, hle⟩ := front_label ‹_›
  rw [Span.len_drop]
  omega

variable (memory) in
/-- The pointer that ends the piece, if it is one. -/
def pointerOf (s : Span) : Option ℕ :=
  match _ : front memory s with
  | .label n => pointerOf (s.drop (1 + n))
  | .pointer ptr => some ptr
  | .root | .malformed => none
termination_by s.len
decreasing_by
  obtain ⟨-, -, hle⟩ := front_label ‹_›
  rw [Span.len_drop]
  omega

variable (memory) in
def piece (s : Span) : Span := s.take (pieceLen memory s)

lemma piece_of_label {x : ℕ} (h : front memory s = .label n) :
    x ∈ piece memory s ↔ x ∈ s.take (1 + n) ∨ x ∈ piece memory (s.drop (1 + n)) := by
  have hlen : pieceLen memory s = 1 + n + pieceLen memory (s.drop (1 + n)) := by
    rw [pieceLen]
    split <;> simp_all
  simp only [piece, hlen, Span.mem_take, Span.mem_drop, Span.start_drop]
  simp only [Span.mem_iff]
  omega

lemma piece_of_not_label (h : ∀ n, front memory s ≠ .label n) :
    piece memory s = s.take (front memory s).size := by
  rw [piece, pieceLen]
  split <;> simp_all

lemma pointerOf_of_label (h : front memory s = .label n) :
    pointerOf memory s = pointerOf memory (s.drop (1 + n)) := by
  rw [pointerOf]
  split <;> simp_all

lemma pointerOf_of_pointer (h : front memory s = .pointer ptr) : pointerOf memory s = some ptr := by
  rw [pointerOf]
  split <;> simp_all

lemma pointerOf_of_last (h : front memory s = .root ∨ front memory s = .malformed) :
    pointerOf memory s = none := by
  rw [pointerOf]
  split <;> simp_all

namespace NameIter

variable (memory) in
/-- Where the pointer leads that ends the piece in front: to what is behind its target, which may in
turn only point to what is in front of it. -/
def follow (s : NameIter) : Option NameIter :=
  match pointerOf memory s.bytes with
  | none => none
  | some ptr =>
    if s.packet.len ≤ ptr then none else some ⟨s.packet.take ptr, s.packet.drop ptr⟩

/-- A pointer leads from one piece to the other. -/
def Leads (memory : ℕ → UInt8) (s s' : NameIter) : Prop := s.follow memory = some s'

/-- The octet is in a piece of the name. -/
def Visits (memory : ℕ → UInt8) (s : NameIter) (x : ℕ) : Prop :=
  ∃ s', Relation.ReflTransGen (Leads memory) s s' ∧ x ∈ piece memory s'.bytes

section Follow

variable {s s' : NameIter} {x : ℕ}

lemma follow_of_label (h : front memory s.bytes = .label n) :
    s.follow memory = follow memory ⟨s.packet, s.bytes.drop (1 + n)⟩ := by
  rw [follow, follow, pointerOf_of_label h]

lemma follow_of_pointer (h : front memory s.bytes = .pointer ptr) (hptr : ptr < s.packet.len) :
    s.follow memory = some ⟨s.packet.take ptr, s.packet.drop ptr⟩ := by
  rw [follow, pointerOf_of_pointer h]
  exact if_neg (Nat.not_le.mpr hptr)

lemma follow_of_beyond (h : front memory s.bytes = .pointer ptr) (hptr : s.packet.len ≤ ptr) :
    s.follow memory = none := by
  rw [follow, pointerOf_of_pointer h]
  exact if_pos hptr

lemma follow_of_last (h : front memory s.bytes = .root ∨ front memory s.bytes = .malformed) :
    s.follow memory = none := by
  rw [follow, pointerOf_of_last h]

lemma exists_of_leads (h : Leads memory s s') : ∃ ptr, pointerOf memory s.bytes = some ptr ∧
    ptr < s.packet.len ∧ s' = ⟨s.packet.take ptr, s.packet.drop ptr⟩ := by
  unfold Leads follow at h
  split at h
  · cases h
  · next ptr hptr =>
    split_ifs at h with hlen
    exact ⟨ptr, hptr, Nat.not_le.mp hlen, (Option.some.inj h).symm⟩

/-- A pointer leads into the part of the packet that pointers may lead to. -/
lemma mem_packet_of_leads (h : Relation.TransGen (Leads memory) s s')
    (hx : x ∈ s'.bytes ∨ x ∈ s'.packet) : x ∈ s.packet := by
  induction h with
  | single h =>
    obtain ⟨ptr, -, -, rfl⟩ := exists_of_leads h
    exact Span.mem_take_or_drop.mpr hx.symm
  | tail _ h ih =>
    obtain ⟨ptr, -, -, rfl⟩ := exists_of_leads h
    exact ih (.inr (Span.mem_take_or_drop.mpr hx.symm))

/-- Nothing is followed behind the last pass. -/
lemma Reads.follow_eq_none {p : Pass} (h : Reads memory s p) (hp : p.next = none) :
    s.follow memory = none ∧ ∀ n, front memory s.bytes ≠ .label n := by
  cases h with
  | finished hfront => exact ⟨follow_of_last (.inl hfront), by simp [hfront]⟩
  | beyond hfront hptr => exact ⟨follow_of_beyond hfront hptr, by simp [hfront]⟩
  | malformed hfront => exact ⟨follow_of_last (.inr hfront), by simp [hfront]⟩
  | label | pointer => cases hp

lemma visits_iff : Visits memory s x ↔
    x ∈ piece memory s.bytes ∨ ∃ s₁, Leads memory s s₁ ∧ Visits memory s₁ x := by
  constructor
  · rintro ⟨s', hleads, hx⟩
    rcases hleads.cases_head with rfl | ⟨s₁, hfirst, hrest⟩
    · exact .inl hx
    · exact .inr ⟨s₁, hfirst, s', hrest, hx⟩
  · rintro (hx | ⟨s₁, hfirst, s', hrest, hx⟩)
    · exact ⟨s, .refl, hx⟩
    · exact ⟨s', .head hfirst hrest, hx⟩

lemma visits_of_label (h : front memory s.bytes = .label n) : Visits memory s x ↔
    x ∈ s.bytes.take (1 + n) ∨ Visits memory ⟨s.packet, s.bytes.drop (1 + n)⟩ x := by
  rw [visits_iff, @visits_iff _ ⟨s.packet, s.bytes.drop (1 + n)⟩, piece_of_label h, or_assoc]
  simp only [Leads, follow_of_label h]

lemma visits_of_pointer (h : front memory s.bytes = .pointer ptr) (hptr : ptr < s.packet.len) :
    Visits memory s x ↔
      x ∈ s.bytes.take 2 ∨ Visits memory ⟨s.packet.take ptr, s.packet.drop ptr⟩ x := by
  rw [visits_iff, piece_of_not_label (by simp [h]), h]
  simp [Leads, follow_of_pointer h hptr, Front.size]

lemma visits_of_none (h : s.follow memory = none) (hfront : ∀ n, front memory s.bytes ≠ .label n) :
    Visits memory s x ↔ x ∈ s.bytes.take (front memory s.bytes).size := by
  rw [visits_iff, piece_of_not_label hfront]
  simp [Leads, h]

end Follow

/-! ### What is consumed -/

variable (memory) in
/-- The octets that a pass consumes. -/
def consumed (v : NameIter × Pass) : Span := v.1.bytes.take (front memory v.1.bytes).size

variable (memory) in
def timesConsumed (t : List (NameIter × Pass)) (x : ℕ) : ℕ := Span.times (t.map (consumed memory)) x

/-- Where the target of the first pointer that is followed stands. -/
def firstTarget : List (NameIter × Pass) → Option ℕ
  | [] => none
  | (_, .pointer s') :: _ => some s'.bytes.start
  | _ :: t => firstTarget t

/-- The labels that are returned. -/
def labels (t : List (NameIter × Pass)) : List Span :=
  (t.filterMap item).filterMap Except.toOption

namespace Trace

variable {s s₁ : NameIter} {t : List (NameIter × Pass)} {x : ℕ}

lemma timesConsumed_cons {v : NameIter × Pass} : timesConsumed memory (v :: t) x =
    (if x ∈ consumed memory v then 1 else 0) + timesConsumed memory t x :=
  Span.times_cons

lemma trail (h : Trace memory s t) : Span.Trail s.packet s.bytes (t.map (consumed memory)) := by
  induction h with
  | last hpass hp => exact .advance .nil
  | cons hpass hp _ ih =>
    cases Reads.of_pass hpass with
    | finished | beyond | malformed => cases hp
    | label hfront =>
      cases hp
      rw [List.map_cons, consumed, hfront]
      exact .advance ih
    | pointer hfront hptr =>
      cases hp
      rw [List.map_cons, consumed, hfront]
      exact .jump ih

/-- The octets that are consumed are those of the pieces. -/
lemma times_pos_iff (h : Trace memory s t) : 0 < timesConsumed memory t x ↔ Visits memory s x := by
  induction h with
  | @last s p hpass hp =>
    obtain ⟨hfollow, hfront⟩ := (Reads.of_pass hpass).follow_eq_none hp
    rw [visits_of_none hfollow hfront]
    simp [timesConsumed, consumed]
  | @cons s s' p t hpass hp _ ih =>
    rw [timesConsumed, List.map_cons, Span.times_pos_cons, consumed]
    cases Reads.of_pass hpass with
    | finished | beyond | malformed => cases hp
    | label hfront =>
      cases hp
      rw [visits_of_label hfront, ← ih, hfront]
      rfl
    | pointer hfront hptr =>
      cases hp
      rw [visits_of_pointer hfront hptr, ← ih, hfront]
      rfl

/-- The first pointer that is followed ends the piece in front. -/
lemma firstTarget_eq (h : Trace memory s t) :
    firstTarget t = (s.follow memory).map fun s₁ => s₁.bytes.start := by
  induction h with
  | @last s p hpass hp =>
    rw [((Reads.of_pass hpass).follow_eq_none hp).1]
    cases p with
    | finished | malformed | label => rfl
    | pointer => cases hp
  | @cons s s' p t hpass hp _ ih =>
    cases Reads.of_pass hpass with
    | finished | beyond | malformed => cases hp
    | label hfront =>
      cases hp
      rw [follow_of_label hfront, ← ih]
      rfl
    | pointer hfront hptr =>
      cases hp
      rw [follow_of_pointer hfront hptr]
      rfl

/-- Up to the first pointer, every octet of the piece in front is consumed once. -/
lemma times_eq (h : Trace memory s t) (hleads : Leads memory s s₁) :
    ∃ t₁, Trace memory s₁ t₁ ∧ ∀ x, timesConsumed memory t x =
      (if x ∈ piece memory s.bytes then 1 else 0) + timesConsumed memory t₁ x := by
  induction h with
  | @last s p hpass hp =>
    rw [Leads, ((Reads.of_pass hpass).follow_eq_none hp).1] at hleads
    cases hleads
  | @cons s s' p t hpass hp hrest ih =>
    unfold Leads at hleads
    cases Reads.of_pass hpass with
    | finished | beyond | malformed => cases hp
    | @label n hfront =>
      cases hp
      rw [follow_of_label hfront] at hleads
      obtain ⟨t₁, ht₁, htimes⟩ := ih hleads
      refine ⟨t₁, ht₁, fun x => ?_⟩
      rw [timesConsumed_cons, htimes, ← add_assoc, consumed, hfront]
      congr 1
      -- the label and what is behind it do not overlap
      by_cases hmem : x ∈ s.bytes.take (Front.label n).size
      · have hrest : x ∉ piece memory (s.bytes.drop (1 + n)) := fun hpiece =>
          Span.not_mem_drop hmem (Span.mem_take.mp hpiece).1
        rw [if_pos hmem, if_neg hrest, if_pos ((piece_of_label hfront).mpr (.inl hmem))]
      · rw [if_neg hmem, zero_add]
        exact if_congr ((piece_of_label hfront).trans (or_iff_right hmem)).symm rfl rfl
    | pointer hfront hptr =>
      cases hp
      rw [follow_of_pointer hfront hptr] at hleads
      obtain rfl := Option.some.inj hleads
      refine ⟨t, hrest, fun x => ?_⟩
      rw [timesConsumed_cons, consumed, piece_of_not_label (by simp [hfront])]

/-- Labels are cut out of what is read. -/
lemma labels_le (h : Trace memory s t) : (∀ label ∈ labels t, label.len ≤ 63) ∧
    ((labels t).map Span.len).sum ≤ s.packet.len + s.bytes.len := by
  induction h with
  | @last s p hpass hp =>
    have hnil : labels [(s, p)] = [] := by
      cases p with
      | finished | malformed => rfl
      | label | pointer => cases hp
    rw [hnil]
    exact ⟨by simp, Nat.zero_le _⟩
  | @cons s s' p t hpass hp _ ih =>
    obtain ⟨hle, hsum⟩ := ih
    cases Reads.of_pass hpass with
    | finished | beyond | malformed => cases hp
    | @label n hfront =>
      cases hp
      obtain ⟨-, hlt, hlen⟩ := front_label hfront
      have hlabel : ((s.bytes.take (1 + n)).drop 1).len = n := by
        simp only [Span.len_drop, Span.len_take]
        omega
      simp only [Span.len_drop] at hsum
      constructor
      · intro label hmem
        rcases List.mem_cons.mp hmem with rfl | hmem
        · omega
        · exact hle label hmem
      · change (((s.bytes.take (1 + n)).drop 1 :: labels t).map Span.len).sum ≤ _
        rw [List.map_cons, List.sum_cons, hlabel]
        omega
    | @pointer ptr hfront hptr =>
      cases hp
      refine ⟨hle, hsum.trans ?_⟩
      simp only [Span.len_take, Span.len_drop]
      omega

end Trace

end NameIter

open NameIter

/-! ### No octet twice -/

/-- What is asked of reading a name, whose passes are `t`: it comes to an end without an access out
of range, its labels are short enough, and no octet of the packet in front of the target of the
first pointer is consumed twice. -/
structure ReadOnce (memory : ℕ → UInt8) (packet bytes : Span) (t : List (NameIter × Pass)) :
    Prop where
  trace : Trace memory ⟨packet, bytes⟩ t
  yields : Yields memory ⟨packet, bytes⟩ (t.filterMap item)
  label_le : ∀ label ∈ labels t, label.len ≤ 63
  once : ∀ target ∈ firstTarget t, ∀ x ∈ packet, x < target → timesConsumed memory t x ≤ 1
  sum_le : ((labels t).map Span.len).sum ≤ packet.len + bytes.len

def Decompresses (memory : ℕ → UInt8) (packet bytes : Span) : Prop :=
  ∃ t, ReadOnce memory packet bytes t

/-- A pointer behind the first one leads to a piece that overlaps with the first piece. -/
def ComesBack (memory : ℕ → UInt8) (packet bytes : Span) : Prop :=
  ∃ s₁ s₂, Leads memory ⟨packet, bytes⟩ s₁ ∧ Relation.TransGen (Leads memory) s₁ s₂ ∧
    ∃ x ∈ piece memory bytes, x ∈ piece memory s₂.bytes

variable {packet bytes : Span}

/-- Names are read once exactly if they do not come back to where they began. -/
theorem decompresses_iff (memory : ℕ → UInt8) (packet bytes : Span) :
    Decompresses memory packet bytes ↔ ¬ ComesBack memory packet bytes := by
  constructor
  · rintro ⟨t, ht⟩ ⟨s₁, s₂, hfirst, hrest, x, hx₁, hx₂⟩
    obtain ⟨t₁, ht₁, htimes⟩ := ht.trace.times_eq hfirst
    obtain ⟨ptr, -, -, rfl⟩ := exists_of_leads hfirst
    have htarget : firstTarget t = some (packet.start + ptr) := by
      rw [ht.trace.firstTarget_eq, show NameIter.follow memory _ = _ from hfirst]
      rfl
    have hmem := Span.mem_take.mp (mem_packet_of_leads hrest (.inl (Span.mem_take.mp hx₂).1))
    have hpos := ht₁.times_pos_iff.mpr ⟨s₂, hrest.to_reflTransGen, hx₂⟩
    have honce := ht.once _ htarget x hmem.1 hmem.2
    rw [htimes, if_pos hx₁] at honce
    omega
  · intro hback
    obtain ⟨t, ht⟩ := exists_trace memory ⟨packet, bytes⟩
    refine ⟨t, ht, ht.yields, ht.labels_le.1, ?_, ht.labels_le.2⟩
    intro target htarget x hx hlt
    rw [ht.firstTarget_eq] at htarget
    obtain ⟨s₁, hfirst, rfl⟩ := Option.map_eq_some_iff.mp htarget
    obtain ⟨t₁, ht₁, htimes⟩ := ht.times_eq hfirst
    rw [htimes]
    split_ifs with hpiece
    · -- behind the first pointer the octet is not consumed again
      have hzero : timesConsumed memory t₁ x = 0 := by
        by_contra hne
        obtain ⟨s₂, hleads, hx₂⟩ := ht₁.times_pos_iff.mp (Nat.pos_of_ne_zero hne)
        rcases Relation.reflTransGen_iff_eq_or_transGen.mp hleads with rfl | hleads
        · exact absurd hlt (Nat.not_lt.mpr (Span.mem_take.mp hx₂).1.1)
        · exact hback ⟨s₁, s₂, hfirst, hleads, x, hpiece, hx₂⟩
      rw [hzero]
    · obtain ⟨ptr, -, -, rfl⟩ := exists_of_leads hfirst
      rw [zero_add]
      exact ht₁.trail.times_le_one fun hdrop htake => Span.not_mem_drop htake hdrop

/-- A response whose question is for `a` and what a pointer to the end of the packet stands for.
There is a pointer back to the question. -/
def forwardPointer : ℕ → UInt8 := fun i =>
  [0, 7, 0x80, 0, 0, 1, 0, 0, 0, 0, 0, 0, 1, 97, 0xC0, 20, 0, 1, 0, 1, 0xC0, 12].getD i 0

/-- The label of the question is read a second time. -/
theorem not_decompresses_forwardPointer : ¬ Decompresses forwardPointer ⟨0, 22⟩ ⟨12, 4⟩ := by
  rintro ⟨t, ht⟩
  have htrace : Trace forwardPointer ⟨⟨0, 22⟩, ⟨12, 4⟩⟩
      [(⟨⟨0, 22⟩, ⟨12, 4⟩⟩, .label ⟨13, 1⟩ ⟨⟨0, 22⟩, ⟨14, 2⟩⟩),
        (⟨⟨0, 22⟩, ⟨14, 2⟩⟩, .pointer ⟨⟨0, 20⟩, ⟨20, 2⟩⟩),
        (⟨⟨0, 20⟩, ⟨20, 2⟩⟩, .pointer ⟨⟨0, 12⟩, ⟨12, 8⟩⟩),
        (⟨⟨0, 12⟩, ⟨12, 8⟩⟩, .label ⟨13, 1⟩ ⟨⟨0, 12⟩, ⟨14, 6⟩⟩),
        (⟨⟨0, 12⟩, ⟨14, 6⟩⟩, .malformed)] :=
    .cons rfl rfl (.cons rfl rfl (.cons rfl rfl (.cons rfl rfl (.last rfl rfl))))
  obtain rfl := ht.trace.unique htrace
  exact absurd (ht.once 20 rfl 12 (by decide) (by decide)) (by decide)

end Dns

end Smoltcp
