import Smoltcp.Lib.Span
import Smoltcp.Panic
import Smoltcp.Wire.Dns.Names

/-!
# Following the pointers of a name

`Packet::parse_name` keeps two slices: the part of the packet that pointers may still lead to, and
the octets that it stands in. Here both are spans of the memory, so that it can be said which octets
are consumed. Every pointer that is followed cuts the first slice down to what is in front of its
target, so reading comes to an end whatever the packet holds.
-/

namespace Smoltcp

namespace Dns

variable (memory : ℕ → UInt8)

/-- The index expression `bytes[i]`. -/
def index (s : Span) (i : ℕ) : Checked UInt8 :=
  if i < s.len then .ok (memory (s.start + i)) else .error .indexOutOfRange

/-- The slice expression `&bytes[a..b]`. -/
def slice (s : Span) (a b : ℕ) : Checked Span :=
  if a ≤ b ∧ b ≤ s.len then .ok ((s.take b).drop a) else .error .sliceOutOfRange

/-- What the iterator of `parse_name` keeps from one call to the next. -/
structure NameIter where
  packet : Span
  bytes : Span
  deriving DecidableEq, Repr

/-- What one pass of the loop does: it returns `None`, an error or a label, or it follows a
pointer. -/
inductive Pass where
  | finished
  | malformed
  | label (label : Span) (next : NameIter)
  | pointer (next : NameIter)
  deriving DecidableEq, Repr

/-- The iterator that the next pass starts with, if there is one. -/
def Pass.next : Pass → Option NameIter
  | finished | malformed => none
  | label _ s | pointer s => some s

namespace NameIter

/-- The body of the loop. -/
def pass (s : NameIter) : Checked Pass := do
  if s.bytes.len = 0 then return .malformed
  else
    let x ← index memory s.bytes 0
    if x = 0x00 then return .finished
    else if x &&& 0xC0 = 0x00 then
      let len := (x &&& 0x3F).toNat
      if s.bytes.len < 1 + len then return .malformed
      else
        let label ← slice s.bytes 1 (1 + len)
        let bytes ← slice s.bytes (1 + len) s.bytes.len
        return .label label { s with bytes }
    else if x &&& 0xC0 = 0xC0 then
      if s.bytes.len < 2 then return .malformed
      else
        let y ← index memory s.bytes 1
        let ptr := (x &&& 0x3F).toNat <<< 8 ||| y.toNat
        if s.packet.len ≤ ptr then return .malformed
        else
          -- Only the part before `ptr` is kept, so that no octet is parsed twice.
          let bytes ← slice s.packet ptr s.packet.len
          let packet ← slice s.packet 0 ptr
          return .pointer ⟨packet, bytes⟩
    else return .malformed

end NameIter

/-! ### What stands at the front of a slice -/

/-- What a name may go on with. A label that is cut off, a pointer that is cut off and an octet with
another prefix are malformed. -/
inductive Front where
  | root
  | label (len : ℕ)
  | pointer (ptr : ℕ)
  | malformed
  deriving DecidableEq, Repr

/-- The octets that are looked at. -/
def Front.size : Front → ℕ
  | root => 1
  | label len => 1 + len
  | pointer _ => 2
  | malformed => 1

def front (s : Span) : Front :=
  if s.len = 0 then .malformed
  else
    let x := memory s.start
    if x = 0x00 then .root
    else if x &&& 0xC0 = 0x00 then
      if s.len < 1 + (x &&& 0x3F).toNat then .malformed else .label (x &&& 0x3F).toNat
    else if x &&& 0xC0 = 0xC0 then
      if s.len < 2 then .malformed
      else .pointer ((x &&& 0x3F).toNat <<< 8 ||| (memory (s.start + 1)).toNat)
    else .malformed

variable {memory} {s s' : Span} {n ptr : ℕ}

/-- A label that is not cut off. -/
lemma front_label (h : front memory s = .label n) : 0 < n ∧ n < 64 ∧ 1 + n ≤ s.len := by
  unfold front at h
  dsimp only at h
  split_ifs at h with hlen hroot hclear hshort hset hcut
  obtain rfl := Front.label.inj h
  obtain ⟨hlt, hlabel, -⟩ := octet_cases (memory s.start)
  refine ⟨Nat.pos_of_ne_zero ?_, hlt, Nat.not_lt.mp hshort⟩
  intro h0
  rw [h0] at hlabel
  exact hroot (hlabel hclear)

lemma front_pointer (h : front memory s = .pointer ptr) : 2 ≤ s.len := by
  unfold front at h
  dsimp only at h
  split_ifs at h with hlen hroot hclear hshort hset hcut
  exact Nat.not_lt.mp hcut

lemma index_of {i : ℕ} (h : i < s.len) : index memory s i = .ok (memory (s.start + i)) := if_pos h

lemma slice_of {a b : ℕ} (hab : a ≤ b) (hb : b ≤ s.len) :
    slice s a b = .ok ((s.take b).drop a) :=
  if_pos ⟨hab, hb⟩

lemma slice_from {a : ℕ} (h : a ≤ s.len) : slice s a s.len = .ok (s.drop a) := by
  rw [slice_of h le_rfl, Span.take, min_self]

lemma slice_to {b : ℕ} (h : b ≤ s.len) : slice s 0 b = .ok (s.take b) := by
  rw [slice_of b.zero_le h]
  rfl

namespace NameIter

variable (memory) in
/-- What a pass does with what stands at the front. -/
def read (s : NameIter) : Pass :=
  match front memory s.bytes with
  | .root => .finished
  | .label n => .label ((s.bytes.take (1 + n)).drop 1) { s with bytes := s.bytes.drop (1 + n) }
  | .pointer ptr =>
    if s.packet.len ≤ ptr then .malformed
    else .pointer ⟨s.packet.take ptr, s.packet.drop ptr⟩
  | .malformed => .malformed

/-- No access is out of range. -/
theorem pass_eq (s : NameIter) : s.pass memory = .ok (s.read memory) := by
  unfold pass read front
  by_cases hlen : s.bytes.len = 0
  · rw [if_pos hlen, if_pos hlen]
    rfl
  · rw [if_neg hlen, if_neg hlen, index_of (Nat.pos_of_ne_zero hlen), Checked.ok_bind, add_zero]
    dsimp only
    split_ifs with hroot hclear hshort hset hcut
    · rfl
    · rfl
    · rw [slice_of (by omega) (by omega), Checked.ok_bind, slice_from (by omega), Checked.ok_bind]
      rfl
    · rfl
    · rw [index_of (by omega), Checked.ok_bind]
      dsimp only
      split_ifs with hptr
      · rfl
      · rw [slice_from (by omega), Checked.ok_bind, slice_to (by omega), Checked.ok_bind]
        rfl
    · rfl

/-- Only a pointer takes the iterator to another part of the packet. -/
inductive Reads (memory : ℕ → UInt8) (s : NameIter) : Pass → Prop where
  | finished (hfront : front memory s.bytes = .root) : Reads memory s .finished
  | label {n : ℕ} (hfront : front memory s.bytes = .label n) :
      Reads memory s (.label ((s.bytes.take (1 + n)).drop 1) ⟨s.packet, s.bytes.drop (1 + n)⟩)
  | pointer {ptr : ℕ} (hfront : front memory s.bytes = .pointer ptr) (hptr : ptr < s.packet.len) :
      Reads memory s (.pointer ⟨s.packet.take ptr, s.packet.drop ptr⟩)
  | beyond {ptr : ℕ} (hfront : front memory s.bytes = .pointer ptr) (hptr : s.packet.len ≤ ptr) :
      Reads memory s .malformed
  | malformed (hfront : front memory s.bytes = .malformed) : Reads memory s .malformed

lemma reads (s : NameIter) : Reads memory s (s.read memory) := by
  unfold read
  cases hfront : front memory s.bytes with
  | root => exact .finished hfront
  | label n => exact .label hfront
  | pointer ptr =>
    dsimp only
    split_ifs with hptr
    · exact .beyond hfront hptr
    · exact .pointer hfront (Nat.lt_of_not_le hptr)
  | malformed => exact .malformed hfront

lemma Reads.of_pass {s : NameIter} {p : Pass} (h : s.pass memory = .ok p) : Reads memory s p := by
  rw [pass_eq] at h
  cases h
  exact s.reads

/-- A pass that goes on leaves less to read. -/
lemma Reads.size_lt {s s' : NameIter} {p : Pass} (h : Reads memory s p) (hp : p.next = some s') :
    s'.packet.len + s'.bytes.len < s.packet.len + s.bytes.len := by
  cases h with
  | finished | beyond | malformed => cases hp
  | label hfront =>
    obtain ⟨hpos, -, hle⟩ := front_label hfront
    cases hp
    simp only [Span.len_drop]
    omega
  | pointer hfront hptr =>
    have htwo := front_pointer hfront
    cases hp
    simp only [Span.len_take, Span.len_drop]
    omega

variable (memory) in
/-- The closure: the loop goes on while it follows pointers. -/
def next (s : NameIter) : Checked (Option (Except WireError Span) × NameIter) :=
  match _ : s.pass memory with
  | .error p => .error p
  | .ok .finished => .ok (none, s)
  | .ok .malformed => .ok (some (.error .mk), s)
  | .ok (.label label s') => .ok (some (.ok label), s')
  | .ok (.pointer s') => next s'
termination_by s.packet.len + s.bytes.len
decreasing_by exact (Reads.of_pass ‹_›).size_lt rfl

lemma next_of_finished {s : NameIter} (h : s.pass memory = .ok .finished) :
    s.next memory = .ok (none, s) := by
  rw [next]
  split <;> simp_all

lemma next_of_malformed {s : NameIter} (h : s.pass memory = .ok .malformed) :
    s.next memory = .ok (some (.error .mk), s) := by
  rw [next]
  split <;> simp_all

lemma next_of_label {s s' : NameIter} {label : Span}
    (h : s.pass memory = .ok (.label label s')) :
    s.next memory = .ok (some (.ok label), s') := by
  rw [next]
  split <;> simp_all

lemma next_of_pointer {s s' : NameIter} (h : s.pass memory = .ok (.pointer s')) :
    s.next memory = s'.next memory := by
  rw [next]
  split <;> simp_all

/-! ### Iterating -/

/-- The calls of `next` up to the first one that returns `None` or an error return `l`. -/
inductive Yields (memory : ℕ → UInt8) : NameIter → List (Except WireError Span) → Prop where
  | finished {s s' : NameIter} (h : s.next memory = .ok (none, s')) : Yields memory s []
  | error {s s' : NameIter} {e : WireError} (h : s.next memory = .ok (some (.error e), s')) :
      Yields memory s [.error e]
  | label {s s' : NameIter} {label : Span} {l : List (Except WireError Span)}
      (h : s.next memory = .ok (some (.ok label), s')) (hrest : Yields memory s' l) :
      Yields memory s (.ok label :: l)

/-- The passes of the loop over all these calls, each with the iterator that it starts with. -/
inductive Trace (memory : ℕ → UInt8) : NameIter → List (NameIter × Pass) → Prop where
  | last {s : NameIter} {p : Pass} (h : s.pass memory = .ok p) (hp : p.next = none) :
      Trace memory s [(s, p)]
  | cons {s s' : NameIter} {p : Pass} {t : List (NameIter × Pass)} (h : s.pass memory = .ok p)
      (hp : p.next = some s') (hrest : Trace memory s' t) : Trace memory s ((s, p) :: t)

/-- What a pass returns to the caller, other than `None`. -/
def item : NameIter × Pass → Option (Except WireError Span)
  | (_, .malformed) => some (.error .mk)
  | (_, .label label _) => some (.ok label)
  | _ => none

lemma Yields.of_pointer {s s' : NameIter} {l : List (Except WireError Span)}
    (h : s.pass memory = .ok (.pointer s')) (hyields : Yields memory s' l) : Yields memory s l := by
  have hnext := next_of_pointer h
  cases hyields with
  | finished h => exact .finished (hnext.trans h)
  | error h => exact .error (hnext.trans h)
  | label h hrest => exact .label (hnext.trans h) hrest

/-- There are only finitely many passes, and none of them panics. -/
theorem exists_trace (memory : ℕ → UInt8) (s : NameIter) : ∃ t, Trace memory s t := by
  induction hn : s.packet.len + s.bytes.len using Nat.strong_induction_on generalizing s with
  | _ n ih =>
    subst hn
    have hpass : s.pass memory = .ok (s.read memory) := pass_eq s
    cases hp : (s.read memory).next with
    | none => exact ⟨_, .last hpass hp⟩
    | some s' =>
      obtain ⟨t, ht⟩ := ih _ (s.reads.size_lt hp) s' rfl
      exact ⟨_, .cons hpass hp ht⟩

namespace Trace

variable {s s' : NameIter} {t t' : List (NameIter × Pass)}

lemma unique (h : Trace memory s t) (h' : Trace memory s t') : t = t' := by
  induction h generalizing t' with
  | last hpass hp =>
    cases h' with
    | last hpass' =>
      rw [hpass] at hpass'
      cases hpass'
      rfl
    | cons hpass' hp' =>
      rw [hpass] at hpass'
      cases hpass'
      rw [hp] at hp'
      cases hp'
  | cons hpass hp _ ih =>
    cases h' with
    | last hpass' hp' =>
      rw [hpass] at hpass'
      cases hpass'
      rw [hp] at hp'
      cases hp'
    | cons hpass' hp' hrest =>
      rw [hpass] at hpass'
      cases hpass'
      rw [hp] at hp'
      cases hp'
      rw [ih hrest]

/-- Iterating comes to its end, with what the passes return. -/
theorem yields (h : Trace memory s t) : Yields memory s (t.filterMap item) := by
  induction h with
  | @last s p hpass hp =>
    cases p with
    | finished => exact .finished (next_of_finished hpass)
    | malformed => exact .error (next_of_malformed hpass)
    | label | pointer => cases hp
  | @cons s s' p t hpass hp _ ih =>
    cases p with
    | finished | malformed => cases hp
    | label label =>
      cases hp
      exact .label (next_of_label hpass) ih
    | pointer =>
      cases hp
      exact ih.of_pointer hpass

end Trace

/-! ### The octets themselves -/

lemma parseName_eq (packet : List UInt8) (s : Span) :
    parseName packet (s.read memory) =
      match front memory s with
      | .root => []
      | .label n =>
        .ok (((s.take (1 + n)).drop 1).read memory) :: parseName packet
          ((s.drop (1 + n)).read memory)
      | .pointer ptr =>
        if packet.length ≤ ptr then [.error .mk]
        else parseName (packet.take ptr) (packet.drop ptr)
      | .malformed => [.error .mk] := by
  unfold front
  by_cases hlen : s.len = 0
  · rw [if_pos hlen, List.eq_nil_of_length_eq_zero (Span.length_read.trans hlen), parseName]
  · have hrest : ((s.drop 1).read memory).length = s.len - 1 := Span.length_read
    rw [if_neg hlen, Span.read_cons (Nat.pos_of_ne_zero hlen), parseName.eq_def]
    dsimp only
    split_ifs with hroot hclear hcut hshort hshort hset hcut
    · rfl
    · rfl
    · omega
    · omega
    · simp only [Span.read_drop, Span.read_take, List.drop_take, List.drop_drop,
        Nat.add_sub_cancel_left]
    · have hnil : (s.drop 1).read memory = [] := List.eq_nil_of_length_eq_zero (by omega)
      rw [hnil]
    · rw [Span.read_cons (by simp; omega)]
      rfl
    · rfl

/-- What is returned are the labels that `parseName` finds. -/
theorem Trace.parseName_eq {s : NameIter} {t : List (NameIter × Pass)} (h : Trace memory s t) :
    (t.filterMap item).map (Except.map (Span.read memory)) =
      parseName (s.packet.read memory) (s.bytes.read memory) := by
  induction h with
  | @last s p hpass hp =>
    rw [NameIter.parseName_eq]
    cases Reads.of_pass hpass with
    | finished hfront =>
      rw [hfront]
      rfl
    | beyond hfront hptr =>
      rw [hfront]
      dsimp only
      rw [if_pos (Span.length_read.trans_le hptr)]
      rfl
    | malformed hfront =>
      rw [hfront]
      rfl
    | label | pointer => cases hp
  | @cons s s' p t hpass hp _ ih =>
    rw [NameIter.parseName_eq]
    cases Reads.of_pass hpass with
    | finished | beyond | malformed => cases hp
    | label hfront =>
      cases hp
      rw [hfront]
      exact congrArg (_ :: ·) ih
    | pointer hfront hptr =>
      cases hp
      rw [hfront]
      dsimp only
      rw [if_neg (by rwa [Span.length_read, not_le]), ← Span.read_take, ← Span.read_drop]
      exact ih

end NameIter

end Dns

end Smoltcp
