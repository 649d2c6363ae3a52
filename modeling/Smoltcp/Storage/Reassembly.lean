import Smoltcp.Storage.Assembler.Properties
import Smoltcp.Storage.RingBuffer.Properties

/-!
# Reassembly of a stream

A ring buffer and an assembler that work together: the allocated part of the buffer is the start of
a stream, and what the assembler has recorded as present lies at its place behind it. Octets may
come in any order and more than once.
-/

namespace Smoltcp

variable {α : Type} {stream payload : List α} {rb rb' : RingBuffer α} {asm asm' : Assembler}
  {offset n : ℕ}

/-- The buffer holds the start of `stream`, and behind it what the assembler has recorded. -/
structure Reassembles (stream : List α) (rb : RingBuffer α) (asm : Assembler) : Prop where
  stored : rb.toList <+: stream
  ahead : ∀ p, asm.Covers p →
    rb.len + p < stream.length ∧ rb.view[rb.len + p]? = stream[rb.len + p]?

namespace Reassembles

lemma of_empty (hlen : rb.len = 0) (hasm : ∀ p, ¬ asm.Covers p) : Reassembles stream rb asm where
  stored := by
    have hnil : rb.toList = [] := List.length_eq_zero_iff.mp (by rw [rb.length_toList, hlen])
    rw [hnil]
    exact List.nil_prefix
  ahead p hp := absurd hp (hasm p)

lemma len_le (h : Reassembles stream rb asm) : rb.len ≤ stream.length := by
  rw [← rb.length_toList]
  exact h.stored.length_le

lemma getElem?_view (h : Reassembles stream rb asm) {i : ℕ} (hi : i < rb.len) :
    rb.view[i]? = stream[i]? := by
  have hget := (List.prefix_iff_getElem?.mp h.stored) i (by rwa [rb.length_toList])
  rw [hget, ← List.getElem?_eq_getElem, RingBuffer.toList, List.getElem?_take_of_lt hi]

/-- Taking octets from the front takes them from the stream. -/
theorem dequeue (h : Reassembles stream rb asm) (hcovers : ∀ p, asm.Covers p → p < rb.window)
    (hs : rb.Shrinks rb' n) (hlist : rb'.toList = rb.toList.drop n) :
    Reassembles (stream.drop n) rb' asm where
  stored := by
    rw [hlist]
    exact h.stored.drop n
  ahead p hp := by
    obtain ⟨hlt, hview⟩ := h.ahead p hp
    have hle := hs.le
    have hlen := hs.len
    have hwin := hcovers p hp
    have hcap := rb.len_add_window
    have hun := hs.unallocated (rb.len + p) (by omega) (by omega)
    have hidx : rb'.len + p = rb.len + p - n := by omega
    refine ⟨by rw [List.length_drop]; omega, ?_⟩
    rw [hidx, hun, hview, List.getElem?_drop]
    congr 1
    omega

/-- A payload of the stream, put at its place, keeps the buffer in line with the stream. -/
theorem store (h : Reassembles stream rb asm) (hwin : offset + payload.length ≤ rb.window)
    (hpay : payload <+: stream.drop (rb.len + offset))
    (hadd : asm.addThenRemoveFront offset payload.length = .ok (asm', n))
    (hlen : rb'.len = rb.len + n)
    (hview : rb'.view = rb.view.overwrite (rb.len + offset) payload) :
    Reassembles stream rb' asm' := by
  obtain ⟨hfront, -, hcovers⟩ := Assembler.addThenRemoveFront_spec hadd
  have hcap := rb.len_add_window
  have hover := List.getElem?_overwrite (l := rb.view) (d := payload) (i := rb.len + offset)
    (by rw [rb.length_view]; omega)
  have hpaylen : offset + payload.length + rb.len ≤ stream.length ∨ payload.length = 0 := by
    have := hpay.length_le
    rw [List.length_drop] at this
    omega
  -- every position that is now present agrees with the stream
  have hagree : ∀ p, asm.Covers p ∨ offset ≤ p ∧ p < offset + payload.length →
      rb.len + p < stream.length ∧ rb'.view[rb.len + p]? = stream[rb.len + p]? := by
    intro p hp
    rw [hview, hover]
    by_cases hin : offset ≤ p ∧ p < offset + payload.length
    · have hsub : rb.len + p - (rb.len + offset) = p - offset := by omega
      have hget := (List.prefix_iff_getElem?.mp hpay) (p - offset) (by omega)
      rw [List.getElem?_drop, Nat.add_assoc, Nat.add_sub_cancel' hin.1] at hget
      rw [if_pos (by omega), hsub, hget]
      exact ⟨by omega, List.getElem?_eq_getElem (by omega)⟩
    · have hold := hp.resolve_right hin
      rw [if_neg (by omega)]
      exact h.ahead p hold
  refine ⟨?_, ?_⟩
  · rw [List.prefix_iff_getElem?]
    intro i hi
    have hi' : i < rb.len + n := by rwa [rb'.length_toList, hlen] at hi
    rw [← List.getElem?_eq_getElem, RingBuffer.toList, List.getElem?_take_of_lt (by omega)]
    by_cases hold : i < rb.len
    · rw [hview, hover, if_neg (by omega), h.getElem?_view hold]
    · obtain ⟨-, hat⟩ := hagree (i - rb.len) (hfront _ (by omega))
      rw [Nat.add_sub_cancel' (by omega)] at hat
      exact hat.symm
  · intro p hp
    obtain ⟨hlt, hat⟩ := hagree (p + n) ((hcovers p).mp hp)
    have hidx : rb'.len + p = rb.len + (p + n) := by omega
    rw [hidx]
    exact ⟨hlt, hat⟩

/-- Where the payload is the whole rest of the stream, all of the stream is then in the buffer. -/
theorem store_rest (h : Reassembles stream rb' asm')
    (hrest : rb.len + payload.length = stream.length)
    (hadd : asm.addThenRemoveFront 0 payload.length = .ok (asm', n)) (hlen : rb'.len = rb.len + n) :
    rb'.toList = stream := by
  obtain ⟨-, hzero, hcovers⟩ := Assembler.addThenRemoveFront_spec hadd
  have hn : payload.length ≤ n := by
    by_contra hlt
    exact hzero ((hcovers 0).mpr (.inr ⟨by omega, by omega⟩))
  have hle := h.len_le
  exact h.stored.eq_of_length (by rw [rb'.length_toList]; omega)

/-- A buffer that holds the whole stream has nothing ahead. -/
lemma not_covers (h : Reassembles stream rb asm) (hall : rb.toList = stream) (p : ℕ) :
    ¬ asm.Covers p := by
  intro hp
  have hlt := (h.ahead p hp).1
  rw [← hall, rb.length_toList] at hlt
  omega

end Reassembles

end Smoltcp
