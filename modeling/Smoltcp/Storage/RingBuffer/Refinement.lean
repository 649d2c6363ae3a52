import Smoltcp.Lib.Machine
import Smoltcp.Storage.RingBuffer.Properties

/-!
# The ring buffer refines a bounded queue

The abstract queue keeps its elements in order and, behind them, the free places with what was left
or staged there. Nothing of it depends on where the ring wraps around, except how much of the queue
or of the free places a closure is handed at once. A queue that is empty may turn its free places
around when many elements are enqueued.
-/

namespace Smoltcp.RingBuffer

open Machine

variable {α ε ρ : Type}

/-! ### The queue -/

structure Fifo (α : Type) where
  queue : List α
  spare : List α

namespace Fifo

variable (a : Fifo α)

def enqueueOneWith (f : α → α × Except ε ρ) : Fifo α × Except Storage.Full (Except ε ρ) :=
  match a.spare with
  | [] => (a, .error .mk)
  | x :: spare =>
    match (f x).2 with
    | .ok r => (⟨a.queue ++ [(f x).1], spare⟩, .ok (.ok r))
    | .error e => (⟨a.queue, (f x).1 :: spare⟩, .ok (.error e))

def dequeueOneWith (f : α → α × Except ε ρ) : Fifo α × Except Storage.Empty (Except ε ρ) :=
  match a.queue with
  | [] => (a, .error .mk)
  | x :: queue =>
    match (f x).2 with
    | .ok r => (⟨queue, a.spare ++ [(f x).1]⟩, .ok (.ok r))
    | .error e => (⟨(f x).1 :: queue, a.spare⟩, .ok (.error e))

/-- The closure is handed the first `k` free places. -/
def enqueueManyWith (k : ℕ) (f : Callback α ρ) : Checked (Fifo α × ℕ × ρ) :=
  let out := f (a.spare.take k)
  if out.size ≤ k then
    .ok (⟨a.queue ++ out.buf.take out.size, out.buf.drop out.size ++ a.spare.drop k⟩,
      out.size, out.result)
  else .error .assertFailed

/-- The closure is handed the first `k` elements. -/
def dequeueManyWith (k : ℕ) (f : Callback α ρ) : Checked (Fifo α × ℕ × ρ) :=
  let out := f (a.queue.take k)
  if out.size ≤ k then
    .ok (⟨out.buf.drop out.size ++ a.queue.drop k, a.spare ++ out.buf.take out.size⟩,
      out.size, out.result)
  else .error .assertFailed

/-- The first `n` elements leave, and their places become free. -/
def dequeue (n : ℕ) : Fifo α := ⟨a.queue.drop n, a.spare ++ a.queue.take n⟩

/-- The first `n` free places become elements. -/
def enqueue (n : ℕ) : Fifo α := ⟨a.queue ++ a.spare.take n, a.spare.drop n⟩

/-- Data is placed into the free places, as much as fits. -/
def write (offset : ℕ) (data : List α) : Fifo α × ℕ :=
  let n := min (a.spare.length - offset) data.length
  (⟨a.queue, a.spare.overwrite offset (data.take n)⟩, n)

/-- The free places of an empty queue may have turned around. -/
structure Restarts (a₁ : Fifo α) : Prop where
  queue_eq : a₁.queue = a.queue
  rotated : a₁.spare ~r a.spare
  eq_of_ne : a.queue ≠ [] → a₁ = a

end Fifo

/-- A part of `l` of length `k` that is empty only if `l` is. -/
structure Contiguous (l : List α) (k : ℕ) : Prop where
  le : k ≤ l.length
  pos : l ≠ [] → 0 < k

/-! ### Abstraction -/

section Abstraction

variable (rb : RingBuffer α)

def fifo : Fifo α := ⟨rb.toList, rb.view.drop rb.len⟩

lemma view_eq : rb.view = rb.fifo.queue ++ rb.fifo.spare := (List.take_append_drop _ _).symm

@[simp] lemma length_queue : rb.fifo.queue.length = rb.len := rb.length_toList

@[simp] lemma length_spare : rb.fifo.spare.length = rb.window := by
  simp [fifo, window]

lemma fifo_eq {rb' : RingBuffer α} {queue spare : List α} (hview : rb'.view = queue ++ spare)
    (hlen : rb'.len = queue.length) : rb'.fifo = ⟨queue, spare⟩ := by
  rw [fifo, toList, hview, hlen]
  simp

lemma view_setElem {k : ℕ} (hk : k < rb.capacity) (x : α) :
    (rb.setElem (rb.getIdx k) x).view = rb.view.overwrite k [x] := by
  have hlt : rb.getIdx k < rb.capacity := by
    have := rb.getIdx_lt k
    omega
  have hcopy := rb.rotate_overwrite (k := k) (d := [x]) (by simpa using hk) (by simpa using hlt)
  rw [← List.set_eq_overwrite hlt] at hcopy
  exact hcopy

lemma getIdxUnchecked_eq (h : 0 < rb.capacity) (idx : ℕ) :
    ∃ i, rb.getIdxUnchecked idx = .ok i ∧ i.1 = rb.getIdx idx := by
  rw [getIdxUnchecked, dif_pos h, getIdx, if_pos h]
  exact ⟨_, rfl, rfl⟩

/-- The element of the storage at the place of element `k`. -/
lemma index_storage {k : ℕ} {x : α} (hk : k < rb.capacity) (hx : rb.view[k]? = some x) :
    Checked.index rb.storage (rb.getIdx k) = .ok x :=
  Checked.index_of (by rw [← rb.getElem?_view hk, hx])

lemma enqueueOneWith_refines (f : α → α × Except ε ρ) :
    ∃ rb', rb.enqueueOneWith f = .ok (rb', (rb.fifo.enqueueOneWith f).2) ∧
      rb'.fifo = (rb.fifo.enqueueOneWith f).1 := by
  have hview := rb.view_eq
  have hlen := rb.length_queue
  have hlenspare := rb.length_spare
  have hwin := rb.len_add_window
  unfold enqueueOneWith Fifo.enqueueOneWith
  cases hspare : rb.fifo.spare with
  | nil =>
    rw [hspare, List.length_nil] at hlenspare
    rw [dif_pos (show rb.isFull from hlenspare.symm)]
    exact ⟨rb, rfl, rfl⟩
  | cons x spare =>
    rw [hspare, List.length_cons] at hlenspare
    have hfull : ¬ rb.isFull := by
      unfold isFull
      omega
    obtain ⟨i, hi, hidx⟩ := rb.getIdxUnchecked_eq (by omega) rb.length
    have hx : rb.view[rb.len]? = some x := by
      rw [hview, hspare, List.getElem?_append_right hlen.le, hlen]
      simp
    have hover : rb.view.overwrite rb.len [(f x).1] = rb.fifo.queue ++ (f x).1 :: spare := by
      rw [hview, hspare, ← hlen, ← Nat.add_zero rb.fifo.queue.length, List.overwrite_append_right]
      simp [List.overwrite_zero]
    have hset := rb.view_setElem (k := rb.len) (by omega) (f x).1
    have hindex := rb.index_storage (by omega) hx
    rw [hover] at hset
    rw [show rb.getIdx rb.len = i.1 from hidx.symm] at hset hindex
    rw [dif_neg hfull, hi, Checked.ok_bind, hindex, Checked.ok_bind]
    cases hf : (f x).2 with
    | ok r =>
      simp only [hf]
      refine ⟨_, rfl, fifo_eq ?_ ?_⟩
      · rw [List.append_assoc]
        exact hset
      · rw [List.length_append, hlen]
        rfl
    | error e =>
      simp only [hf]
      exact ⟨_, rfl, fifo_eq hset hlen.symm⟩

lemma dequeueOneWith_refines (f : α → α × Except ε ρ) :
    ∃ rb', rb.dequeueOneWith f = .ok (rb', (rb.fifo.dequeueOneWith f).2) ∧
      rb'.fifo = (rb.fifo.dequeueOneWith f).1 := by
  have hview := rb.view_eq
  have hlen := rb.length_queue
  have hle := rb.len_le
  unfold dequeueOneWith Fifo.dequeueOneWith
  cases hqueue : rb.fifo.queue with
  | nil =>
    rw [hqueue, List.length_nil] at hlen
    rw [if_pos (show rb.isEmpty from hlen.symm)]
    exact ⟨rb, rfl, rfl⟩
  | cons x queue =>
    rw [hqueue, List.length_cons] at hlen
    have hempty : ¬ rb.isEmpty := by
      unfold isEmpty
      omega
    obtain ⟨i, hi, hidx⟩ := rb.getIdxUnchecked_eq (by omega) 1
    have hx : rb.view[0]? = some x := by
      rw [hview, hqueue]
      rfl
    have hover : rb.view.overwrite 0 [(f x).1] = (f x).1 :: queue ++ rb.fifo.spare := by
      rw [hview, hqueue, List.overwrite_zero]
      simp
    have hset := rb.view_setElem (k := 0) (by omega) (f x).1
    have hindex := rb.index_storage (by omega) hx
    rw [← readAt_eq_getIdx_zero] at hset hindex
    rw [hover] at hset
    rw [if_neg hempty, hi, Checked.ok_bind, hindex, Checked.ok_bind]
    cases hf : (f x).2 with
    | ok r =>
      simp only [hf]
      refine ⟨_, rfl, fifo_eq ?_ ?_⟩
      · have hrot := (rb.setElem rb.readAt (f x).1).rotate_getIdx 1
        have hget : (rb.setElem rb.readAt (f x).1).getIdx 1 = rb.getIdx 1 := by
          have hcap : (rb.setElem rb.readAt (f x).1).capacity = rb.capacity := List.length_set ..
          unfold getIdx
          rw [hcap]
          rfl
        rw [hset, hget, ← hidx] at hrot
        exact hrot.trans (by simp)
      · change rb.length - 1 = queue.length
        exact Nat.sub_eq_of_eq_add hlen.symm
    | error e =>
      simp only [hf]
      exact ⟨_, rfl, fifo_eq hset hlen.symm⟩

lemma spare_restart : rb.fifo.Restarts rb.restart.fifo := by
  refine ⟨rb.toList_restart, ?_, ?_⟩
  · by_cases h : rb.len = 0
    · have hview : rb.restart.view = rb.storage := by
        rw [restart, if_pos h, view]
        simp
      simp only [fifo, len_restart, h, List.drop_zero, hview]
      exact ⟨rb.readAt, rfl⟩
    · rw [restart, if_neg h]
  · intro hne
    have h : rb.len ≠ 0 := by
      rw [← length_queue]
      exact fun h => hne (List.length_eq_zero_iff.mp h)
    rw [restart, if_neg h]

lemma contiguous_spare : Contiguous rb.fifo.spare rb.contiguousWindow := by
  have hlen := rb.length_spare
  refine ⟨?_, fun hne => ?_⟩
  · rw [hlen]
    exact Nat.min_le_left _ _
  · have hpos := List.length_pos_iff.mpr hne
    have hidx := rb.getIdx_lt rb.len
    have hwin := rb.window_le_capacity
    unfold contiguousWindow
    omega

/-- The part of the free places that a closure is handed. -/
lemma writeSlice_eq : rb.writeSlice = rb.restart.fifo.spare.take rb.restart.contiguousWindow := by
  have hidx := rb.restart.getIdx_le rb.restart.len
  have hwin := rb.restart.len_add_window
  unfold writeSlice
  rw [drop_getIdx_take]
  · rfl
  · unfold contiguousWindow
    omega
  · unfold contiguousWindow
    omega

/-- What many elements are enqueued into, and where. -/
lemma enqueueManyWith_refines (f : Callback α ρ) :
    Matches (fun rb' a => rb'.fifo = a ∧ rb'.readAt = rb.restart.readAt ∧
        rb'.capacity = rb.capacity) (rb.enqueueManyWith f)
      (rb.restart.fifo.enqueueManyWith rb.restart.contiguousWindow f) := by
  have hslice := rb.writeSlice_eq
  have hidx := rb.restart.getIdx_le rb.restart.len
  have hwin := rb.restart.len_add_window
  have hbuf : (f rb.writeSlice).buf.length = rb.restart.contiguousWindow := by
    rw [(f rb.writeSlice).length_buf, length_writeSlice]
  have hle : rb.restart.contiguousWindow ≤ rb.restart.window := Nat.min_le_left _ _
  have hend : rb.restart.getIdx rb.restart.len + (f rb.writeSlice).buf.length
      ≤ rb.restart.capacity := by
    rw [hbuf]
    unfold contiguousWindow
    omega
  unfold Fifo.enqueueManyWith
  rw [← hslice]
  by_cases hs : (f rb.writeSlice).size ≤ rb.restart.contiguousWindow
  · obtain ⟨rb', hok, hstorage, hread, hlen⟩ : ∃ rb', rb.enqueueManyWith f =
          .ok (rb', (f rb.writeSlice).size, (f rb.writeSlice).result) ∧
        rb'.storage = rb.restart.storage.overwrite (rb.restart.getIdx rb.restart.len)
          (f rb.writeSlice).buf ∧ rb'.readAt = rb.restart.readAt ∧
        rb'.len = rb.restart.len + (f rb.writeSlice).size := ⟨_, dif_pos hs, rfl, rfl, rfl⟩
    rw [if_pos hs, hok]
    refine .ok _ ⟨fifo_eq ?_ ?_, hread, ?_⟩
    · have hzero := rb.restart.length_queue.symm
      rw [view, hstorage, hread, rb.restart.rotate_overwrite (by omega) hend, view_eq, hzero,
        ← Nat.add_zero rb.restart.fifo.queue.length, List.overwrite_append_right,
        List.overwrite_zero, hbuf, List.append_assoc, ← List.append_assoc (List.take _ _),
        List.take_append_drop]
    · rw [List.length_append, List.length_take, hbuf, Nat.min_eq_left hs, length_queue, hlen]
    · rw [← rb.capacity_restart, capacity, hstorage]
      exact List.length_overwrite hend
  · rw [if_neg hs, show rb.enqueueManyWith f = .error .assertFailed from dif_neg hs]
    exact .error _

/-- The part of the queue that a closure is handed. -/
lemma contiguous_queue : Contiguous rb.fifo.queue (min rb.len (rb.capacity - rb.readAt)) := by
  have hlen := rb.length_queue
  refine ⟨?_, fun hne => ?_⟩
  · rw [hlen]
    exact Nat.min_le_left _ _
  · have hpos := List.length_pos_iff.mpr hne
    have hread : rb.readAt < max rb.capacity 1 := rb.readAt_lt
    have hle := rb.len_le
    omega

/-- What many elements are dequeued from, and where the ring goes on. -/
lemma dequeueManyWith_refines (f : Callback α ρ) :
    Matches (fun rb' a => rb'.fifo = a ∧ rb'.readAt = rb.getIdx (f rb.readSlice).size ∧
        rb'.capacity = rb.capacity) (rb.dequeueManyWith f)
      (rb.fifo.dequeueManyWith (min rb.len (rb.capacity - rb.readAt)) f) := by
  have hslice : rb.readSlice = rb.fifo.queue.take (min rb.len (rb.capacity - rb.readAt)) :=
    rb.readSlice_eq
  have hbuf : (f rb.readSlice).buf.length = min rb.len (rb.capacity - rb.readAt) := by
    rw [(f rb.readSlice).length_buf, length_readSlice]
  have hread : rb.readAt < max rb.capacity 1 := rb.readAt_lt
  have hle := rb.len_le
  have hqueue := rb.length_queue
  have hend : rb.readAt + (f rb.readSlice).buf.length ≤ rb.capacity := by omega
  unfold Fifo.dequeueManyWith
  rw [← hslice]
  by_cases hs : (f rb.readSlice).size ≤ min rb.len (rb.capacity - rb.readAt)
  · obtain ⟨rb', hok, hstorage, hread', hlen⟩ : ∃ rb', rb.dequeueManyWith f =
          .ok (rb', (f rb.readSlice).size, (f rb.readSlice).result) ∧
        rb'.storage = rb.storage.overwrite rb.readAt (f rb.readSlice).buf ∧
        rb'.readAt = rb.getIdx (f rb.readSlice).size ∧
        rb'.len = rb.len - (f rb.readSlice).size := ⟨_, dif_pos hs, rfl, rfl, rfl⟩
    have hcap : rb'.capacity = rb.capacity := by
      rw [capacity, hstorage]
      exact List.length_overwrite hend
    rw [if_pos hs, hok]
    refine .ok _ ⟨fifo_eq ?_ ?_, hread', hcap⟩
    · -- the elements are written at the front of the view, which then moves on
      have hcopy := rb.rotate_overwrite (k := 0) (d := (f rb.readSlice).buf) (by omega)
        (by rw [← readAt_eq_getIdx_zero]; exact hend)
      rw [← readAt_eq_getIdx_zero] at hcopy
      have hrot : rb'.storage.rotate rb'.readAt =
          (rb'.storage.rotate rb.readAt).rotate (f rb.readSlice).size := by
        rw [List.rotate_rotate, hread', getIdx]
        split_ifs with hpos
        · rw [← hcap]
          exact List.rotate_mod _ _
        · have hnil : rb'.storage = [] := List.length_eq_zero_iff.mp (by
            unfold capacity at hcap hpos
            omega)
          simp [hnil]
      rw [view, hrot, hstorage, hcopy, view_eq, List.overwrite_append_left (by omega),
        List.overwrite_zero, hbuf, List.rotate_eq_drop_append_take (by simp; omega),
        List.append_assoc (f rb.readSlice).buf, List.drop_append_of_le_length (by omega),
        List.take_append_of_le_length (by omega)]
      simp only [List.append_assoc]
    · rw [List.length_append, List.length_drop, hbuf, List.length_drop, hqueue, hlen]
      omega
  · rw [if_neg hs, show rb.dequeueManyWith f = .error .assertFailed from dif_neg hs]
    exact .error _

end Abstraction

/-! ### Slices -/

namespace Fifo

variable {a : Fifo α} {k : ℕ}

/-- Copying into the free places. -/
lemma enqueueManyWith_copyFrom (hk : k ≤ a.spare.length) (data : List α) :
    a.enqueueManyWith k (.copyFrom data) =
      .ok (⟨a.queue ++ data.take (min k data.length), a.spare.drop (min k data.length)⟩,
        min k data.length, data.drop (min k data.length)) := by
  have hlen : (a.spare.take k).length = k := by simpa using hk
  have htake : (data.take (min k data.length)).length = min k data.length := by simp
  have hsplit := List.drop_take_append_drop a.spare (min k data.length) (k - min k data.length)
  rw [Nat.add_sub_cancel' (Nat.min_le_left _ _)] at hsplit
  unfold enqueueManyWith
  simp only [Callback.copyFrom, hlen]
  rw [if_pos (Nat.min_le_left _ _), List.take_append_of_le_length htake.ge, List.take_take,
    Nat.min_self, List.drop_append_of_le_length htake.ge, List.drop_of_length_le htake.le,
    List.nil_append, List.drop_take, hsplit]

/-- Reading from the front of the queue. -/
lemma dequeueManyWith_readTo (hk : k ≤ a.queue.length) (n : ℕ) :
    a.dequeueManyWith k (.readTo n) =
      .ok (a.dequeue (min k n), min k n, a.queue.take (min k n)) := by
  have hlen : (a.queue.take k).length = k := by simpa using hk
  have hsplit := List.drop_take_append_drop a.queue (min k n) (k - min k n)
  rw [Nat.add_sub_cancel' (Nat.min_le_left _ _)] at hsplit
  unfold dequeueManyWith dequeue
  simp only [Callback.readTo, hlen]
  rw [if_pos (Nat.min_le_left _ _), List.drop_take, hsplit, List.take_take,
    Nat.min_eq_left (Nat.min_le_left k n)]

/-- The first `k` elements of a list with what the caller makes of the first `n` of them. -/
lemma takeTo_eq {l : List α} (hk : k ≤ l.length) (n : ℕ) (write : Writer α) {m : ℕ}
    (hm : m = min n k) :
    (Callback.takeTo n write (l.take k)).size = m ∧
      (Callback.takeTo n write (l.take k)).result = l.take m ∧
      (Callback.takeTo n write (l.take k)).buf.take m = (write (l.take m)).1 ∧
      (Callback.takeTo n write (l.take k)).buf.drop m ++ l.drop k = l.drop m := by
  have hlen : min n (l.take k).length = m := by
    rw [List.length_take, Nat.min_eq_left hk, hm]
  have harg : (l.take k).take m = l.take m := by
    rw [List.take_take, Nat.min_eq_left (hm ▸ Nat.min_le_right n k)]
  have hbuf : (Callback.takeTo n write (l.take k)).buf = (write (l.take m)).1 ++
    (l.take k).drop m := by
    rw [← congrArg (fun t => (write t).1) harg, ← hlen]
    rfl
  have hwrite : (write (l.take m)).1.length = m := by
    rw [(write _).2, List.length_take]
    omega
  have hsplit := List.drop_take_append_drop l m (k - m)
  rw [Nat.add_sub_cancel' (hm ▸ Nat.min_le_right n k)] at hsplit
  refine ⟨hlen, ?_, ?_, ?_⟩
  · rw [← harg, ← hlen]
    rfl
  · rw [hbuf, List.take_append_of_le_length hwrite.ge, List.take_of_length_le hwrite.le]
  · rw [hbuf, List.drop_append_of_le_length hwrite.ge, List.drop_of_length_le hwrite.le,
      List.nil_append, List.drop_take, hsplit]

/-- Taking free places that the caller then writes. -/
lemma enqueueManyWith_takeTo (hk : k ≤ a.spare.length) (n : ℕ) (write : Writer α) :
    a.enqueueManyWith k (.takeTo n write) =
      .ok (⟨a.queue ++ (write (a.spare.take (min n k))).1, a.spare.drop (min n k)⟩,
        min n k, a.spare.take (min n k)) := by
  obtain ⟨hsize, hresult, htake, hdrop⟩ := takeTo_eq hk n write rfl
  unfold enqueueManyWith
  simp only [hsize, hresult, htake, hdrop]
  rw [if_pos (Nat.min_le_right _ _)]

/-- Taking elements that the caller may then write. -/
lemma dequeueManyWith_takeTo (hk : k ≤ a.queue.length) (n : ℕ) (write : Writer α) :
    a.dequeueManyWith k (.takeTo n write) =
      .ok (⟨a.queue.drop (min n k), a.spare ++ (write (a.queue.take (min n k))).1⟩,
        min n k, a.queue.take (min n k)) := by
  obtain ⟨hsize, hresult, htake, hdrop⟩ := takeTo_eq hk n write rfl
  unfold dequeueManyWith
  simp only [hsize, hresult, htake, hdrop]
  rw [if_pos (Nat.min_le_right _ _)]

end Fifo

section Slices

variable (rb : RingBuffer α)

lemma enqueueManyWith_copy (data : List α) {n : ℕ}
    (hn : n = min rb.restart.contiguousWindow data.length) :
    ∃ rb', rb.enqueueManyWith (.copyFrom data) = .ok (rb', n, data.drop n) ∧
      rb'.fifo = ⟨rb.fifo.queue ++ data.take n, rb.restart.fifo.spare.drop n⟩ ∧
      rb'.readAt = rb.restart.readAt ∧ rb'.capacity = rb.capacity := by
  have h := rb.enqueueManyWith_refines (.copyFrom data)
  rw [Fifo.enqueueManyWith_copyFrom rb.restart.contiguous_spare.le, ← hn,
    rb.spare_restart.queue_eq] at h
  generalize rb.enqueueManyWith (.copyFrom data) = x at h
  cases h with
  | @ok rb' _ _ h => exact ⟨rb', rfl, h.1, h.2.1, h.2.2⟩

lemma dequeueManyWith_read (n : ℕ) {m : ℕ} (hm : m = min (min rb.len (rb.capacity - rb.readAt)) n) :
    ∃ rb', rb.dequeueManyWith (.readTo n) = .ok (rb', m, rb.fifo.queue.take m) ∧
      rb'.fifo = rb.fifo.dequeue m ∧ rb'.readAt = rb.getIdx m ∧ rb'.capacity = rb.capacity := by
  have h := rb.dequeueManyWith_refines (.readTo n)
  have hsize : (Callback.readTo n rb.readSlice).size = m := by
    simp only [Callback.readTo, length_readSlice, hm]
  rw [Fifo.dequeueManyWith_readTo rb.contiguous_queue.le, ← hm, hsize] at h
  generalize rb.dequeueManyWith (.readTo n) = x at h
  cases h with
  | @ok rb' _ _ h => exact ⟨rb', rfl, h.1, h.2.1, h.2.2⟩

/-- Where the free places do not wrap around, or the first part of them is filled, what is left is
contiguous. -/
lemma contiguousWindow_of_filled {rb' : RingBuffer α} {k : ℕ} (hk : k = rb.contiguousWindow)
    (hlen : rb'.len = rb.len + k) (hread : rb'.readAt = rb.readAt)
    (hcap : rb'.capacity = rb.capacity) : rb'.contiguousWindow = rb'.window := by
  have hwin := rb.len_add_window
  have hwin' := rb'.len_add_window
  have hread' : rb.readAt < max rb.capacity 1 := rb.readAt_lt
  unfold contiguousWindow at hk ⊢
  rcases Nat.eq_zero_or_pos rb.capacity with hz | hpos
  · omega
  · have hidx := rb.getIdx_eq (k := rb.len) (by omega) hpos
    have hidx' := rb'.getIdx_eq (k := rb'.len) (by omega) (by omega)
    rw [hread, hcap] at hidx'
    split_ifs at hidx hidx' <;> omega

lemma restart_of_ne (h : rb.len ≠ 0) : rb.restart = rb := if_neg h

/-- `enqueue_slice` fills the free places as far as the data goes. -/
lemma enqueueSlice_refines (data : List α) {n : ℕ} (hn : n = min rb.window data.length) :
    ∃ rb' a₁, rb.fifo.Restarts a₁ ∧ rb.enqueueSlice data = .ok (rb', n) ∧
      rb'.fifo = ⟨rb.fifo.queue ++ data.take n, a₁.spare.drop n⟩ := by
  have hk : rb.restart.contiguousWindow ≤ rb.restart.window := Nat.min_le_left _ _
  have hwin : rb.restart.window = rb.window := by rw [window, window, len_restart, capacity_restart]
  obtain ⟨rb₁, h₁, hf₁, hread₁, hcap₁⟩ := rb.enqueueManyWith_copy data rfl
  generalize hn₁ : min rb.restart.contiguousWindow data.length = n₁ at h₁ hf₁
  obtain ⟨rb₂, h₂, hf₂, -, -⟩ := rb₁.enqueueManyWith_copy (data.drop n₁) rfl
  generalize hn₂ : min rb₁.restart.contiguousWindow (data.drop n₁).length = n₂ at h₂ hf₂
  rw [List.length_drop] at hn₂
  have hok : rb.enqueueSlice data = .ok (rb₂, n₁ + n₂) := by
    simp only [enqueueSlice, h₁, Checked.ok_bind, h₂, Checked.pure_eq_ok]
  have hlen₁ : rb₁.len = rb.len + n₁ := by
    rw [← length_queue, hf₁, List.length_append, length_queue, List.length_take]
    omega
  by_cases hempty : rb₁.len = 0
  · -- nothing was enqueued, and nothing can be
    have hzero : n = 0 ∧ n₁ = 0 ∧ n₂ = 0 := by
      have hpos := rb.restart.contiguous_spare.pos
      rw [← List.length_pos_iff, length_spare] at hpos
      have hk₂ : rb₁.restart.contiguousWindow ≤ rb₁.restart.window := Nat.min_le_left _ _
      have hwin₁ : rb₁.restart.window = rb₁.window := by
        rw [window, window, len_restart, capacity_restart]
      have hsum := rb.len_add_window
      have hsum₁ := rb₁.len_add_window
      omega
    obtain ⟨rfl, rfl, rfl⟩ := hzero
    have hre := rb.spare_restart
    have hre₁ := rb₁.spare_restart
    rw [hf₁] at hre₁
    refine ⟨rb₂, rb₁.restart.fifo, ⟨?_, ?_, ?_⟩, hok, ?_⟩
    · rw [hre₁.queue_eq, List.take_zero, List.append_nil]
    · exact hre₁.rotated.trans hre.rotated
    · intro hne
      rw [← List.length_pos_iff, length_queue] at hne
      omega
    · rw [hf₂, hf₁]
      simp
  · have hsum : n₁ + n₂ = n := by
      rcases Nat.lt_or_ge rb.restart.contiguousWindow data.length with hlt | hge
      · have hk₁ : n₁ = rb.restart.contiguousWindow := by omega
        have hfilled := rb.restart.contiguousWindow_of_filled hk₁ (by rw [len_restart]; exact hlen₁)
          hread₁ (by rw [capacity_restart]; exact hcap₁)
        rw [rb₁.restart_of_ne hempty, hfilled] at hn₂
        have hsum := rb.len_add_window
        have hsum₁ := rb₁.len_add_window
        omega
      · omega
    refine ⟨rb₂, rb.restart.fifo, rb.spare_restart, by rw [hok, hsum], ?_⟩
    rw [hf₂, rb₁.restart_of_ne hempty, hf₁, ← hsum, List.drop_drop, List.append_assoc,
      ← List.take_add]

/-- Where the elements do not wrap around, or the first part of them is gone, what is left is
contiguous. -/
lemma readAt_of_emptied {k : ℕ} (hk : k = min rb.len (rb.capacity - rb.readAt)) (hlt : k < rb.len) :
    rb.getIdx k = 0 := by
  have hread : rb.readAt < max rb.capacity 1 := rb.readAt_lt
  have hle := rb.len_le
  have hidx := rb.getIdx_eq (k := k) (by omega) (by omega)
  split_ifs at hidx <;> omega

/-- What stops before the end of the request was stopped by the end of the storage. -/
lemma eq_of_min_lt {a b m : ℕ} (h : min a b = m) (hlt : m < a) : m = b := by omega

/-- A second pass takes what the first one left. -/
lemma add_min_sub {a b m : ℕ} (h : m ≤ min a b) : m + min (a - m) (b - m) = min a b := by
  rw [Nat.sub_min_sub_right, Nat.add_sub_cancel' h]

/-- `dequeue_slice` takes elements from the front as far as they or the slice go. -/
lemma dequeueSlice_refines (n : ℕ) :
    ∃ rb', rb.dequeueSlice n = .ok (rb', rb.fifo.queue.take n) ∧ rb'.fifo = rb.fifo.dequeue n := by
  have hqueue := rb.length_queue
  obtain ⟨rb₁, h₁, hf₁, hread₁, hcap₁⟩ := rb.dequeueManyWith_read n rfl
  generalize hm₁ : min (min rb.len (rb.capacity - rb.readAt)) n = m₁ at h₁ hf₁ hread₁
  obtain ⟨rb₂, h₂, hf₂, -, -⟩ := rb₁.dequeueManyWith_read (n - (rb.fifo.queue.take m₁).length) rfl
  rw [List.length_take, hqueue] at h₂ hf₂
  generalize hm₂ : min (min rb₁.len (rb₁.capacity - rb₁.readAt)) (n - min m₁ rb.len) = m₂ at h₂ hf₂
  have hlen₁ : rb₁.len = rb.len - m₁ := by
    rw [← length_queue, hf₁, Fifo.dequeue, List.length_drop, hqueue]
  have hle := rb.len_le
  -- the two passes take as much as one pass over an unwrapped queue would
  have hsum : m₁ + m₂ = min rb.len n := by
    have hle₁ : m₁ ≤ min rb.len n := by
      rw [← hm₁, Nat.min_right_comm]
      exact Nat.min_le_left _ _
    rw [hlen₁, hcap₁, Nat.min_eq_left (by omega : m₁ ≤ rb.len)] at hm₂
    rcases Nat.eq_or_lt_of_le hle₁ with hall | hlt
    · have hle₂ : m₂ ≤ rb.len - m₁ ∧ m₂ ≤ n - m₁ := by omega
      omega
    · rw [Nat.min_right_comm] at hm₁
      have hfull := eq_of_min_lt hm₁ hlt
      have hk : m₁ = min rb.len (rb.capacity - rb.readAt) := by omega
      rw [rb.readAt_of_emptied hk (by omega)] at hread₁
      rw [hread₁, Nat.min_eq_left (by omega : rb.len - m₁ ≤ rb.capacity - 0)] at hm₂
      rw [← hm₂, add_min_sub hle₁]
  have htake : rb.fifo.queue.take (m₁ + m₂) = rb.fifo.queue.take n := by
    rw [hsum, ← hqueue, Nat.min_comm, ← List.take_eq_take_min]
  have hdrop : rb.fifo.queue.drop (m₁ + m₂) = rb.fifo.queue.drop n := by
    rw [hsum, ← hqueue]
    rcases Nat.le_total n rb.fifo.queue.length with h | h
    · rw [Nat.min_eq_right h]
    · rw [Nat.min_eq_left h, List.drop_length, List.drop_of_length_le h]
  refine ⟨rb₂, ?_, ?_⟩
  · simp only [dequeueSlice, h₁, Checked.ok_bind, List.length_take, hqueue, h₂, Checked.pure_eq_ok]
    rw [hf₁, Fifo.dequeue, ← List.take_add, htake]
  · rw [hf₂, hf₁]
    simp only [Fifo.dequeue, List.drop_drop, List.append_assoc, ← List.take_add, htake, hdrop]

/-- `read_allocated` reads as far as the elements or the slice go. -/
lemma readAllocated_eq (offset n : ℕ) :
    rb.readAllocated offset n = (rb.fifo.queue.drop offset).take n := by
  have hqueue := rb.length_queue
  have hle := rb.len_le
  unfold readAllocated
  simp only [length_getAllocated]
  rw [getAllocated_eq, getAllocated_eq]
  change (rb.fifo.queue.drop offset).take _ ++ (rb.fifo.queue.drop _).take _ = _
  rw [← List.drop_drop, ← List.take_add]
  rcases Nat.lt_or_ge rb.len offset with hlt | hge
  · rw [List.drop_of_length_le (by omega)]
    simp
  · generalize hs₁ : rb.allocatedSize offset n = s₁
    generalize hs₂ : rb.allocatedSize (offset + s₁) (n - s₁) = s₂
    have hsum : s₁ + s₂ = min n (rb.len - offset) := by
      rw [allocatedSize, if_neg (by omega)] at hs₁
      have hle₁ : s₁ ≤ min n (rb.len - offset) := hs₁ ▸ Nat.min_le_left _ _
      rw [allocatedSize, if_neg (by omega), ← Nat.sub_sub] at hs₂
      rcases Nat.eq_or_lt_of_le hle₁ with hall | hlt
      · have hle₂ : s₂ ≤ min (n - s₁) (rb.len - offset - s₁) := hs₂ ▸ Nat.min_le_left _ _
        rw [Nat.sub_min_sub_right] at hle₂
        omega
      · have hfull := eq_of_min_lt hs₁ hlt
        rw [rb.getIdx_wrap hfull (by omega) (by omega), Nat.min_eq_left (by omega)] at hs₂
        rw [← hs₂, add_min_sub hle₁]
    rw [hsum, ← hqueue, ← List.length_drop, ← List.take_eq_take_min]

lemma dequeueAllocated_refines {count : ℕ} (h : count ≤ rb.len) :
    ∃ rb', rb.dequeueAllocated count = .ok rb' ∧ rb'.fifo = rb.fifo.dequeue count := by
  have hqueue := rb.length_queue
  refine ⟨_, if_pos h, fifo_eq ?_ ?_⟩
  · refine (rb.rotate_getIdx count).trans ?_
    rw [view_eq, List.rotate_eq_drop_append_take (by simp; omega),
      List.drop_append_of_le_length (by omega), List.take_append_of_le_length (by omega),
      List.append_assoc]
  · rw [List.length_drop, hqueue]
    rfl

lemma enqueueUnallocated_refines {count : ℕ} (h : count ≤ rb.window) :
    ∃ rb', rb.enqueueUnallocated count = .ok rb' ∧ rb'.fifo = rb.fifo.enqueue count := by
  obtain ⟨rb', hok, hlen, -, hview⟩ := rb.enqueueUnallocated_of_le h
  refine ⟨rb', hok, fifo_eq ?_ ?_⟩
  · rw [hview, view_eq, List.append_assoc, List.take_append_drop]
  · rw [hlen, List.length_append, length_queue, List.length_take, length_spare, Nat.min_eq_left h]

/-- Only what fits is written. -/
lemma copyUnallocated_take {offset : ℕ} (h : offset ≤ rb.window) (data : List α) :
    rb.copyUnallocated offset data =
      rb.copyUnallocated offset (data.take (rb.window - offset)) := by
  have hget : rb.getUnallocated offset (data.take (rb.window - offset)).length =
      rb.getUnallocated offset data.length := by
    simp only [getUnallocated, List.length_take]
    rw [if_neg (by omega), if_neg (by omega)]
    congr 2
    omega
  have hle : (rb.getUnallocated offset data.length).2 ≤ rb.window - offset := by
    simp only [getUnallocated]
    rw [if_neg (by omega)]
    omega
  simp only [copyUnallocated, hget, List.take_take, Nat.min_eq_left hle]

lemma copyUnallocated_of_lt {offset : ℕ} (h : rb.window < offset) (data : List α) :
    rb.copyUnallocated offset data = (rb, 0) := by
  have hget : (rb.getUnallocated offset data.length).2 = 0 := by
    simp only [getUnallocated]
    rw [if_pos h]
  simp only [copyUnallocated, hget, List.take_zero, List.overwrite_nil]

lemma window_copyUnallocated (offset : ℕ) (data : List α) :
    (rb.copyUnallocated offset data).1.window = rb.window := by
  rcases Nat.lt_or_ge rb.window offset with h | h
  · rw [rb.copyUnallocated_of_lt h]
  · rw [rb.copyUnallocated_take h]
    have hroom : offset + (data.take (rb.window - offset)).length ≤ rb.window := by
      rw [List.length_take]
      omega
    obtain ⟨-, hlen, hcap, -, -⟩ := rb.copyUnallocated_spec hroom
    generalize (rb.copyUnallocated offset (data.take (rb.window - offset))).1 = rb₁ at hlen hcap ⊢
    rw [window, window, hlen, hcap]

lemma copyUnallocated_le {offset : ℕ} (h : offset ≤ rb.window) (data : List α) :
    offset + (rb.copyUnallocated offset data).2 ≤ rb.window := by
  rw [rb.copyUnallocated_take h]
  have hroom : offset + (data.take (rb.window - offset)).length ≤ rb.window := by
    rw [List.length_take]
    omega
  obtain ⟨hn, -⟩ := rb.copyUnallocated_spec hroom
  rw [hn, List.length_take]
  omega

lemma writeUnallocated_take {offset : ℕ} (h : offset ≤ rb.window) (data : List α) :
    rb.writeUnallocated offset data =
      rb.writeUnallocated offset (data.take (rb.window - offset)) := by
  have hwin := rb.window_copyUnallocated offset data
  have hle := rb.copyUnallocated_le h data
  have hsub : rb.window - offset - (rb.copyUnallocated offset data).2 =
      rb.window - (offset + (rb.copyUnallocated offset data).2) := by omega
  unfold writeUnallocated
  rw [← rb.copyUnallocated_take h]
  generalize rb.copyUnallocated offset data = r at hwin hle hsub ⊢
  obtain ⟨rb₁, s₁⟩ := r
  simp only at hwin hle hsub ⊢
  rw [rb₁.copyUnallocated_take (by omega), hwin, List.drop_take, hsub]

/-- `write_unallocated` writes as far as the free places or the data go. -/
lemma writeUnallocated_refines (offset : ℕ) (data : List α) :
    ∃ rb', rb.writeUnallocated offset data = (rb', (rb.fifo.write offset data).2) ∧
      rb'.fifo = (rb.fifo.write offset data).1 := by
  have hspare := rb.length_spare
  unfold Fifo.write
  rw [hspare]
  rcases Nat.lt_or_ge rb.window offset with h | h
  · have hzero : rb.window - offset = 0 := by omega
    refine ⟨rb, ?_, ?_⟩
    · unfold writeUnallocated
      rw [rb.copyUnallocated_of_lt h]
      simp only [rb.copyUnallocated_of_lt h, Nat.add_zero, hzero, Nat.zero_min]
    · simp only [hzero, Nat.zero_min, List.take_zero, List.overwrite_nil]
  · have htake : data.take (rb.window - offset) =
      data.take (min (rb.window - offset) data.length) :=
      List.take_eq_take_min
    have hlen : (data.take (rb.window - offset)).length = min (rb.window - offset) data.length :=
      List.length_take
    have hroom : offset + (data.take (rb.window - offset)).length ≤ rb.window := by omega
    obtain ⟨rb', hok, hlen', -, hview⟩ := rb.writeUnallocated_spec hroom
    rw [hlen, ← rb.writeUnallocated_take h] at hok
    refine ⟨rb', hok, fifo_eq ?_ ?_⟩
    · rw [hview, view_eq, ← length_queue, List.overwrite_append_right, htake]
    · rw [hlen', length_queue]

end Slices

/-! ### Runs -/

inductive Op (α ε ρ : Type) where
  | enqueueOneWith (f : α → α × Except ε ρ)
  | enqueueOne (write : α → α)
  | dequeueOneWith (f : α → α × Except ε ρ)
  | dequeueOne (write : α → α)
  | enqueueManyWith (f : Callback α ρ)
  | enqueueMany (size : ℕ) (write : Writer α)
  | enqueueSlice (data : List α)
  | dequeueManyWith (f : Callback α ρ)
  | dequeueMany (size : ℕ) (write : Writer α)
  | dequeueSlice (n : ℕ)
  | getAllocated (offset size : ℕ)
  | readAllocated (offset n : ℕ)
  | dequeueAllocated (count : ℕ)
  | writeUnallocated (offset : ℕ) (data : List α)
  | enqueueUnallocated (count : ℕ)

/-- What an operation returns. -/
inductive Outcome (α ε ρ : Type) where
  | full
  | empty
  | result (r : Except ε ρ)
  | elem (x : α)
  | sized (size : ℕ) (r : ρ)
  | slice (elems : List α)
  | size (n : ℕ)
  | unit

namespace Outcome

def ofEnqueue : Except Storage.Full (Except ε ρ) → Outcome α ε ρ
  | .ok r => .result r
  | .error _ => .full

def ofDequeue : Except Storage.Empty (Except ε ρ) → Outcome α ε ρ
  | .ok r => .result r
  | .error _ => .empty

def ofEnqueued : Except Storage.Full α → Outcome α ε ρ
  | .ok x => .elem x
  | .error _ => .full

def ofDequeued : Except Storage.Empty α → Outcome α ε ρ
  | .ok x => .elem x
  | .error _ => .empty

end Outcome

def step (rb : RingBuffer α) : Op α ε ρ → Checked (RingBuffer α × Outcome α ε ρ)
  | .enqueueOneWith f => do
    let (rb, r) ← rb.enqueueOneWith f
    return (rb, .ofEnqueue r)
  | .enqueueOne write => do
    let (rb, r) ← rb.enqueueOne write
    return (rb, .ofEnqueued r)
  | .dequeueOneWith f => do
    let (rb, r) ← rb.dequeueOneWith f
    return (rb, .ofDequeue r)
  | .dequeueOne write => do
    let (rb, r) ← rb.dequeueOne write
    return (rb, .ofDequeued r)
  | .enqueueManyWith f => do
    let (rb, size, r) ← rb.enqueueManyWith f
    return (rb, .sized size r)
  | .enqueueMany size write => do
    let (rb, elems) ← rb.enqueueMany size write
    return (rb, .slice elems)
  | .enqueueSlice data => do
    let (rb, n) ← rb.enqueueSlice data
    return (rb, .size n)
  | .dequeueManyWith f => do
    let (rb, size, r) ← rb.dequeueManyWith f
    return (rb, .sized size r)
  | .dequeueMany size write => do
    let (rb, elems) ← rb.dequeueMany size write
    return (rb, .slice elems)
  | .dequeueSlice n => do
    let (rb, elems) ← rb.dequeueSlice n
    return (rb, .slice elems)
  | .getAllocated offset size => .ok (rb, .slice (rb.getAllocated offset size))
  | .readAllocated offset n => .ok (rb, .slice (rb.readAllocated offset n))
  | .dequeueAllocated count => do return (← rb.dequeueAllocated count, .unit)
  | .writeUnallocated offset data =>
    .ok ((rb.writeUnallocated offset data).1, .size (rb.writeUnallocated offset data).2)
  | .enqueueUnallocated count => do return (← rb.enqueueUnallocated count, .unit)

/-- The results that the queue allows for an operation. It panics only where a closure reports more
than it was handed, or more is asked for than there is. -/
inductive Fifo.Step (a : Fifo α) : Op α ε ρ → Checked (Fifo α × Outcome α ε ρ) → Prop where
  | enqueueOneWith (f : α → α × Except ε ρ) :
      Step a (.enqueueOneWith f) (.ok ((a.enqueueOneWith f).1, .ofEnqueue (a.enqueueOneWith f).2))
  | enqueueOneFull (write : α → α) (h : a.spare = []) : Step a (.enqueueOne write) (.ok (a, .full))
  | enqueueOne (write : α → α) (x : α) (spare : List α) (h : a.spare = x :: spare) :
      Step a (.enqueueOne write) (.ok (⟨a.queue ++ [write x], spare⟩, .elem x))
  | dequeueOneWith (f : α → α × Except ε ρ) :
      Step a (.dequeueOneWith f) (.ok ((a.dequeueOneWith f).1, .ofDequeue (a.dequeueOneWith f).2))
  | dequeueOneEmpty (write : α → α) (h : a.queue = []) :
      Step a (.dequeueOne write) (.ok (a, .empty))
  | dequeueOne (write : α → α) (x : α) (queue : List α) (h : a.queue = x :: queue) :
      Step a (.dequeueOne write) (.ok (⟨queue, a.spare ++ [write x]⟩, .elem x))
  | enqueueManyWith (f : Callback α ρ) (a₁ : Fifo α) (k : ℕ) (hre : a.Restarts a₁)
      (hk : Contiguous a₁.spare k) : Step a (.enqueueManyWith f)
        ((a₁.enqueueManyWith k f).map fun r => (r.1, .sized r.2.1 r.2.2))
  | enqueueMany (size : ℕ) (write : Writer α) (a₁ : Fifo α) (k : ℕ) (hre : a.Restarts a₁)
      (hk : Contiguous a₁.spare k) : Step a (.enqueueMany size write)
        (.ok (⟨a.queue ++ (write (a₁.spare.take (min size k))).1, a₁.spare.drop (min size k)⟩,
          .slice (a₁.spare.take (min size k))))
  | enqueueSlice (data : List α) (a₁ : Fifo α) (n : ℕ) (hre : a.Restarts a₁)
      (hn : n = min a.spare.length data.length) : Step a (.enqueueSlice data)
        (.ok (⟨a.queue ++ data.take n, a₁.spare.drop n⟩, .size n))
  | dequeueManyWith (f : Callback α ρ) (k : ℕ) (hk : Contiguous a.queue k) :
      Step a (.dequeueManyWith f)
        ((a.dequeueManyWith k f).map fun r => (r.1, .sized r.2.1 r.2.2))
  | dequeueMany (size : ℕ) (write : Writer α) (k : ℕ) (hk : Contiguous a.queue k) :
      Step a (.dequeueMany size write)
        (.ok (⟨a.queue.drop (min size k), a.spare ++ (write (a.queue.take (min size k))).1⟩,
          .slice (a.queue.take (min size k))))
  | dequeueSlice (n : ℕ) : Step a (.dequeueSlice n) (.ok (a.dequeue n, .slice (a.queue.take n)))
  | getAllocated (offset size k : ℕ) (hk : Contiguous ((a.queue.drop offset).take size) k) :
      Step a (.getAllocated offset size) (.ok (a, .slice ((a.queue.drop offset).take k)))
  | readAllocated (offset n : ℕ) :
      Step a (.readAllocated offset n) (.ok (a, .slice ((a.queue.drop offset).take n)))
  | dequeueAllocated (count : ℕ) (h : count ≤ a.queue.length) :
      Step a (.dequeueAllocated count) (.ok (a.dequeue count, .unit))
  | dequeueAllocatedPanic (count : ℕ) (h : a.queue.length < count) :
      Step a (.dequeueAllocated count) (.error .assertFailed)
  | writeUnallocated (offset : ℕ) (data : List α) :
      Step a (.writeUnallocated offset data)
        (.ok ((a.write offset data).1, .size (a.write offset data).2))
  | enqueueUnallocated (count : ℕ) (h : count ≤ a.spare.length) :
      Step a (.enqueueUnallocated count) (.ok (a.enqueue count, .unit))
  | enqueueUnallocatedPanic (count : ℕ) (h : a.spare.length < count) :
      Step a (.enqueueUnallocated count) (.error .assertFailed)

/-- A result with many elements, and what the queue allows. -/
lemma map_matches {R : RingBuffer α → Fifo α → Prop} {x : Checked (RingBuffer α × ℕ × ρ)}
    {y : Checked (Fifo α × ℕ × ρ)} (h : Matches R x y) (hR : ∀ rb a, R rb a → rb.fifo = a) :
    mapState fifo (do
      let (rb, size, r) ← x
      return (rb, (.sized size r : Outcome α ε ρ))) =
      y.map fun r => (r.1, .sized r.2.1 r.2.2) := by
  cases h with
  | ok r h =>
    rw [← hR _ _ h]
    rfl
  | error e => rfl

/-- Every operation of the ring is allowed by the queue. -/
lemma step_refines (rb : RingBuffer α) (op : Op α ε ρ) :
    rb.fifo.Step op (mapState fifo (rb.step op)) := by
  cases op with
  | enqueueOneWith f =>
    obtain ⟨rb', hok, hfifo⟩ := rb.enqueueOneWith_refines f
    simp only [step, hok, Checked.ok_bind, Checked.pure_eq_ok, mapState_ok, hfifo]
    exact .enqueueOneWith f
  | enqueueOne write =>
    obtain ⟨rb', hok, hfifo⟩ := rb.enqueueOneWith_refines fun elem =>
      (write elem, (.ok elem : Except Storage.Full α))
    simp only [step, enqueueOne, hok, Checked.ok_bind, Checked.pure_eq_ok, mapState_ok, hfifo]
    unfold Fifo.enqueueOneWith
    cases hspare : rb.fifo.spare with
    | nil => exact .enqueueOneFull write hspare
    | cons x spare => exact .enqueueOne write x spare hspare
  | dequeueOneWith f =>
    obtain ⟨rb', hok, hfifo⟩ := rb.dequeueOneWith_refines f
    simp only [step, hok, Checked.ok_bind, Checked.pure_eq_ok, mapState_ok, hfifo]
    exact .dequeueOneWith f
  | dequeueOne write =>
    obtain ⟨rb', hok, hfifo⟩ := rb.dequeueOneWith_refines fun elem =>
      (write elem, (.ok elem : Except Storage.Empty α))
    simp only [step, dequeueOne, hok, Checked.ok_bind, Checked.pure_eq_ok, mapState_ok, hfifo]
    unfold Fifo.dequeueOneWith
    cases hqueue : rb.fifo.queue with
    | nil => exact .dequeueOneEmpty write hqueue
    | cons x queue => exact .dequeueOne write x queue hqueue
  | enqueueManyWith f =>
    simp only [step]
    rw [map_matches (rb.enqueueManyWith_refines f) fun _ _ h => h.1]
    exact .enqueueManyWith f _ _ rb.spare_restart rb.restart.contiguous_spare
  | enqueueMany size write =>
    have h := rb.enqueueManyWith_refines (.takeTo size write)
    rw [Fifo.enqueueManyWith_takeTo rb.restart.contiguous_spare.le, rb.spare_restart.queue_eq] at h
    simp only [step, enqueueMany]
    generalize rb.enqueueManyWith (.takeTo size write) = x at h
    cases h with
    | ok r h =>
      simp only [Checked.ok_bind, Checked.pure_eq_ok, mapState_ok, h.1]
      exact .enqueueMany size write _ _ rb.spare_restart rb.restart.contiguous_spare
  | enqueueSlice data =>
    obtain ⟨rb', a₁, hre, hok, hfifo⟩ := rb.enqueueSlice_refines data rfl
    simp only [step, hok, Checked.ok_bind, Checked.pure_eq_ok, mapState_ok, hfifo]
    exact .enqueueSlice data a₁ _ hre (by rw [length_spare])
  | dequeueManyWith f =>
    simp only [step]
    rw [map_matches (rb.dequeueManyWith_refines f) fun _ _ h => h.1]
    exact .dequeueManyWith f _ rb.contiguous_queue
  | dequeueMany size write =>
    have h := rb.dequeueManyWith_refines (.takeTo size write)
    rw [Fifo.dequeueManyWith_takeTo rb.contiguous_queue.le] at h
    simp only [step, dequeueMany]
    generalize rb.dequeueManyWith (.takeTo size write) = x at h
    cases h with
    | ok r h =>
      simp only [Checked.ok_bind, Checked.pure_eq_ok, mapState_ok, h.1]
      exact .dequeueMany size write _ rb.contiguous_queue
  | dequeueSlice n =>
    obtain ⟨rb', hok, hfifo⟩ := rb.dequeueSlice_refines n
    simp only [step, hok, Checked.ok_bind, Checked.pure_eq_ok, mapState_ok, hfifo]
    exact .dequeueSlice n
  | getAllocated offset size =>
    simp only [step, mapState_ok, getAllocated_eq]
    refine .getAllocated offset size _ ⟨?_, fun hne => ?_⟩
    · have hle := rb.allocatedSize_le offset size
      rw [List.length_take, List.length_drop, length_queue]
      rcases Nat.lt_or_ge offset rb.len with hlt | hge
      · have := rb.offset_add_allocatedSize_le hlt.le size
        omega
      · rw [rb.allocatedSize_eq_zero hge]
        exact Nat.zero_le _
    · rw [← List.length_pos_iff, List.length_take, List.length_drop, length_queue] at hne
      exact rb.allocatedSize_pos (by omega) (by omega)
  | readAllocated offset n =>
    simp only [step, mapState_ok, readAllocated_eq]
    exact .readAllocated offset n
  | dequeueAllocated count =>
    simp only [step]
    by_cases h : count ≤ rb.len
    · obtain ⟨rb', hok, hfifo⟩ := rb.dequeueAllocated_refines h
      simp only [hok, Checked.ok_bind, Checked.pure_eq_ok, mapState_ok, hfifo]
      exact .dequeueAllocated count (by rwa [length_queue])
    · rw [show rb.dequeueAllocated count = .error .assertFailed from if_neg h]
      exact .dequeueAllocatedPanic count (by rw [length_queue]; omega)
  | writeUnallocated offset data =>
    obtain ⟨rb', hok, hfifo⟩ := rb.writeUnallocated_refines offset data
    simp only [step, hok, mapState_ok, hfifo]
    exact .writeUnallocated offset data
  | enqueueUnallocated count =>
    simp only [step]
    by_cases h : count ≤ rb.window
    · obtain ⟨rb', hok, hfifo⟩ := rb.enqueueUnallocated_refines h
      simp only [hok, Checked.ok_bind, Checked.pure_eq_ok, mapState_ok, hfifo]
      exact .enqueueUnallocated count (by rwa [length_spare])
    · rw [show rb.enqueueUnallocated count = .error .assertFailed from dif_neg h]
      exact .enqueueUnallocatedPanic count (by rw [length_spare]; omega)

/-- The number of places. -/
def Fifo.capacity (a : Fifo α) : ℕ := a.queue.length + a.spare.length

lemma Fifo.Restarts.length_eq {a a₁ : Fifo α} (h : a.Restarts a₁) :
    a₁.spare.length = a.spare.length := h.rotated.perm.length_eq

/-- No operation changes the number of places. -/
lemma Fifo.Step.capacity_eq {a a' : Fifo α} {op : Op α ε ρ} {r : Outcome α ε ρ}
    (h : a.Step op (.ok (a', r))) : a'.capacity = a.capacity := by
  generalize hx : (Except.ok (a', r) : Checked (Fifo α × Outcome α ε ρ)) = x at h
  unfold Fifo.capacity
  cases h with
  | enqueueOneWith f =>
    cases hx
    unfold Fifo.enqueueOneWith
    cases hspare : a.spare with
    | nil => simp [hspare]
    | cons x spare =>
      cases hf : (f x).2 <;> simp [hf]
      omega
  | enqueueOneFull write hfull =>
    cases hx
    rfl
  | enqueueOne write x spare hspare =>
    cases hx
    simp [hspare]
    omega
  | dequeueOneWith f =>
    cases hx
    unfold Fifo.dequeueOneWith
    cases hqueue : a.queue with
    | nil => simp [hqueue]
    | cons x queue =>
      cases hf : (f x).2 <;> simp [hf]
      omega
  | dequeueOneEmpty write hempty =>
    cases hx
    rfl
  | dequeueOne write x queue hqueue =>
    cases hx
    simp [hqueue]
    omega
  | enqueueManyWith f a₁ k hre hk =>
    have hlen := hre.length_eq
    have hle := hk.le
    have hbuf := (f (a₁.spare.take k)).length_buf.trans List.length_take
    unfold Fifo.enqueueManyWith at hx
    simp only at hx
    split_ifs at hx with hs
    · cases hx
      simp only [hre.queue_eq, List.length_append, List.length_drop, List.length_take]
      omega
    · cases hx
  | enqueueMany size write a₁ k hre hk =>
    have hlen := hre.length_eq
    have hle := hk.le
    have hwrite := (write (a₁.spare.take (min size k))).2.trans List.length_take
    cases hx
    simp only [List.length_append, List.length_drop, hwrite]
    omega
  | enqueueSlice data a₁ n hre hn =>
    have hlen := hre.length_eq
    cases hx
    simp only [List.length_append, List.length_drop, List.length_take]
    omega
  | dequeueManyWith f k hk =>
    have hle := hk.le
    have hbuf := (f (a.queue.take k)).length_buf.trans List.length_take
    unfold Fifo.dequeueManyWith at hx
    simp only at hx
    split_ifs at hx with hs
    · cases hx
      simp only [List.length_append, List.length_drop, List.length_take]
      omega
    · cases hx
  | dequeueMany size write k hk =>
    have hle := hk.le
    have hwrite := (write (a.queue.take (min size k))).2.trans List.length_take
    cases hx
    simp only [List.length_append, List.length_drop, hwrite]
    omega
  | dequeueSlice n =>
    cases hx
    simp only [Fifo.dequeue, List.length_append, List.length_drop, List.length_take]
    omega
  | getAllocated offset size k hk =>
    cases hx
    rfl
  | readAllocated offset n =>
    cases hx
    rfl
  | dequeueAllocated count hle =>
    cases hx
    simp only [Fifo.dequeue, List.length_append, List.length_drop, List.length_take]
    omega
  | dequeueAllocatedPanic count hlt => cases hx
  | writeUnallocated offset data =>
    cases hx
    simp only [Fifo.write]
    rcases Nat.lt_or_ge a.spare.length offset with hlt | hge
    · have hzero : a.spare.length - offset = 0 := by omega
      simp [hzero]
    · rw [List.length_overwrite (by rw [List.length_take]; omega)]
  | enqueueUnallocated count hle =>
    cases hx
    simp only [Fifo.enqueue, List.length_append, List.length_drop, List.length_take]
    omega
  | enqueueUnallocatedPanic count hlt => cases hx

lemma fifo_new (storage : List α) : (new storage).fifo = ⟨[], storage⟩ := by
  refine fifo_eq ?_ rfl
  simp [view, new]

/-- Over every sequence of operations, the ring gives a result that the bounded queue allows. -/
theorem refines_fifo (storage : List α) (ops : List (Op α ε ρ)) :
    Runs Fifo.Step ⟨[], storage⟩ ops (mapState fifo (run step (new storage) ops)) ∧
      ∀ rb outcomes, run step (new storage) ops = .ok (rb, outcomes) →
        rb.capacity = storage.length ∧ rb.length ≤ rb.capacity ∧
          rb.readAt < max rb.capacity 1 := by
  have hruns : Runs Fifo.Step _ ops _ := run_refines step_refines (new storage) ops
  rw [fifo_new] at hruns
  refine ⟨hruns, fun rb outcomes hok => ⟨?_, rb.length_le, rb.readAt_lt⟩⟩
  rw [hok] at hruns
  have hcap : rb.fifo.capacity = storage.length := by
    refine hruns.invariant (I := fun a => a.capacity = storage.length) ?_ ?_
    · intro a op a' r ha hstep
      rw [hstep.capacity_eq, ha]
    · simp [Fifo.capacity]
  rw [← hcap, Fifo.capacity, length_queue, length_spare, len_add_window]

/-- Elements that wrap around. -/
theorem refines_fifo_wrap : ∃ rb : RingBuffer ℕ,
    run step (new [0, 0, 0]) [.enqueueSlice [1, 2], .dequeueSlice 1, .enqueueSlice [3, 4, 5],
      .readAllocated 1 7] =
        .ok (rb, [(.size 2 : Outcome ℕ Unit Unit), .slice [1], .size 2, .slice [3, 4]]) ∧
    rb.capacity = 3 ∧ rb.readAt = 1 ∧ rb.toList = [2, 3, 4] ∧
    Runs Fifo.Step ⟨[], [0, 0, 0]⟩ [.enqueueSlice [1, 2], .dequeueSlice 1, .enqueueSlice [3, 4, 5],
      .readAllocated 1 7]
        (.ok (rb.fifo, [(.size 2 : Outcome ℕ Unit Unit), .slice [1], .size 2, .slice [3, 4]])) := by
  obtain ⟨hruns, hcap⟩ := refines_fifo [0, 0, 0] [(.enqueueSlice [1, 2] : Op ℕ Unit Unit),
    .dequeueSlice 1, .enqueueSlice [3, 4, 5], .readAllocated 1 7]
  have hrun : run step (new [0, 0, 0]) [(.enqueueSlice [1, 2] : Op ℕ Unit Unit),
      .dequeueSlice 1, .enqueueSlice [3, 4, 5], .readAllocated 1 7] =
      .ok (⟨[4, 2, 3], 1, 3, by decide, by decide⟩,
        [.size 2, .slice [1], .size 2, .slice [3, 4]]) := rfl
  rw [hrun] at hruns
  exact ⟨_, hrun, (hcap _ _ hrun).1, rfl, by decide, hruns⟩

/-- A closure that changes the element it is handed and then fails changes the queue. -/
theorem dequeueOneWith_err : ∃ (rb rb' : RingBuffer ℕ) (f : ℕ → ℕ × Except Unit Unit),
    run step (new [0]) [(.enqueueOne fun _ => 1 : Op ℕ Unit Unit)] = .ok (rb, [.elem 0]) ∧
    rb.dequeueOneWith f = .ok (rb', .ok (.error ())) ∧ rb.toList = [1] ∧ rb'.toList = [2] :=
  ⟨⟨[1], 0, 1, by decide, by decide⟩, ⟨[2], 0, 1, by decide, by decide⟩,
    fun _ => (2, .error ()), rfl, rfl, by decide, by decide⟩

end Smoltcp.RingBuffer
