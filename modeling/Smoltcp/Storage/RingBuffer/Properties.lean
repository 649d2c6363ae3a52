import Smoltcp.Storage.RingBuffer.Basic

/-!
# The contents of a ring buffer

`view` is the storage unwrapped at the read position: first the allocated elements, which are
`toList`, then the unallocated ones. Each operation of the ring is described by what it does to
`view` or `toList`, so that no later proof speaks of positions modulo the capacity.
-/

namespace Smoltcp.RingBuffer

variable {α ρ : Type} (rb : RingBuffer α)

/-- The storage, unwrapped at the read position. -/
def view : List α := rb.storage.rotate rb.readAt

/-- The allocated elements in order. -/
def toList : List α := rb.view.take rb.len

@[simp] lemma length_view : rb.view.length = rb.capacity := by simp [view, capacity]

@[simp] lemma length_toList : rb.toList.length = rb.len := by
  have h := rb.len_le
  simp [toList, h]

@[simp] lemma capacity_clear : rb.clear.capacity = rb.capacity := rfl

@[simp] lemma len_clear : rb.clear.len = 0 := rfl

lemma len_add_window : rb.len + rb.window = rb.capacity := by
  have := rb.len_le
  unfold window
  omega

lemma window_le_capacity : rb.window ≤ rb.capacity := Nat.sub_le _ _

lemma isEmpty_iff : rb.isEmpty ↔ rb.toList = [] := by
  rw [isEmpty, ← length_toList, List.length_eq_zero_iff]

/-- A remainder of a number below twice the modulus. -/
private lemma mod_of_lt_two_mul {x c : ℕ} (h : x < 2 * c) :
    x % c = if x < c then x else x - c := by
  split_ifs with hx
  · exact Nat.mod_eq_of_lt hx
  · rw [Nat.mod_eq_sub_mod (by omega), Nat.mod_eq_of_lt (by omega)]

/-- The position of an element, without the remainder. -/
lemma getIdx_eq {k : ℕ} (hk : k ≤ rb.capacity) (hcap : 0 < rb.capacity) :
    rb.getIdx k = if rb.readAt + k < rb.capacity then rb.readAt + k
      else rb.readAt + k - rb.capacity := by
  have hread : rb.readAt < max rb.capacity 1 := rb.readAt_lt
  rw [getIdx, if_pos hcap, mod_of_lt_two_mul (by omega)]

/-- The place behind the last one of the storage is the first one. -/
lemma getIdx_wrap {k n : ℕ} (hn : n = rb.capacity - rb.getIdx k) (hk : k + n ≤ rb.capacity)
    (hcap : 0 < rb.capacity) : rb.getIdx (k + n) = 0 := by
  have hread : rb.readAt < max rb.capacity 1 := rb.readAt_lt
  have hidx := rb.getIdx_eq (k := k) (by omega) hcap
  rw [rb.getIdx_eq hk hcap]
  split_ifs at hidx ⊢ <;> omega

lemma getElem?_view {i : ℕ} (hi : i < rb.capacity) : rb.view[i]? = rb.storage[rb.getIdx i]? := by
  have hcap : 0 < rb.capacity := by omega
  rw [view, List.getElem?_rotate hi, getIdx, if_pos hcap, Nat.add_comm]
  rfl

/-- Copying into storage at the position of element `k`, without wrapping, copies into the view
at `k`. -/
lemma rotate_overwrite {k : ℕ} {d : List α} (hk : k + d.length ≤ rb.capacity)
    (hend : rb.getIdx k + d.length ≤ rb.capacity) :
    (rb.storage.overwrite (rb.getIdx k) d).rotate rb.readAt = rb.view.overwrite k d := by
  rcases Nat.eq_zero_or_pos d.length with hd | hd
  · simp [List.length_eq_zero_iff.mp hd, view]
  have hcap : 0 < rb.capacity := by omega
  have hread : rb.readAt < max rb.capacity 1 := rb.readAt_lt
  have hstart := rb.getIdx_eq (k := k) (by omega) hcap
  have hlen : (rb.storage.overwrite (rb.getIdx k) d).length = rb.capacity :=
    List.length_overwrite hend
  have hlen' : (rb.view.overwrite k d).length = rb.capacity := by
    rw [List.length_overwrite (by simpa using hk), length_view]
  apply List.ext_getElem?
  intro j
  by_cases hj : j < rb.capacity
  · have hidx := rb.getIdx_eq hj.le hcap
    have hj' : (j + rb.readAt) % rb.capacity = rb.getIdx j := by
      rw [getIdx, if_pos hcap, Nat.add_comm]
    rw [List.getElem?_rotate (by omega), hlen, hj', List.getElem?_overwrite hend,
      List.getElem?_overwrite (by simpa using hk), rb.getElem?_view hj]
    -- Both sides look at the same place of the ring, so the two membership tests agree.
    have hmem : (rb.getIdx k ≤ rb.getIdx j ∧ rb.getIdx j < rb.getIdx k + d.length) ↔
        (k ≤ j ∧ j < k + d.length) := by
      split_ifs at hstart hidx <;> omega
    by_cases hin : k ≤ j ∧ j < k + d.length
    · rw [if_pos (hmem.mpr hin), if_pos hin]
      congr 1
      have := hmem.mpr hin
      split_ifs at hstart hidx <;> omega
    · rw [if_neg (mt hmem.mp hin), if_neg hin]
  · rw [List.getElem?_eq_none (by simp; omega), List.getElem?_eq_none (by omega)]

/-! ### Reading -/

/-- The slice of `size` elements from element `k` on, when it does not wrap. -/
lemma drop_getIdx_take {k size : ℕ} (hk : k + size ≤ rb.capacity)
    (hend : rb.getIdx k + size ≤ rb.capacity) :
    (rb.storage.drop (rb.getIdx k)).take size = (rb.view.drop k).take size := by
  apply List.ext_getElem?
  intro j
  by_cases hj : j < size
  · have hcap : 0 < rb.capacity := by omega
    rw [List.getElem?_take_of_lt hj, List.getElem?_take_of_lt hj, List.getElem?_drop,
      List.getElem?_drop, rb.getElem?_view (by omega)]
    congr 1
    have hread : rb.readAt < max rb.capacity 1 := rb.readAt_lt
    have hstart := rb.getIdx_eq (k := k) (by omega) hcap
    have hidx := rb.getIdx_eq (k := k + j) (by omega) hcap
    split_ifs at hstart hidx <;> omega
  · rw [List.getElem?_eq_none (by simp; omega), List.getElem?_eq_none (by simp; omega)]

/-- The number of elements that `get_allocated` returns. -/
def allocatedSize (offset size : ℕ) : ℕ :=
  if rb.len < offset then 0
  else min (min size (rb.len - offset)) (rb.capacity - rb.getIdx offset)

lemma getAllocated_eq (offset size : ℕ) :
    rb.getAllocated offset size = (rb.toList.drop offset).take (rb.allocatedSize offset size) := by
  have hle := rb.len_le
  have hidx := rb.getIdx_le offset
  simp only [getAllocated, allocatedSize]
  split_ifs with h
  · simp
  · rw [drop_getIdx_take _ (by omega) (by omega), toList, List.drop_take, List.take_take]
    congr 1
    omega

lemma length_getAllocated (offset size : ℕ) :
    (rb.getAllocated offset size).length = rb.allocatedSize offset size := by
  rw [getAllocated_eq, List.length_take, List.length_drop, length_toList]
  unfold allocatedSize
  split_ifs <;> omega

lemma allocatedSize_le (offset size : ℕ) : rb.allocatedSize offset size ≤ size := by
  unfold allocatedSize
  split_ifs <;> omega

lemma offset_add_allocatedSize_le {offset : ℕ} (h : offset ≤ rb.len) (size : ℕ) :
    offset + rb.allocatedSize offset size ≤ rb.len := by
  unfold allocatedSize
  split_ifs <;> omega

lemma allocatedSize_pos {offset size : ℕ} (h : offset < rb.len) (hs : 0 < size) :
    0 < rb.allocatedSize offset size := by
  have hcap := rb.len_le
  have hidx := rb.getIdx_lt offset
  unfold allocatedSize
  split_ifs <;> omega

lemma allocatedSize_eq_zero {offset : ℕ} (h : rb.len ≤ offset) (size : ℕ) :
    rb.allocatedSize offset size = 0 := by
  unfold allocatedSize
  split_ifs <;> omega

/-! ### Dequeueing -/

/-- Moving the read position over `count` elements drops them. -/
lemma rotate_getIdx (count : ℕ) : rb.storage.rotate (rb.getIdx count) = rb.view.rotate count := by
  rw [view, List.rotate_rotate, getIdx]
  split_ifs with h
  · exact List.rotate_mod _ _
  · have hnil : rb.storage = [] := List.length_eq_zero_iff.mp (by unfold capacity at h; omega)
    simp [hnil]

lemma take_rotate_view {count : ℕ} (h : count ≤ rb.len) :
    (rb.view.rotate count).take (rb.len - count) = rb.toList.drop count := by
  have hle := rb.len_le
  rw [List.rotate_eq_drop_append_take (by simp; omega),
    List.take_append_of_le_length (by simp; omega), toList, List.drop_take]

lemma toList_dequeueAllocated {count : ℕ} {rb' : RingBuffer α}
    (h : rb.dequeueAllocated count = .ok rb') : rb'.toList = rb.toList.drop count := by
  unfold dequeueAllocated at h
  split_ifs at h with hc
  cases h
  rw [← rb.take_rotate_view hc, ← rotate_getIdx]
  rfl

lemma dequeueAllocated_of_le {count : ℕ} (h : count ≤ rb.len) :
    ∃ rb', rb.dequeueAllocated count = .ok rb' ∧ rb'.toList = rb.toList.drop count ∧
      rb'.capacity = rb.capacity := by
  refine ⟨_, if_pos h, ?_, rfl⟩
  exact rb.toList_dequeueAllocated (if_pos h)

/-- What `dequeue_many_with` hands to its callback. -/
def readSlice : List α := (rb.storage.drop rb.readAt).take (min rb.len (rb.capacity - rb.readAt))

lemma readAt_eq_getIdx_zero : rb.readAt = rb.getIdx 0 := by
  have hread : rb.readAt < max rb.capacity 1 := rb.readAt_lt
  unfold getIdx
  split_ifs with h
  · rw [Nat.add_zero, Nat.mod_eq_of_lt (by omega)]
  · omega

lemma readSlice_eq : rb.readSlice = rb.toList.take (min rb.len (rb.capacity - rb.readAt)) := by
  have hle := rb.len_le
  have hidx := rb.getIdx_le 0
  rw [readSlice, readAt_eq_getIdx_zero, drop_getIdx_take _ (by omega) (by omega), List.drop_zero,
    toList, List.take_take]
  congr 1
  omega

lemma length_readSlice : rb.readSlice.length = min rb.len (rb.capacity - rb.readAt) := by
  have hread : rb.readAt < max rb.capacity 1 := rb.readAt_lt
  rw [readSlice_eq, List.length_take, length_toList]
  omega

/-- `rb'` is `rb` without its first `n` elements, which may have been changed, and with the
unallocated elements where they were. -/
structure Shrinks (rb rb' : RingBuffer α) (n : ℕ) : Prop where
  le : n ≤ rb.len
  len : rb'.len = rb.len - n
  capacity : rb'.capacity = rb.capacity
  unallocated : ∀ i, rb.len ≤ i → i < rb.capacity → rb'.view[i - n]? = rb.view[i]?

lemma Shrinks.trans {rb rb₁ rb₂ : RingBuffer α} {m n : ℕ} (h₁ : Shrinks rb rb₁ m)
    (h₂ : Shrinks rb₁ rb₂ n) : Shrinks rb rb₂ (m + n) where
  le := by
    have := h₁.le
    have := h₁.len
    have := h₂.le
    omega
  len := by rw [h₂.len, h₁.len, Nat.sub_sub]
  capacity := h₂.capacity.trans h₁.capacity
  unallocated i hi hcap := by
    have hlen := h₁.len
    have hc := h₁.capacity
    rw [← h₁.unallocated i hi hcap, ← h₂.unallocated (i - m) (by omega) (by omega), Nat.sub_sub]

lemma Shrinks.window {rb rb' : RingBuffer α} {n : ℕ} (h : Shrinks rb rb' n) :
    rb'.window = rb.window + n := by
  have hle := h.le
  have hlen := h.len
  have hcap := h.capacity
  have h₁ := rb.len_add_window
  have h₂ := rb'.len_add_window
  omega

/-- The callback is handed a prefix of the contents and removes what it reports. If it keeps the
rest as it was, that is what stays. -/
lemma dequeueManyWith_eq_ok {f : Callback α ρ} {rb' : RingBuffer α} {size : ℕ} {res : ρ}
    (h : rb.dequeueManyWith f = .ok (rb', size, res)) :
    size = (f rb.readSlice).size ∧ res = (f rb.readSlice).result ∧ Shrinks rb rb' size ∧
      (f.KeepsRest → rb'.toList = rb.toList.drop size) := by
  unfold dequeueManyWith at h
  simp only at h
  split_ifs at h with hs
  simp only [Except.ok.injEq, Prod.mk.injEq] at h
  obtain ⟨hrb, hsize, rfl⟩ := h
  change (f rb.readSlice).size ≤ _ at hs
  change (f rb.readSlice).size = size at hsize
  subst hsize
  have hbuf : (f rb.readSlice).buf.length = min rb.len (rb.capacity - rb.readAt) := by
    rw [(f rb.readSlice).length_buf, length_readSlice]
  have hread : rb.readAt < max rb.capacity 1 := rb.readAt_lt
  have hle := rb.len_le
  set buf := (f rb.readSlice).buf with hbufdef
  set n := (f rb.readSlice).size with hndef
  have hlen : rb'.len = rb.len - n := by rw [← hrb]; rfl
  have hover : 0 + buf.length ≤ rb.view.length := by rw [length_view]; omega
  -- the elements are written at the front of the view, which then moves on by `n`
  have hview : rb'.view = (rb.view.overwrite 0 buf).rotate n := by
    have hzero : rb.getIdx 0 = rb.readAt := rb.readAt_eq_getIdx_zero.symm
    have hcopy := rb.rotate_overwrite (k := 0) (d := buf) (by omega) (by omega)
    rw [hzero] at hcopy
    have hstore : rb'.view = (rb.storage.overwrite rb.readAt buf).rotate (rb.getIdx n) := by
      rw [← hrb]; rfl
    have hcap : (rb.storage.overwrite rb.readAt buf).length = rb.capacity :=
      List.length_overwrite (by unfold capacity at *; omega)
    rw [hstore, ← hcopy, List.rotate_rotate, getIdx]
    split_ifs with hpos
    · rw [← hcap]
      exact List.rotate_mod _ _
    · have hnil : rb.storage.overwrite rb.readAt buf = [] :=
        List.length_eq_zero_iff.mp (by omega)
      simp [hnil]
  have hlenview : (rb.view.overwrite 0 buf).length = rb.capacity := by
    rw [List.length_overwrite hover, length_view]
  have hcap' : rb'.capacity = rb.capacity := by
    rw [← length_view, hview, List.length_rotate, hlenview]
  refine ⟨rfl, rfl, ⟨by omega, hlen, hcap', ?_⟩, ?_⟩
  · intro i hi hcap
    rw [hview, List.getElem?_rotate (by omega), hlenview, Nat.sub_add_cancel (by omega),
      Nat.mod_eq_of_lt hcap, List.getElem?_overwrite hover, if_neg (by omega)]
  · intro hf
    apply List.ext_getElem?
    intro j
    rw [List.getElem?_drop, toList, toList, List.getElem?_take, List.getElem?_take, hlen]
    by_cases hj : j < rb.len - n
    · rw [if_pos hj, if_pos (by omega), hview, List.getElem?_rotate (by omega), hlenview,
        Nat.mod_eq_of_lt (by omega), List.getElem?_overwrite hover, Nat.add_comm n j]
      split_ifs with hin
      · have hkeep := congrArg (fun l : List α => l[j]?) (hf rb.readSlice)
        simp only [List.getElem?_drop, ← hbufdef, ← hndef] at hkeep
        rw [Nat.sub_zero, Nat.add_comm j n, hkeep, readSlice_eq, List.getElem?_take,
          if_pos (by omega), toList, List.getElem?_take, if_pos (by omega)]
      · rfl
    · rw [if_neg hj, if_neg (by omega)]

/-! ### Enqueueing -/

@[simp] lemma len_restart : rb.restart.len = rb.len := by
  unfold restart
  split_ifs <;> rfl

@[simp] lemma capacity_restart : rb.restart.capacity = rb.capacity := by
  unfold restart
  split_ifs <;> rfl

@[simp] lemma toList_restart : rb.restart.toList = rb.toList := by
  by_cases h : rb.len = 0
  · rw [toList, toList, len_restart, h, List.take_zero, List.take_zero]
  · rw [restart, if_neg h]

/-- What `enqueue_many_with` hands to its callback. -/
def writeSlice : List α :=
  (rb.restart.storage.drop (rb.restart.getIdx rb.restart.len)).take rb.restart.contiguousWindow

lemma length_writeSlice : rb.writeSlice.length = rb.restart.contiguousWindow := by
  rw [writeSlice, List.length_take, List.length_drop]
  have hidx := rb.restart.getIdx_le rb.restart.len
  unfold contiguousWindow capacity at *
  omega

/-- The callback's elements are appended, as many as it reports. -/
lemma enqueueManyWith_eq_ok {f : Callback α ρ} {rb' : RingBuffer α} {size : ℕ} {res : ρ}
    (h : rb.enqueueManyWith f = .ok (rb', size, res)) :
    size = (f rb.writeSlice).size ∧ res = (f rb.writeSlice).result ∧
      size ≤ rb.writeSlice.length ∧
      rb'.toList = rb.toList ++ (f rb.writeSlice).buf.take size ∧ rb'.capacity = rb.capacity := by
  unfold enqueueManyWith at h
  simp only at h
  split_ifs at h with hs
  simp only [Except.ok.injEq, Prod.mk.injEq] at h
  obtain ⟨rfl, rfl, rfl⟩ := h
  have hbuf : (f rb.writeSlice).buf.length = rb.restart.contiguousWindow := by
    rw [(f rb.writeSlice).length_buf, length_writeSlice]
  have hidx := rb.restart.getIdx_le rb.restart.len
  have hwin := rb.restart.len_add_window
  have hend : rb.restart.getIdx rb.restart.len + (f rb.writeSlice).buf.length
      ≤ rb.restart.capacity := by
    rw [hbuf]
    unfold contiguousWindow
    omega
  have hk : rb.restart.len + (f rb.writeSlice).buf.length ≤ rb.restart.capacity := by
    rw [hbuf]
    unfold contiguousWindow
    omega
  refine ⟨rfl, rfl, by rw [length_writeSlice]; exact hs, ?_, ?_⟩
  · calc ((rb.restart.storage.overwrite (rb.restart.getIdx rb.restart.len)
            (f rb.writeSlice).buf).rotate rb.restart.readAt).take
            (rb.restart.len + (f rb.writeSlice).size)
        = (rb.restart.view.overwrite rb.restart.len (f rb.writeSlice).buf).take
            (rb.restart.len + (f rb.writeSlice).size) := by
          rw [rb.restart.rotate_overwrite hk hend]
      _ = rb.restart.toList ++ (f rb.writeSlice).buf.take (f rb.writeSlice).size := by
          rw [List.take_overwrite (by simp [rb.len_le]) (hbuf ▸ hs), toList]
      _ = rb.toList ++ (f rb.writeSlice).buf.take (f rb.writeSlice).size := by
          rw [toList_restart]
  · calc (rb.restart.storage.overwrite (rb.restart.getIdx rb.restart.len)
            (f rb.writeSlice).buf).length
        = rb.restart.capacity := List.length_overwrite hend
      _ = rb.capacity := rb.capacity_restart

lemma enqueueManyWith_copyFrom (data : List α) :
    ∃ rb' n, rb.enqueueManyWith (.copyFrom data) = .ok (rb', n, data.drop n) ∧ n ≤ data.length ∧
      rb'.toList = rb.toList ++ data.take n ∧ rb'.capacity = rb.capacity := by
  have hlen := rb.length_writeSlice
  have hs : (Callback.copyFrom data rb.writeSlice).size ≤ rb.restart.contiguousWindow := by
    simp only [Callback.copyFrom]
    omega
  have hok : ∃ rb', rb.enqueueManyWith (.copyFrom data) =
      .ok (rb', (Callback.copyFrom data rb.writeSlice).size,
        (Callback.copyFrom data rb.writeSlice).result) := ⟨_, dif_pos hs⟩
  obtain ⟨rb', h⟩ := hok
  obtain ⟨-, -, -, hlist, hcap⟩ := rb.enqueueManyWith_eq_ok h
  refine ⟨rb', _, h, Nat.min_le_right _ _, ?_, hcap⟩
  rw [hlist]
  congr 1
  simp only [Callback.copyFrom]
  rw [List.take_append_of_le_length (by simp), List.take_take, Nat.min_self]

/-- `enqueue_slice` appends a prefix of `data` and returns its length. -/
lemma enqueueSlice_spec (data : List α) :
    ∃ rb' n, rb.enqueueSlice data = .ok (rb', n) ∧ n ≤ data.length ∧
      rb'.toList = rb.toList ++ data.take n ∧ rb'.capacity = rb.capacity := by
  obtain ⟨rb₁, n₁, h₁, hn₁, hl₁, hc₁⟩ := rb.enqueueManyWith_copyFrom data
  obtain ⟨rb₂, n₂, h₂, hn₂, hl₂, hc₂⟩ := rb₁.enqueueManyWith_copyFrom (data.drop n₁)
  refine ⟨rb₂, n₁ + n₂, ?_, ?_, ?_, hc₂.trans hc₁⟩
  · simp [enqueueSlice, h₁, h₂]
  · rw [List.length_drop] at hn₂
    omega
  · rw [hl₂, hl₁, List.append_assoc, List.take_add]

lemma readTo_keepsRest (n : ℕ) : (Callback.readTo n : Callback α (List α)).KeepsRest := fun _ => rfl

lemma dequeueManyWith_readTo (n : ℕ) :
    ∃ rb' m, rb.dequeueManyWith (.readTo n) = .ok (rb', m, rb.toList.take m) ∧
      Shrinks rb rb' m ∧ rb'.toList = rb.toList.drop m := by
  have hlen := rb.length_readSlice
  have hs : (Callback.readTo n rb.readSlice).size ≤ min rb.len (rb.capacity - rb.readAt) := by
    simp only [Callback.readTo]
    omega
  have hok : ∃ rb', rb.dequeueManyWith (.readTo n) =
      .ok (rb', (Callback.readTo n rb.readSlice).size,
        (Callback.readTo n rb.readSlice).result) := ⟨_, dif_pos hs⟩
  obtain ⟨rb', h⟩ := hok
  obtain ⟨-, -, hshrinks, hlist⟩ := rb.dequeueManyWith_eq_ok h
  refine ⟨rb', _, ?_, hshrinks, hlist (readTo_keepsRest n)⟩
  rw [h]
  congr 3
  simp only [Callback.readTo] at hs ⊢
  rw [readSlice_eq, List.take_take, List.length_take, length_toList]
  congr 1
  omega

/-- `dequeue_slice` removes a prefix of the contents and returns it. -/
lemma dequeueSlice_spec (n : ℕ) :
    ∃ rb' m, rb.dequeueSlice n = .ok (rb', rb.toList.take m) ∧ Shrinks rb rb' m ∧
      rb'.toList = rb.toList.drop m := by
  obtain ⟨rb₁, m₁, h₁, hs₁, hl₁⟩ := rb.dequeueManyWith_readTo n
  obtain ⟨rb₂, m₂, h₂, hs₂, hl₂⟩ :=
    rb₁.dequeueManyWith_readTo (n - (rb.toList.take m₁).length)
  refine ⟨rb₂, m₁ + m₂, ?_, hs₁.trans hs₂, ?_⟩
  · simp only [dequeueSlice, h₁, Checked.ok_bind, h₂, Checked.pure_eq_ok]
    rw [hl₁, ← List.take_add]
  · rw [hl₂, hl₁, List.drop_drop]

/-! ### Unallocated elements -/

lemma getUnallocated_of_le {offset size : ℕ} (h : offset + size ≤ rb.window) :
    rb.getUnallocated offset size =
      (rb.getIdx (rb.len + offset), min size (rb.capacity - rb.getIdx (rb.len + offset))) := by
  simp only [getUnallocated]
  have hmin : min size (rb.window - offset) = size := by omega
  rw [if_neg (by omega), hmin]

/-- Copying one slice into the unallocated part. -/
lemma copyUnallocated_spec {offset : ℕ} {data : List α} (h : offset + data.length ≤ rb.window) :
    let n := min data.length (rb.capacity - rb.getIdx (rb.len + offset))
    (rb.copyUnallocated offset data).2 = n ∧
      (rb.copyUnallocated offset data).1.len = rb.len ∧
      (rb.copyUnallocated offset data).1.capacity = rb.capacity ∧
      (rb.copyUnallocated offset data).1.readAt = rb.readAt ∧
      (rb.copyUnallocated offset data).1.view = rb.view.overwrite (rb.len + offset)
        (data.take n) := by
  intro n
  have hget := rb.getUnallocated_of_le h
  have hidx := rb.getIdx_le (rb.len + offset)
  have hwin := rb.len_add_window
  have hn : (data.take n).length = n := by simp [n]
  have hend : rb.getIdx (rb.len + offset) + (data.take n).length ≤ rb.capacity := by omega
  refine ⟨by simp [copyUnallocated, hget, n], rfl, ?_, rfl, ?_⟩
  · calc (rb.storage.overwrite (rb.getUnallocated offset data.length).1
            (data.take (rb.getUnallocated offset data.length).2)).length
        = (rb.storage.overwrite (rb.getIdx (rb.len + offset)) (data.take n)).length := by rw [hget]
      _ = rb.capacity := List.length_overwrite hend
  · calc (rb.storage.overwrite (rb.getUnallocated offset data.length).1
            (data.take (rb.getUnallocated offset data.length).2)).rotate rb.readAt
        = (rb.storage.overwrite (rb.getIdx (rb.len + offset)) (data.take n)).rotate rb.readAt := by
          rw [hget]
      _ = rb.view.overwrite (rb.len + offset) (data.take n) :=
          rb.rotate_overwrite (by omega) hend

/-- Data that fits into the unallocated part is written there completely, wrapping or not. -/
lemma writeUnallocated_spec {offset : ℕ} {data : List α} (h : offset + data.length ≤ rb.window) :
    ∃ rb', rb.writeUnallocated offset data = (rb', data.length) ∧ rb'.len = rb.len ∧
      rb'.capacity = rb.capacity ∧ rb'.view = rb.view.overwrite (rb.len + offset) data := by
  obtain ⟨hn₁, hlen₁, hcap₁, hread₁, hview₁⟩ := rb.copyUnallocated_spec h
  set rb₁ := (rb.copyUnallocated offset data).1
  set n₁ := min data.length (rb.capacity - rb.getIdx (rb.len + offset)) with hn
  have hwin₁ : rb₁.window = rb.window := by rw [window, window, hlen₁, hcap₁]
  have hwin := rb.len_add_window
  have h₂ : offset + n₁ + (data.drop n₁).length ≤ rb₁.window := by
    rw [hwin₁, List.length_drop]
    omega
  obtain ⟨hn₂, hlen₂, hcap₂, -, hview₂⟩ := rb₁.copyUnallocated_spec h₂
  -- What is left after the first slice starts at the front of the storage, where it fits.
  have hrest : (data.drop n₁).length ≤ rb₁.capacity - rb₁.getIdx (rb₁.len + (offset + n₁)) := by
    rw [List.length_drop, hcap₁, hlen₁]
    rcases Nat.lt_or_ge n₁ data.length with hlt | hge
    · have hsame : rb₁.getIdx (rb.len + (offset + n₁)) = rb.getIdx (rb.len + offset + n₁) := by
        rw [getIdx, getIdx, hread₁, hcap₁, Nat.add_assoc]
      rw [hsame, rb.getIdx_wrap (k := rb.len + offset) (by omega) (by omega) (by omega)]
      omega
    · omega
  rw [Nat.min_eq_left hrest] at hn₂ hview₂
  have hwrite : rb.writeUnallocated offset data =
      ((rb₁.copyUnallocated (offset + (rb.copyUnallocated offset data).2)
          (data.drop (rb.copyUnallocated offset data).2)).1,
        (rb.copyUnallocated offset data).2 +
          (rb₁.copyUnallocated (offset + (rb.copyUnallocated offset data).2)
            (data.drop (rb.copyUnallocated offset data).2)).2) := rfl
  rw [hn₁, hn₂, List.length_drop, Nat.add_sub_cancel' (Nat.min_le_left _ _)] at hwrite
  refine ⟨_, hwrite, hlen₂.trans hlen₁, hcap₂.trans hcap₁, ?_⟩
  · rw [hview₂, hview₁, hlen₁, List.take_length]
    have hlen_take : (data.take n₁).length = n₁ := by simp [n₁]
    have := List.overwrite_overwrite (l := rb.view) (i := rb.len + offset) (d := data.take n₁)
      (e := data.drop n₁) (by rw [hlen_take, length_view, List.length_drop]; omega)
    rw [hlen_take, List.take_append_drop, Nat.add_assoc] at this
    exact this

lemma enqueueUnallocated_of_le {count : ℕ} (h : count ≤ rb.window) :
    ∃ rb', rb.enqueueUnallocated count = .ok rb' ∧ rb'.len = rb.len + count ∧
      rb'.capacity = rb.capacity ∧ rb'.view = rb.view := by
  exact ⟨_, dif_pos h, rfl, rfl, rfl⟩

lemma enqueueUnallocated_eq_ok {count : ℕ} {rb' : RingBuffer α}
    (h : rb.enqueueUnallocated count = .ok rb') : count ≤ rb.window := by
  unfold enqueueUnallocated at h
  split_ifs at h with hc
  exact hc

end Smoltcp.RingBuffer
