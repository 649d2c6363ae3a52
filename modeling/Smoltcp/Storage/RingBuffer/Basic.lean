import Smoltcp.Panic
import Smoltcp.Lib.Overwrite

/-!
# The ring buffer

`storage` is the backing slice, `readAt` the position of the first allocated element and `length`
the number of allocated elements. The two fields on the positions are the representation
invariant: they hold for the empty ring and every operation has to re-establish them.

A slice handed out by the source is modelled by its position and size in `storage`, and a callback
that receives a slice by a `Callback`: the elements it leaves there, the amount it reports and its
result. A slice that is returned to be written by the caller comes with a `Writer`, what the caller
makes of it.
-/

namespace Smoltcp

/-- Error returned when enqueuing into a full buffer. -/
inductive Storage.Full where
  | mk
  deriving DecidableEq, Repr

/-- Error returned when dequeuing from an empty buffer. -/
inductive Storage.Empty where
  | mk
  deriving DecidableEq, Repr

structure RingBuffer (α : Type) where
  storage : List α
  readAt : ℕ
  length : ℕ
  length_le : length ≤ storage.length
  readAt_lt : readAt < max storage.length 1
  deriving DecidableEq, Repr

/-- What a callback does with the slice it is given. -/
structure CallbackResult (α ρ : Type) (n : ℕ) where
  buf : List α
  length_buf : buf.length = n
  size : ℕ
  result : ρ

/-- A closure `FnOnce(&mut [T]) -> (usize, R)`. -/
abbrev Callback (α ρ : Type) := (buf : List α) → CallbackResult α ρ buf.length

/-- What the caller makes of a slice `&mut [T]`. -/
abbrev Writer (α : Type) := (buf : List α) → { out : List α // out.length = buf.length }

/-- The caller leaves the slice as it is. -/
def Writer.keep {α : Type} : Writer α := fun buf => ⟨buf, rfl⟩

/-- The closure that takes at most `n` elements and returns them to be written by the caller. -/
def Callback.takeTo {α : Type} (n : ℕ) (write : Writer α) : Callback α (List α) := fun buf =>
  let size := min n buf.length
  { buf := (write (buf.take size)).1 ++ buf.drop size
    length_buf := by
      rw [List.length_append, (write (buf.take size)).2, ← List.length_append,
        List.take_append_drop]
    size := size
    result := buf.take size }

/-- The closure that copies as much of `data` as fits and returns the rest. -/
def Callback.copyFrom {α : Type} (data : List α) : Callback α (List α) := fun buf =>
  let size := min buf.length data.length
  { buf := data.take size ++ buf.drop size
    length_buf := by simp [size]
    size := size
    result := data.drop size }

/-- The closure that reads at most `n` elements and returns them. -/
def Callback.readTo {α : Type} (n : ℕ) : Callback α (List α) := fun buf =>
  let size := min buf.length n
  { buf := buf, length_buf := rfl, size := size, result := buf.take size }

/-- The closure leaves the elements behind those it reports as they were. -/
def Callback.KeepsRest {α ρ : Type} (f : Callback α ρ) : Prop :=
  ∀ buf, (f buf).buf.drop (f buf).size = buf.drop (f buf).size

namespace RingBuffer

variable {α ε ρ : Type}

def new (storage : List α) : RingBuffer α where
  storage := storage
  readAt := 0
  length := 0
  length_le := Nat.zero_le _
  readAt_lt := by omega

def clear (rb : RingBuffer α) : RingBuffer α := new rb.storage

def capacity (rb : RingBuffer α) : ℕ := rb.storage.length

def len (rb : RingBuffer α) : ℕ := rb.length

def window (rb : RingBuffer α) : ℕ := rb.capacity - rb.len

def isEmpty (rb : RingBuffer α) : Prop := rb.len = 0

def isFull (rb : RingBuffer α) : Prop := rb.window = 0

instance (rb : RingBuffer α) : Decidable rb.isEmpty := inferInstanceAs (Decidable (rb.len = 0))

instance (rb : RingBuffer α) : Decidable rb.isFull := inferInstanceAs (Decidable (rb.window = 0))

/-- Position of the element `idx` places behind the first allocated one. -/
def getIdx (rb : RingBuffer α) (idx : ℕ) : ℕ :=
  if 0 < rb.capacity then (rb.readAt + idx) % rb.capacity else 0

def contiguousWindow (rb : RingBuffer α) : ℕ :=
  min rb.window (rb.capacity - rb.getIdx rb.len)

lemma getIdx_le (rb : RingBuffer α) (idx : ℕ) : rb.getIdx idx ≤ rb.capacity := by
  unfold getIdx
  split_ifs with h
  · exact (Nat.mod_lt _ h).le
  · omega

lemma getIdx_lt (rb : RingBuffer α) (idx : ℕ) : rb.getIdx idx < max rb.capacity 1 := by
  unfold getIdx
  split_ifs with h
  · have := Nat.mod_lt (rb.readAt + idx) h
    omega
  · omega

lemma len_le (rb : RingBuffer α) : rb.len ≤ rb.capacity := rb.length_le

/-! ### Discrete interface -/

/-- `getIdx` without the check that the capacity is not zero. -/
def getIdxUnchecked (rb : RingBuffer α) (idx : ℕ) : Checked (Fin rb.capacity) :=
  if h : 0 < rb.capacity then .ok ⟨(rb.readAt + idx) % rb.capacity, Nat.mod_lt _ h⟩
  else .error .remainderByZero

/-- `self.storage[index] = elem`. -/
def setElem (rb : RingBuffer α) (index : ℕ) (elem : α) : RingBuffer α where
  storage := rb.storage.set index elem
  readAt := rb.readAt
  length := rb.length
  length_le := by simpa using rb.length_le
  readAt_lt := by simpa using rb.readAt_lt

/-- The closure gets an element that it may change, and fails or not. -/
def enqueueOneWith (rb : RingBuffer α) (f : α → α × Except ε ρ) :
    Checked (RingBuffer α × Except Storage.Full (Except ε ρ)) :=
  if h : rb.isFull then .ok (rb, .error .mk)
  else do
    let index ← rb.getIdxUnchecked rb.length
    let elem ← Checked.index rb.storage index
    let rb' := rb.setElem index (f elem).1
    match (f elem).2 with
    | .ok r =>
      return ({ rb' with
          length := rb.length + 1
          length_le := by
            have := rb.length_le
            unfold isFull window capacity len at h
            simp only [rb', setElem, List.length_set]
            omega },
        .ok (.ok r))
    | .error e => return (rb', .ok (.error e))

/-- The element is returned, and the caller writes it. -/
def enqueueOne (rb : RingBuffer α) (write : α → α) :
    Checked (RingBuffer α × Except Storage.Full α) := do
  let (rb, r) ← rb.enqueueOneWith fun elem => (write elem, (.ok elem : Except Storage.Full α))
  return (rb, r.bind id)

def dequeueOneWith (rb : RingBuffer α) (f : α → α × Except ε ρ) :
    Checked (RingBuffer α × Except Storage.Empty (Except ε ρ)) :=
  if rb.isEmpty then .ok (rb, .error .mk)
  else do
    let nextAt ← rb.getIdxUnchecked 1
    let elem ← Checked.index rb.storage rb.readAt
    let rb' := rb.setElem rb.readAt (f elem).1
    match (f elem).2 with
    | .ok r =>
      return ({ rb' with
          readAt := nextAt
          length := rb.length - 1
          length_le := by
            have := rb.length_le
            simp only [rb', setElem, List.length_set]
            omega
          readAt_lt := by
            have := nextAt.2
            simp only [rb', setElem, List.length_set]
            unfold capacity at this
            omega },
        .ok (.ok r))
    | .error e => return (rb', .ok (.error e))

/-- The element is returned, and the caller may still write it. -/
def dequeueOne (rb : RingBuffer α) (write : α → α) :
    Checked (RingBuffer α × Except Storage.Empty α) := do
  let (rb, r) ← rb.dequeueOneWith fun elem => (write elem, (.ok elem : Except Storage.Empty α))
  return (rb, r.bind id)

/-! ### Continuous interface -/

/-- An empty ring starts again at the front, to have the most contiguous space. -/
def restart (rb : RingBuffer α) : RingBuffer α :=
  if rb.len = 0 then
    { rb with
      readAt := 0
      readAt_lt := by omega }
  else rb

def enqueueManyWith (rb : RingBuffer α) (f : Callback α ρ) : Checked (RingBuffer α × ℕ × ρ) :=
  let rb := rb.restart
  let writeAt := rb.getIdx rb.len
  let maxSize := rb.contiguousWindow
  let out := f ((rb.storage.drop writeAt).take maxSize)
  have hidx : writeAt ≤ rb.storage.length := rb.getIdx_le _
  have hlen : (rb.storage.overwrite writeAt out.buf).length = rb.storage.length :=
    List.length_overwrite (by rw [out.length_buf]; simp; omega)
  if h : out.size ≤ maxSize then
    .ok ({ storage := rb.storage.overwrite writeAt out.buf
           readAt := rb.readAt
           length := rb.length + out.size
           length_le := by
             have hwin : maxSize ≤ rb.storage.length - rb.length := Nat.min_le_left _ _
             have := rb.length_le
             rw [hlen]
             omega
           readAt_lt := by
             rw [hlen]
             exact rb.readAt_lt },
      out.size, out.result)
  else .error .assertFailed

def enqueueMany (rb : RingBuffer α) (size : ℕ) (write : Writer α) :
    Checked (RingBuffer α × List α) := do
  let (rb, _, slice) ← rb.enqueueManyWith (.takeTo size write)
  return (rb, slice)

def enqueueSlice (rb : RingBuffer α) (data : List α) : Checked (RingBuffer α × ℕ) := do
  let (rb, size₁, data) ← rb.enqueueManyWith (.copyFrom data)
  let (rb, size₂, _) ← rb.enqueueManyWith (.copyFrom data)
  return (rb, size₁ + size₂)

def dequeueManyWith (rb : RingBuffer α) (f : Callback α ρ) : Checked (RingBuffer α × ℕ × ρ) :=
  let maxSize := min rb.len (rb.capacity - rb.readAt)
  let out := f ((rb.storage.drop rb.readAt).take maxSize)
  have hread : rb.readAt ≤ rb.storage.length := by have := rb.readAt_lt; omega
  have hlen : (rb.storage.overwrite rb.readAt out.buf).length = rb.storage.length :=
    List.length_overwrite (by rw [out.length_buf]; simp; omega)
  if h : out.size ≤ maxSize then
    .ok ({ storage := rb.storage.overwrite rb.readAt out.buf
           readAt := rb.getIdx out.size
           length := rb.length - out.size
           length_le := by
             have := rb.length_le
             rw [hlen]
             omega
           readAt_lt := by
             rw [hlen]
             exact rb.getIdx_lt _ },
      out.size, out.result)
  else .error .assertFailed

def dequeueMany (rb : RingBuffer α) (size : ℕ) (write : Writer α) :
    Checked (RingBuffer α × List α) := do
  let (rb, _, slice) ← rb.dequeueManyWith (.takeTo size write)
  return (rb, slice)

/-- `dequeue_slice` into a slice of `n` elements. The elements read are returned. -/
def dequeueSlice (rb : RingBuffer α) (n : ℕ) : Checked (RingBuffer α × List α) := do
  let (rb, _, data₁) ← rb.dequeueManyWith (.readTo n)
  let (rb, _, data₂) ← rb.dequeueManyWith (.readTo (n - data₁.length))
  return (rb, data₁ ++ data₂)

/-! ### Random access interface -/

/-- Position and size of the slice that `get_unallocated` returns. -/
def getUnallocated (rb : RingBuffer α) (offset size : ℕ) : ℕ × ℕ :=
  let startAt := rb.getIdx (rb.len + offset)
  if rb.window < offset then (startAt, 0)
  else
    let size := min size (rb.window - offset)
    (startAt, min size (rb.capacity - startAt))

/-- Copy `data` into the slice that `get_unallocated` returns for it. -/
def copyUnallocated (rb : RingBuffer α) (offset : ℕ) (data : List α) : RingBuffer α × ℕ :=
  let s := rb.getUnallocated offset data.length
  have hs : s.1 + (data.take s.2).length ≤ rb.storage.length := by
    have hidx := rb.getIdx_le (rb.len + offset)
    simp only [s, getUnallocated]
    unfold capacity at *
    split_ifs
    · simpa using hidx
    · simp only [List.length_take]
      omega
  ({ storage := rb.storage.overwrite s.1 (data.take s.2)
     readAt := rb.readAt
     length := rb.length
     length_le := by rw [List.length_overwrite hs]; exact rb.length_le
     readAt_lt := by rw [List.length_overwrite hs]; exact rb.readAt_lt }, s.2)

def writeUnallocated (rb : RingBuffer α) (offset : ℕ) (data : List α) : RingBuffer α × ℕ :=
  let (rb, size₁) := rb.copyUnallocated offset data
  let (rb, size₂) := rb.copyUnallocated (offset + size₁) (data.drop size₁)
  (rb, size₁ + size₂)

def enqueueUnallocated (rb : RingBuffer α) (count : ℕ) : Checked (RingBuffer α) :=
  if h : count ≤ rb.window then
    .ok { rb with
      length := rb.length + count
      length_le := by
        have := rb.length_le
        unfold window capacity len at h
        omega }
  else .error .assertFailed

def getAllocated (rb : RingBuffer α) (offset size : ℕ) : List α :=
  let startAt := rb.getIdx offset
  if rb.len < offset then []
  else
    let size := min size (rb.len - offset)
    let size := min size (rb.capacity - startAt)
    (rb.storage.drop startAt).take size

/-- `read_allocated` into a slice of `n` elements. The elements read are returned. -/
def readAllocated (rb : RingBuffer α) (offset n : ℕ) : List α :=
  let data₁ := rb.getAllocated offset n
  let data₂ := rb.getAllocated (offset + data₁.length) (n - data₁.length)
  data₁ ++ data₂

def dequeueAllocated (rb : RingBuffer α) (count : ℕ) : Checked (RingBuffer α) :=
  if count ≤ rb.len then
    .ok { rb with
      readAt := rb.getIdx count
      length := rb.length - count
      length_le := by have := rb.length_le; omega
      readAt_lt := rb.getIdx_lt _ }
  else .error .assertFailed

end RingBuffer

end Smoltcp
