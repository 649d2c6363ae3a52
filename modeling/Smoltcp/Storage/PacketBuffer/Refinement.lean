import Smoltcp.Storage.PacketBuffer.Layout

/-!
# The packet buffer is a queue of packets

The entries of the metadata ring and the octets of the payload ring together stand for a list of
packets. Every operation is a step of that queue (`Queue.Step`), as long as `enqueueWithInfallible`
does not need the last entry of the metadata ring for padding: it writes the payload before it finds
out that there is no entry left for the packet.
-/

namespace Smoltcp

open Machine

/-! ### The rings -/

namespace RingBuffer

variable {α : Type} (rb : RingBuffer α)

lemma enqueueOne_of_full (h : rb.isFull) (write : α → α) :
    rb.enqueueOne write = .ok (rb, .error .mk) := by
  unfold enqueueOne enqueueOneWith
  rw [dif_pos h]
  rfl

lemma enqueueOne_of_not_full (h : ¬ rb.isFull) (write : α → α) :
    ∃ rb' x, rb.enqueueOne write = .ok (rb', .ok x) ∧
      rb'.fifo.queue = rb.fifo.queue ++ [write x] ∧ rb'.window = rb.window - 1 := by
  obtain ⟨rb', hrb', hfifo⟩ :=
    rb.enqueueOneWith_refines fun elem => (write elem, (.ok elem : Except Storage.Full α))
  have hspare := rb.length_spare
  have hwin := rb'.length_spare
  unfold Fifo.enqueueOneWith at hrb' hfifo
  cases hx : rb.fifo.spare with
  | nil =>
    rw [hx] at hspare
    exact absurd hspare.symm h
  | cons x spare =>
    simp only [hx] at hrb' hfifo
    rw [hx, List.length_cons] at hspare
    rw [hfifo] at hwin
    refine ⟨rb', x, ?_, by rw [hfifo], ?_⟩
    · unfold enqueueOne
      rw [hrb']
      rfl
    · change spare.length = rb'.window at hwin
      omega

lemma contiguousWindow_le_restart : rb.contiguousWindow ≤ rb.restart.contiguousWindow := by
  unfold restart
  split_ifs with h
  · have hle : rb.contiguousWindow ≤ rb.window := Nat.min_le_left _ _
    have hidx : (RingBuffer.mk rb.storage 0 rb.length rb.length_le (by omega)).getIdx rb.len =
      0 := by
      unfold getIdx
      split_ifs
      · rw [h]
        exact Nat.zero_mod _
      · rfl
    refine le_min hle ?_
    change rb.contiguousWindow ≤ rb.capacity - RingBuffer.getIdx _ rb.len
    rw [hidx]
    exact hle.trans (Nat.sub_le _ _)
  · exact le_rfl

lemma enqueueMany_of_le {size : ℕ} (h : size ≤ rb.restart.contiguousWindow) (write : Writer α) :
    ∃ rb' slice, rb.enqueueMany size write = .ok (rb', slice) ∧ slice.length = size ∧
      rb'.fifo.queue = rb.fifo.queue ++ (write slice).1 ∧ rb'.len = rb.len + size ∧
      rb'.readAt = rb.restart.readAt ∧ rb'.capacity = rb.capacity := by
  have hmatch := rb.enqueueManyWith_refines (.takeTo size write)
  have hspare := rb.restart.contiguous_spare.le
  rw [Fifo.enqueueManyWith_takeTo hspare, Nat.min_eq_left h, rb.spare_restart.queue_eq] at hmatch
  unfold enqueueMany
  generalize rb.enqueueManyWith (.takeTo size write) = x at hmatch
  cases hmatch with
  | @ok rb' _ _ hrb' =>
    obtain ⟨hfifo, hread, hcap⟩ := hrb'
    have hlen : (rb.restart.fifo.spare.take size).length = size := by
      rw [List.length_take]
      omega
    refine ⟨rb', _, rfl, hlen, by rw [hfifo], ?_, hread, hcap⟩
    rw [← length_queue, ← length_queue, hfifo, List.length_append, (write _).2, hlen]

lemma dequeueMany_of_le {size : ℕ} (h : size ≤ min rb.len (rb.capacity - rb.readAt))
    (write : Writer α) :
    ∃ rb', rb.dequeueMany size write = .ok (rb', rb.fifo.queue.take size) ∧
      rb'.fifo.queue = rb.fifo.queue.drop size ∧ rb'.len = rb.len - size ∧
      rb'.readAt = rb.getIdx size ∧ rb'.capacity = rb.capacity := by
  have hmatch := rb.dequeueManyWith_refines (.takeTo size write)
  have hqueue := rb.contiguous_queue.le
  have hsize : (Callback.takeTo size write rb.readSlice).size = size := by
    simp only [Callback.takeTo, length_readSlice]
    omega
  rw [Fifo.dequeueManyWith_takeTo hqueue, Nat.min_eq_left h, hsize] at hmatch
  unfold dequeueMany
  generalize rb.dequeueManyWith (.takeTo size write) = x at hmatch
  cases hmatch with
  | @ok rb' _ _ hrb' =>
    obtain ⟨hfifo, hread, hcap⟩ := hrb'
    refine ⟨rb', rfl, by rw [hfifo], ?_, hread, hcap⟩
    rw [← length_queue, ← length_queue, hfifo, List.length_drop]

lemma getIdx_add_contiguousWindow_le : rb.getIdx rb.len + rb.contiguousWindow ≤ rb.capacity := by
  have hidx := rb.getIdx_le rb.len
  unfold contiguousWindow
  omega

lemma readAt_restart_of_len_le {rb' : RingBuffer α} (hread : rb'.readAt = rb.restart.readAt)
    (hlen : rb.len ≤ rb'.len) : rb'.restart.readAt = rb.restart.readAt := by
  unfold restart at hread ⊢
  by_cases h : rb'.len = 0
  · rw [if_pos h, if_pos (Nat.eq_zero_of_le_zero (h ▸ hlen))]
  · rw [if_neg h, hread]

/-- A ring whose next free place is the first one has all its free places in a row. -/
lemma contiguousWindow_of_getIdx (h : rb.getIdx rb.len = 0) : rb.contiguousWindow = rb.window := by
  unfold contiguousWindow
  rw [h]
  exact Nat.min_eq_left (Nat.sub_le _ _)

end RingBuffer

namespace PacketBuffer

open PacketMetadata

variable {η ε ρ : Type}

/-! ### Abstraction -/

/-- The packets that entries cut out of the octets. -/
def packets : List (PacketMetadata η) → List UInt8 → List (η × List UInt8)
  | [], _ => []
  | m :: es, octets =>
    match m.header with
    | none => packets es (octets.drop m.size)
    | some header => (header, octets.take m.size) :: packets es (octets.drop m.size)

lemma packets_append {es es' : List (PacketMetadata η)} {octets octets' : List UInt8}
    (h : (es.map size).sum = octets.length) :
    packets (es ++ es') (octets ++ octets') = packets es octets ++ packets es' octets' := by
  induction es generalizing octets with
  | nil =>
    obtain rfl : octets = [] := List.length_eq_zero_iff.mp h.symm
    rfl
  | cons m es ih =>
    rw [List.map_cons, List.sum_cons] at h
    have hdropped : (es.map size).sum = (octets.drop m.size).length := by
      rw [List.length_drop]
      omega
    have hrest := ih hdropped
    have htake : (octets ++ octets').take m.size = octets.take m.size :=
      List.take_append_of_le_length (by omega)
    have hdrop : (octets ++ octets').drop m.size = octets.drop m.size ++ octets' :=
      List.drop_append_of_le_length (by omega)
    rw [List.cons_append, packets, packets, htake, hdrop, hrest]
    cases m.header with
    | none => rfl
    | some header => rfl

def entries (pb : PacketBuffer η) : List (PacketMetadata η) := pb.metadataRing.fifo.queue

def octets (pb : PacketBuffer η) : List UInt8 := pb.payloadRing.fifo.queue

/-- The packets in the buffer. -/
def queue (pb : PacketBuffer η) : List (η × List UInt8) := packets pb.entries pb.octets

/-- The entries describe the octets of the payload ring. -/
def Wf (pb : PacketBuffer η) : Prop :=
  Layout pb.payloadRing.capacity pb.payloadRing.readAt pb.entries pb.payloadRing.len

lemma getIdx_eq_wrap (rb : RingBuffer UInt8) (k : ℕ) :
    rb.getIdx k = wrap rb.capacity (rb.readAt + k) := rfl

lemma wrap_readAt (rb : RingBuffer UInt8) : wrap rb.capacity rb.readAt = rb.readAt :=
  rb.readAt_eq_getIdx_zero.symm

lemma wf_new (ms : List (PacketMetadata η)) (ps : List UInt8) : Wf (new ms ps) := by
  unfold Wf entries new
  rw [RingBuffer.fifo_new]
  exact .nil _ _

lemma queue_new (ms : List (PacketMetadata η)) (ps : List UInt8) : (new ms ps).queue = [] := by
  unfold queue entries new
  rw [RingBuffer.fifo_new]
  rfl

variable {pb : PacketBuffer η}

lemma Wf.sum_eq (h : Wf pb) : (pb.entries.map size).sum = pb.octets.length := by
  rw [octets, RingBuffer.length_queue]
  exact h.sum

/-- The octets may be moved to the front of an empty ring. -/
lemma Wf.restart (h : Wf pb) :
    Pieces pb.payloadRing.capacity pb.payloadRing.restart.readAt pb.entries pb.payloadRing.len := by
  unfold RingBuffer.restart
  split_ifs with hlen
  · unfold Wf at h
    rw [hlen] at h ⊢
    exact h.restart.toPieces
  · exact h.toPieces

/-! ### The queue -/

inductive Op (η ε ρ : Type) where
  | enqueue (size : ℕ) (header : η) (write : Writer UInt8)
  | enqueueWithInfallible (maxSize : ℕ) (header : η) (f : Callback UInt8 Unit)
  | dequeue (write : Writer UInt8)
  | dequeueWith (f : PacketCallback η ε ρ)
  | peek
  | reset

inductive Outcome (η ε ρ : Type) where
  | enqueue (r : Except Storage.Full Unit)
  | enqueueWithInfallible (r : Except Storage.Full ℕ)
  | dequeue (r : Except Storage.Empty (η × List UInt8))
  | dequeueWith (r : Except Storage.Empty (Except ε ρ))
  | peek (r : Except Storage.Empty (η × List UInt8))
  | reset
  deriving DecidableEq

def step (pb : PacketBuffer η) : Op η ε ρ → Checked (PacketBuffer η × Outcome η ε ρ)
  | .enqueue size header write => do
    let (pb, r) ← pb.enqueue size header write
    return (pb, .enqueue r)
  | .enqueueWithInfallible maxSize header f => do
    let (pb, r) ← pb.enqueueWithInfallible maxSize header f
    return (pb, .enqueueWithInfallible r)
  | .dequeue write => do
    let (pb, r) ← pb.dequeue write
    return (pb, .dequeue r)
  | .dequeueWith f => do
    let (pb, r) ← pb.dequeueWith f
    return (pb, .dequeueWith r)
  | .peek => do
    let (pb, r) ← pb.peek
    return (pb, .peek r)
  | .reset => return (pb.reset, .reset)

abbrev Queue (η : Type) := List (η × List UInt8)

/-- What an operation does to a queue of packets. -/
inductive Queue.Step : Queue η → Op η ε ρ → Checked (Queue η × Outcome η ε ρ) → Prop where
  | enqueue (q : Queue η) {size : ℕ} (header : η) (write : Writer UInt8) {buf : List UInt8}
      (hbuf : buf.length = size) :
      Step q (.enqueue size header write) (.ok (q ++ [(header, (write buf).1)], .enqueue (.ok ())))
  | enqueueFull (q : Queue η) (size : ℕ) (header : η) (write : Writer UInt8) :
      Step q (.enqueue size header write) (.ok (q, .enqueue (.error .mk)))
  | enqueueWith (q : Queue η) {maxSize : ℕ} (header : η) (f : Callback UInt8 Unit)
      {buf : List UInt8} (hbuf : buf.length = maxSize) :
      Step q (.enqueueWithInfallible maxSize header f)
        (.ok (q ++ [(header, (f buf).buf.take (f buf).size)],
          .enqueueWithInfallible (.ok (f buf).size)))
  | enqueueWithFull (q : Queue η) (maxSize : ℕ) (header : η) (f : Callback UInt8 Unit) :
      Step q (.enqueueWithInfallible maxSize header f)
        (.ok (q, .enqueueWithInfallible (.error .mk)))
  | dequeue (q : Queue η) (header : η) (payload : List UInt8) (write : Writer UInt8) :
      Step ((header, payload) :: q) (.dequeue write) (.ok (q, .dequeue (.ok (header, payload))))
  | dequeueEmpty (write : Writer UInt8) :
      Step [] (.dequeue write) (.ok ([], .dequeue (.error .mk)))
  | dequeueWith (q : Queue η) {header : η} {payload : List UInt8} {f : PacketCallback η ε ρ} {r : ρ}
      (hr : (f header payload).result = .ok r) :
      Step ((header, payload) :: q) (.dequeueWith f) (.ok (q, .dequeueWith (.ok (.ok r))))
  | dequeueWithFailed (q : Queue η) {header : η} {payload : List UInt8} {f : PacketCallback η ε ρ}
      {e : ε} (he : (f header payload).result = .error e) :
      Step ((header, payload) :: q) (.dequeueWith f)
        (.ok ((header, payload) :: q, .dequeueWith (.ok (.error e))))
  | dequeueWithEmpty (f : PacketCallback η ε ρ) :
      Step [] (.dequeueWith f) (.ok ([], .dequeueWith (.error .mk)))
  | peek (q : Queue η) (header : η) (payload : List UInt8) :
      Step ((header, payload) :: q) .peek
        (.ok ((header, payload) :: q, .peek (.ok (header, payload))))
  | peekEmpty : Step [] .peek (.ok ([], .peek (.error .mk)))
  | reset (q : Queue η) : Step q .reset (.ok ([], .reset))

/-- Operations that do not run into the end of the metadata ring between padding and packet, and
closures that do as they should: one for a new packet reports no more octets than it got, one that
fails leaves the packet as it was. -/
def Admissible (pb : PacketBuffer η) : Op η ε ρ → Prop
  | .enqueueWithInfallible maxSize _ f =>
    (∀ buf, buf.length = maxSize → (f buf).size ≤ maxSize) ∧
    ¬ (pb.payloadRing.contiguousWindow < maxSize ∧
      maxSize ≤ pb.payloadRing.window - pb.payloadRing.contiguousWindow ∧
      pb.metadataRing.window = 1)
  | .dequeueWith f => ∀ header payload e, (f header payload).result = .error e →
    (f header payload).header = header ∧ (f header payload).payload = payload
  | _ => True

/-! ### Enqueueing -/

/-- No padding is next to a place where the ring does not start again. -/
lemma Wf.not_isPadding (h : Wf pb)
    (hlt : pb.payloadRing.contiguousWindow < pb.payloadRing.window) (m : PacketMetadata η)
    (hm : pb.entries.getLast? = some m) : ¬ m.isPadding := by
  intro hpad
  have hzero : pb.payloadRing.getIdx pb.payloadRing.len = 0 := h.last m hm hpad
  rw [pb.payloadRing.contiguousWindow_of_getIdx hzero] at hlt
  exact lt_irrefl _ hlt

/-- Octets up to the end of the ring leave the next free place at its front. -/
lemma getIdx_of_padded {rb rb' : RingBuffer UInt8}
    (hlt : rb.contiguousWindow < rb.window) (hread : rb'.readAt = rb.readAt)
    (hlen : rb'.len = rb.len + rb.contiguousWindow) (hcap : rb'.capacity = rb.capacity) :
    rb'.getIdx rb'.len = 0 := by
  have hend : rb.getIdx rb.len + rb.contiguousWindow = rb.capacity := by
    have := rb.getIdx_le rb.len
    unfold RingBuffer.contiguousWindow at hlt ⊢
    omega
  rw [getIdx_eq_wrap, hread, hlen, hcap, ← Nat.add_assoc, ← wrap_add, ← getIdx_eq_wrap, hend]
  unfold wrap
  split_ifs
  · exact Nat.mod_self _
  · rfl

/-- The padding that `makeRoom` adds takes its place in the rings, and leaves room for a packet. -/
lemma addPadding_spec (h : Wf pb) {n : ℕ} (hfull : ¬ pb.metadataRing.isFull)
    (hlt : pb.payloadRing.contiguousWindow < n)
    (hle : n ≤ pb.payloadRing.window - pb.payloadRing.contiguousWindow) :
    ∃ pb', pb.addPadding pb.payloadRing.contiguousWindow = .ok (pb', .ok ()) ∧
      Pieces pb'.payloadRing.capacity pb'.payloadRing.restart.readAt pb'.entries
        pb'.payloadRing.len ∧
      pb'.queue = pb.queue ∧ n ≤ pb'.payloadRing.contiguousWindow ∧
      pb'.metadataRing.window = pb.metadataRing.window - 1 ∧
      pb'.payloadRing.capacity = pb.payloadRing.capacity ∧
      (pb.payloadRing.restart = pb.payloadRing → Wf pb') := by
  have hwin := pb.payloadRing.len_add_window
  have hlast := h.not_isPadding (by omega)
  obtain ⟨metadataRing, x, hmeta, hentries, hwindow⟩ :=
    pb.metadataRing.enqueueOne_of_not_full hfull fun _ => .padding pb.payloadRing.contiguousWindow
  obtain ⟨payloadRing, slice, hpayload, hslice, hoctets, hlen, hread, hcap⟩ :=
    pb.payloadRing.enqueueMany_of_le pb.payloadRing.contiguousWindow_le_restart untouched
  have hwin' := payloadRing.len_add_window
  have hplace := pb.payloadRing.restart.getIdx_add_contiguousWindow_le
  have hrestart := pb.payloadRing.readAt_restart_of_len_le hread (by omega)
  have hle' := pb.payloadRing.contiguousWindow_le_restart
  have hpieces := h.restart.padding hlast (n := pb.payloadRing.contiguousWindow) (by
    rw [getIdx_eq_wrap, RingBuffer.len_restart, RingBuffer.capacity_restart] at hplace
    omega)
  refine ⟨⟨metadataRing, payloadRing⟩, ?_, ?_, ?_, ?_, hwindow, hcap, ?_⟩
  · unfold addPadding
    rw [hmeta, Checked.ok_bind]
    simp only [hpayload, Checked.ok_bind, Checked.pure_eq_ok]
  · rw [hrestart, hcap, hlen, entries, hentries]
    exact hpieces
  · unfold queue entries octets
    rw [hentries, hoctets]
    refine (packets_append h.sum_eq).trans ?_
    simp [packets, padding, entries, octets]
  · -- an empty ring starts again at its front, else the next free place is there
    rcases Nat.eq_zero_or_pos pb.payloadRing.len with hzero | hpos
    · have hfront : payloadRing.readAt = 0 := by
        rw [hread, RingBuffer.restart, if_pos hzero]
      have hidx := payloadRing.getIdx_eq payloadRing.len_le (by omega)
      rw [if_pos (by omega)] at hidx
      change n ≤ min payloadRing.window (payloadRing.capacity - payloadRing.getIdx payloadRing.len)
      omega
    · have hsame := pb.payloadRing.restart_of_ne (by omega)
      rw [hsame] at hread
      rw [payloadRing.contiguousWindow_of_getIdx
        (getIdx_of_padded (by omega) hread hlen hcap)]
      omega
  · intro hsame
    rw [hsame] at hread hpieces
    have hlt : pb.payloadRing.contiguousWindow < pb.payloadRing.window := by omega
    have hzero := getIdx_of_padded hlt hread hlen hcap
    refine ⟨?_, fun _ _ _ => hzero⟩
    rw [hread, hcap, hlen, entries, hentries]
    exact hpieces

/-- What `makeRoom` has reached when it succeeds. -/
structure Roomy (pb pb' : PacketBuffer η) (n : ℕ) : Prop where
  pieces : Pieces pb'.payloadRing.capacity pb'.payloadRing.restart.readAt pb'.entries
    pb'.payloadRing.len
  queue_eq : pb'.queue = pb.queue
  fits : n ≤ pb'.payloadRing.contiguousWindow
  not_isFull : ¬ (pb.payloadRing.contiguousWindow < n ∧
      n ≤ pb.payloadRing.window - pb.payloadRing.contiguousWindow ∧
      pb.metadataRing.window = 1) → ¬ pb'.metadataRing.isFull
  wf : pb.payloadRing.restart = pb.payloadRing → Wf pb'

lemma makeRoom_spec (h : Wf pb) (hfull : ¬ pb.metadataRing.isFull) (n : ℕ) :
    pb.makeRoom n = .ok (pb, .error .mk) ∨
      ∃ pb', pb.makeRoom n = .ok (pb', .ok ()) ∧ Roomy pb pb' n := by
  unfold makeRoom
  dsimp only
  split_ifs with hwindow hcontig hpad
  · exact .inl rfl
  · exact .inl rfl
  · obtain ⟨pb', hpb', hpieces, hqueue, hfits, hwin, -, hwf⟩ :=
      addPadding_spec h hfull hcontig (by omega)
    refine .inr ⟨pb', hpb', hpieces, hqueue, hfits, fun hone hfull' => ?_, hwf⟩
    refine hone ⟨hcontig, by omega, ?_⟩
    unfold RingBuffer.isFull at hfull hfull'
    omega
  · exact .inr ⟨pb, rfl, h.restart, rfl, by omega, fun _ => hfull, fun _ => h⟩

lemma enqueueMetadata_of_full (h : pb.metadataRing.isFull) (size : ℕ) (header : η) :
    pb.enqueueMetadata size header = .ok (pb, .error .mk) := by
  unfold enqueueMetadata
  rw [RingBuffer.enqueueOne_of_full _ h]
  rfl

lemma enqueueMetadata_of_not_full (h : ¬ pb.metadataRing.isFull) (size : ℕ) (header : η) :
    ∃ metadataRing, pb.enqueueMetadata size header = .ok (⟨metadataRing, pb.payloadRing⟩, .ok ()) ∧
      metadataRing.fifo.queue = pb.entries ++ [.packet size header] := by
  obtain ⟨metadataRing, x, hmeta, hentries, -⟩ :=
    pb.metadataRing.enqueueOne_of_not_full h fun _ => .packet size header
  refine ⟨metadataRing, ?_, hentries⟩
  unfold enqueueMetadata
  rw [hmeta]
  rfl

/-- A new packet behind the others. -/
lemma Pieces.enqueue {pb' : PacketBuffer η} {n : ℕ} {header : η} {data : List UInt8}
    (h : Pieces pb.payloadRing.capacity pb.payloadRing.restart.readAt pb.entries
      pb.payloadRing.len)
    (hn : n ≤ pb.payloadRing.restart.contiguousWindow) (hdata : data.length = n)
    (hentries : pb'.entries = pb.entries ++ [.packet n header])
    (hoctets : pb'.octets = pb.octets ++ data)
    (hread : pb'.payloadRing.readAt = pb.payloadRing.restart.readAt)
    (hcap : pb'.payloadRing.capacity = pb.payloadRing.capacity) :
    Wf pb' ∧ pb'.queue = pb.queue ++ [(header, data)] := by
  have hplace := pb.payloadRing.restart.getIdx_add_contiguousWindow_le
  rw [getIdx_eq_wrap, RingBuffer.len_restart, RingBuffer.capacity_restart] at hplace
  have hlen : pb'.payloadRing.len = pb.payloadRing.len + n := by
    rw [← RingBuffer.length_queue, ← RingBuffer.length_queue, ← hdata, ← List.length_append]
    exact congrArg List.length hoctets
  constructor
  · unfold Wf
    rw [hread, hcap, hentries, hlen]
    exact h.packet header (by omega)
  · have hsum : (pb.entries.map size).sum = pb.octets.length := by
      rw [octets, RingBuffer.length_queue]
      exact h.sum
    rw [queue, hentries, hoctets, packets_append hsum, ← hdata]
    simp [packets, PacketMetadata.packet, queue]

lemma wf_clearEmpty (h : Wf pb) : Wf pb.clearEmpty ∧ pb.clearEmpty.queue = pb.queue ∧
    pb.clearEmpty.payloadRing.restart = pb.clearEmpty.payloadRing ∧
    pb.clearEmpty.metadataRing = pb.metadataRing := by
  unfold clearEmpty
  split_ifs with hempty
  · have hlen : pb.payloadRing.len = 0 := hempty
    have hnew := RingBuffer.fifo_new pb.payloadRing.storage
    have hnil : pb.octets = [] := List.length_eq_zero_iff.mp (by
      rw [octets, RingBuffer.length_queue, hlen])
    refine ⟨?_, ?_, rfl, rfl⟩
    · unfold Wf at h ⊢
      rw [hlen] at h
      exact h.restart
    · unfold queue
      rw [hnil, octets, RingBuffer.clear, hnew]
      rfl
  · exact ⟨h, rfl, pb.payloadRing.restart_of_ne hempty, rfl⟩

lemma enqueue_refines (h : Wf pb) (size : ℕ) (header : η) (write : Writer UInt8) :
    ∃ pb' r, pb.step (.enqueue size header write : Op η ε ρ) = .ok (pb', r) ∧ Wf pb' ∧
      Queue.Step pb.queue (.enqueue size header write) (.ok (pb'.queue, r)) := by
  obtain ⟨hwf, hqueue, hrestart, hmeta⟩ := wf_clearEmpty h
  simp only [step]
  unfold enqueue
  by_cases hsmall : pb.payloadRing.capacity < size ∨ pb.metadataRing.isFull
  · rw [if_pos hsmall]
    exact ⟨pb, _, rfl, h, .enqueueFull _ _ _ _⟩
  rw [if_neg hsmall]
  have hfull : ¬ pb.clearEmpty.metadataRing.isFull := by
    rw [hmeta]
    exact fun hfull => hsmall (.inr hfull)
  rcases makeRoom_spec hwf hfull size with hroom | ⟨pb₁, hroom, hroomy⟩
  · rw [hroom]
    refine ⟨_, _, rfl, hwf, ?_⟩
    rw [hqueue]
    exact .enqueueFull _ _ _ _
  rw [hroom]
  simp only [Checked.ok_bind]
  by_cases hfull₁ : pb₁.metadataRing.isFull
  · rw [enqueueMetadata_of_full hfull₁]
    refine ⟨_, _, rfl, hroomy.wf hrestart, ?_⟩
    rw [hroomy.queue_eq, hqueue]
    exact .enqueueFull _ _ _ _
  · obtain ⟨metadataRing, hmeta₁, hentries⟩ := enqueueMetadata_of_not_full hfull₁ size header
    have hfits := hroomy.fits.trans pb₁.payloadRing.contiguousWindow_le_restart
    obtain ⟨payloadRing, slice, hpayload, hslice, hoctets, -, hread, hcap⟩ :=
      pb₁.payloadRing.enqueueMany_of_le hfits write
    have hdata : (write slice).1.length = size := by rw [(write slice).2, hslice]
    obtain ⟨hwf', hqueue'⟩ : Wf ⟨metadataRing, payloadRing⟩ ∧ _ :=
      hroomy.pieces.enqueue hfits hdata hentries hoctets hread hcap
    refine ⟨⟨metadataRing, payloadRing⟩, .enqueue (.ok ()), ?_, hwf', ?_⟩
    · rw [hmeta₁]
      simp only [Checked.ok_bind, enqueuePayload, hpayload, hslice, Checked.assert_of,
        Checked.pure_eq_ok]
    · rw [hqueue', hroomy.queue_eq, hqueue]
      exact .enqueue _ _ _ hslice

/-- The octets that `enqueueWithInfallible` hands to its closure, and what it keeps of them. -/
lemma enqueueManyWith_firstOctets (rb : RingBuffer UInt8) {n : ℕ}
    (hn : n ≤ rb.restart.contiguousWindow) {f : Callback UInt8 Unit}
    (hf : ∀ buf, buf.length = n → (f buf).size ≤ n) :
    ∃ rb' buf, buf.length = n ∧
      rb.enqueueManyWith (firstOctets n f) = .ok (rb', (f buf).size, ()) ∧
      rb'.fifo.queue = rb.fifo.queue ++ (f buf).buf.take (f buf).size ∧
      rb'.readAt = rb.restart.readAt ∧ rb'.capacity = rb.capacity := by
  have hmatch := rb.enqueueManyWith_refines (firstOctets n f)
  have hspare := rb.restart.contiguous_spare.le
  set slice := rb.restart.fifo.spare.take rb.restart.contiguousWindow with hslice
  have hlen : (slice.take n).length = n := by
    rw [List.length_take, hslice, List.length_take]
    omega
  have hsize := hf _ hlen
  have hbuf := (f (slice.take n)).length_buf
  have htake : (firstOctets n f slice).buf.take (firstOctets n f slice).size =
      (f (slice.take n)).buf.take (f (slice.take n)).size :=
    List.take_append_of_le_length (show (f (slice.take n)).size ≤ _ by omega)
  have hle : (firstOctets n f slice).size ≤ rb.restart.contiguousWindow := hsize.trans hn
  unfold RingBuffer.Fifo.enqueueManyWith at hmatch
  dsimp only at hmatch
  rw [if_pos hle, htake, rb.spare_restart.queue_eq] at hmatch
  generalize rb.enqueueManyWith (firstOctets n f) = x at hmatch
  cases hmatch with
  | @ok rb' _ _ hrb' =>
    obtain ⟨hfifo, hread, hcap⟩ := hrb'
    exact ⟨rb', slice.take n, hlen, rfl, by rw [hfifo], hread, hcap⟩

lemma enqueueWithInfallible_refines (h : Wf pb) {maxSize : ℕ} {header : η} {f : Callback UInt8 Unit}
    (hok : Admissible pb (.enqueueWithInfallible maxSize header f : Op η ε ρ)) :
    ∃ pb' r, pb.step (.enqueueWithInfallible maxSize header f : Op η ε ρ) = .ok (pb', r) ∧ Wf pb' ∧
      Queue.Step pb.queue (.enqueueWithInfallible maxSize header f) (.ok (pb'.queue, r)) := by
  obtain ⟨hf, hone⟩ := hok
  simp only [step]
  unfold enqueueWithInfallible
  by_cases hsmall : pb.payloadRing.capacity < maxSize ∨ pb.metadataRing.isFull
  · rw [if_pos hsmall]
    exact ⟨pb, _, rfl, h, .enqueueWithFull _ _ _ _⟩
  rw [if_neg hsmall]
  rcases makeRoom_spec h (fun hfull => hsmall (.inr hfull)) maxSize with
    hroom | ⟨pb₁, hroom, hroomy⟩
  · rw [hroom]
    exact ⟨pb, _, rfl, h, .enqueueWithFull _ _ _ _⟩
  rw [hroom]
  simp only [Checked.ok_bind]
  have hfits := hroomy.fits.trans pb₁.payloadRing.contiguousWindow_le_restart
  obtain ⟨payloadRing, buf, hbuf, hpayload, hoctets, hread, hcap⟩ :=
    enqueueManyWith_firstOctets pb₁.payloadRing hfits hf
  have hsize := hf buf hbuf
  obtain ⟨metadataRing, hmeta, hentries⟩ :=
    @enqueueMetadata_of_not_full _ ⟨pb₁.metadataRing, payloadRing⟩ (hroomy.not_isFull hone)
      (f buf).size header
  have hdata : ((f buf).buf.take (f buf).size).length = (f buf).size := by
    rw [List.length_take, (f buf).length_buf]
    omega
  obtain ⟨hwf', hqueue'⟩ : Wf ⟨metadataRing, payloadRing⟩ ∧ _ :=
    hroomy.pieces.enqueue (hsize.trans hfits) hdata hentries hoctets hread hcap
  refine ⟨⟨metadataRing, payloadRing⟩, .enqueueWithInfallible (.ok (f buf).size), ?_, hwf', ?_⟩
  · rw [Checked.slice_of (Nat.zero_le _) (by rw [RingBuffer.length_writeSlice]; exact hfits),
      Checked.ok_bind, hpayload, Checked.ok_bind]
    simp only [hmeta]
    rfl
  · rw [hqueue', hroomy.queue_eq]
    exact .enqueueWith _ _ _ hbuf

/-! ### Dequeueing -/

/-- The first entry fits into what the payload ring hands out at once. -/
lemma Wf.size_le {m : PacketMetadata η} {es : List (PacketMetadata η)} (h : Wf pb)
    (hes : pb.entries = m :: es) :
    m.size ≤ min pb.payloadRing.len (pb.payloadRing.capacity - pb.payloadRing.readAt) := by
  unfold Wf at h
  rw [hes] at h
  obtain ⟨hlen, hplace⟩ := h.head_le
  rw [wrap_readAt] at hplace
  omega

/-- What is left behind the first entry. -/
lemma Wf.tail {pb' : PacketBuffer η} {m : PacketMetadata η} {es : List (PacketMetadata η)}
    (h : Wf pb) (hes : pb.entries = m :: es) (hes' : pb'.entries = es)
    (hlen : pb'.payloadRing.len = pb.payloadRing.len - m.size)
    (hread : pb'.payloadRing.readAt = pb.payloadRing.getIdx m.size)
    (hcap : pb'.payloadRing.capacity = pb.payloadRing.capacity) : Wf pb' := by
  unfold Wf at h ⊢
  rw [hes] at h
  rw [hes', hlen, hread, hcap]
  exact h.tail

/-- A metadata ring with the same entries stands for the same packets. -/
lemma Wf.congr {metadataRing : RingBuffer (PacketMetadata η)} (h : Wf pb)
    (hes : metadataRing.fifo.queue = pb.entries) :
    Wf ⟨metadataRing, pb.payloadRing⟩ ∧ queue ⟨metadataRing, pb.payloadRing⟩ = pb.queue := by
  constructor
  · unfold Wf entries
    rw [hes]
    exact h
  · unfold queue
    rw [← hes]
    rfl

lemma dequeuePadding_spec (h : Wf pb) :
    ∃ pb', pb.dequeuePadding = .ok pb' ∧ Wf pb' ∧ pb'.queue = pb.queue ∧
      ∀ m es, pb'.entries = m :: es → ¬ m.isPadding := by
  obtain ⟨metadataRing, hmeta, hfifo⟩ := pb.metadataRing.dequeueOneWith_refines fun metadata =>
    (metadata, if metadata.isPadding then .ok metadata.size else (.error () : Except Unit ℕ))
  unfold dequeuePadding
  rw [hmeta, Checked.ok_bind]
  unfold RingBuffer.Fifo.dequeueOneWith at hfifo ⊢
  cases hes : pb.metadataRing.fifo.queue with
  | nil =>
    simp only [hes] at hfifo ⊢
    have hentries : metadataRing.fifo.queue = pb.entries := by rw [hfifo]; rfl
    obtain ⟨hwf, hqueue⟩ := h.congr hentries
    refine ⟨⟨metadataRing, pb.payloadRing⟩, rfl, hwf, hqueue, ?_⟩
    intro m es hcons
    rw [entries, hentries, entries, hes] at hcons
    cases hcons
  | cons m es =>
    simp only [hes] at hfifo ⊢
    have hcons : pb.entries = m :: es := hes
    by_cases hpad : m.isPadding
    · simp only [hpad, if_true] at hfifo ⊢
      obtain ⟨payloadRing, hpayload, hoctets, hlen, hread, hcap⟩ :=
        pb.payloadRing.dequeueMany_of_le (h.size_le hcons) untouched
      have hentries : metadataRing.fifo.queue = es := by rw [hfifo]
      rw [hpayload, Checked.ok_bind]
      refine ⟨⟨metadataRing, payloadRing⟩, rfl, h.tail hcons hentries hlen hread hcap, ?_, ?_⟩
      · have hheader : m.header = none := hpad
        rw [queue, queue, hcons, packets, hheader, octets, hoctets, entries, hentries, octets]
      · intro m' es' hes'
        rw [entries, hentries] at hes'
        unfold Wf at h
        rw [hcons, hes'] at h
        exact h.not_isPadding_of_cons hpad
    · simp only [hpad, if_false] at hfifo ⊢
      have hentries : metadataRing.fifo.queue = pb.entries := by rw [hfifo, hcons]
      obtain ⟨hwf, hqueue⟩ := h.congr hentries
      refine ⟨⟨metadataRing, pb.payloadRing⟩, rfl, hwf, hqueue, ?_⟩
      intro m' es' hes'
      rw [entries, hentries, hcons] at hes'
      cases hes'
      exact hpad

/-- The first packet, once padding is gone. -/
lemma exists_header {m : PacketMetadata η} {es : List (PacketMetadata η)}
    (hes : pb.entries = m :: es) (hpad : ¬ m.isPadding) :
    ∃ header, m.header = some header ∧
      pb.queue = (header, pb.octets.take m.size) :: packets es (pb.octets.drop m.size) := by
  obtain ⟨header, hheader⟩ := Option.ne_none_iff_exists'.mp hpad
  exact ⟨header, hheader, by rw [queue, hes, packets, hheader]⟩

lemma queue_eq_nil (hes : pb.entries = []) : pb.queue = [] := by
  rw [queue, hes, packets]

lemma dequeue_refines (h : Wf pb) (write : Writer UInt8) :
    ∃ pb' r, pb.step (.dequeue write : Op η ε ρ) = .ok (pb', r) ∧ Wf pb' ∧
      Queue.Step pb.queue (.dequeue write) (.ok (pb'.queue, r)) := by
  obtain ⟨pb₁, hpb₁, hwf, hqueue, hpad⟩ := dequeuePadding_spec h
  obtain ⟨metadataRing, hmeta, hfifo⟩ := pb₁.metadataRing.dequeueOneWith_refines fun metadata =>
    ({ metadata with header := none }, (.ok metadata : Except Storage.Empty (PacketMetadata η)))
  rw [← hqueue]
  simp only [step]
  unfold dequeue RingBuffer.dequeueOne
  rw [hpb₁, Checked.ok_bind, hmeta, Checked.ok_bind]
  unfold RingBuffer.Fifo.dequeueOneWith at hfifo ⊢
  cases hes : pb₁.metadataRing.fifo.queue with
  | nil =>
    simp only [hes] at hfifo ⊢
    have hentries : metadataRing.fifo.queue = pb₁.entries := by rw [hfifo]; rfl
    obtain ⟨hwf', hqueue'⟩ := hwf.congr hentries
    refine ⟨⟨metadataRing, pb₁.payloadRing⟩, .dequeue (.error .mk), rfl, hwf', ?_⟩
    rw [hqueue', queue_eq_nil hes]
    exact .dequeueEmpty write
  | cons m es =>
    simp only [hes] at hfifo ⊢
    have hcons : pb₁.entries = m :: es := hes
    have hentries : metadataRing.fifo.queue = es := by rw [hfifo]
    obtain ⟨header, hheader, hqueue₁⟩ := exists_header hcons (hpad m es hcons)
    have hsize := hwf.size_le hcons
    obtain ⟨payloadRing, hpayload, hoctets, hlen, hread, hcap⟩ :=
      pb₁.payloadRing.dequeueMany_of_le hsize write
    have htake : (pb₁.payloadRing.fifo.queue.take m.size).length = m.size := by
      rw [List.length_take, RingBuffer.length_queue]
      omega
    refine ⟨⟨metadataRing, payloadRing⟩, .dequeue (.ok (header, pb₁.octets.take m.size)), ?_,
      hwf.tail hcons hentries hlen hread hcap, ?_⟩
    · simp only [Checked.pure_eq_ok, Checked.ok_bind, Except.bind, id, hpayload,
        Checked.assert_of htake, hheader, Checked.unwrap]
      rfl
    · have hrest : queue ⟨metadataRing, payloadRing⟩ = packets es (pb₁.octets.drop m.size) := by
        rw [queue, entries, hentries]
        exact congrArg (packets es) hoctets
      rw [hqueue₁, hrest]
      exact .dequeue _ _ _ write

/-! ### The first packet, handed to a closure -/

/-- What `handPacket` leaves of the octets. -/
lemma dequeueManyWith_handPacket (rb : RingBuffer UInt8) {n : ℕ}
    (hn : n ≤ min rb.len (rb.capacity - rb.readAt)) (header : η) {f : PacketCallback η ε ρ}
    (hf : ∀ e, (f header (rb.fifo.queue.take n)).result = .error e →
      (f header (rb.fifo.queue.take n)).payload = rb.fifo.queue.take n) {k : ℕ}
    (hk : k = if (f header (rb.fifo.queue.take n)).result.isOk then n else 0) :
    ∃ rb', rb.dequeueManyWith (handPacket n header f) =
        .ok (rb', k, (f header (rb.fifo.queue.take n)).header,
          (f header (rb.fifo.queue.take n)).result) ∧
      rb'.fifo.queue = rb.fifo.queue.drop k ∧ rb'.len = rb.len - k ∧
      rb'.readAt = rb.getIdx k ∧ rb'.capacity = rb.capacity := by
  have hmatch := rb.dequeueManyWith_refines (handPacket n header f)
  have hqueue := rb.length_queue
  have hread : rb.readSlice = rb.fifo.queue.take (min rb.len (rb.capacity - rb.readAt)) :=
    rb.readSlice_eq
  rw [hread] at hmatch
  set slice := rb.fifo.queue.take (min rb.len (rb.capacity - rb.readAt)) with hslice
  have htake : slice.take n = rb.fifo.queue.take n := by
    rw [hslice, List.take_take, Nat.min_eq_left hn]
  have hsize : (handPacket n header f slice).size = k := by
    rw [hk, ← htake]
    rfl
  have hresult : (handPacket n header f slice).result =
      ((f header (rb.fifo.queue.take n)).header, (f header (rb.fifo.queue.take n)).result) := by
    rw [← htake]
    rfl
  have hbuf : (handPacket n header f slice).buf =
      (f header (rb.fifo.queue.take n)).payload ++ slice.drop n := by
    rw [← htake]
    rfl
  have hpayload := (f header (rb.fifo.queue.take n)).length_payload
  have hlen : (rb.fifo.queue.take n).length = n := by
    rw [List.length_take]
    omega
  have hle : (handPacket n header f slice).size ≤ min rb.len (rb.capacity - rb.readAt) := by
    rw [hsize, hk]
    split_ifs <;> omega
  -- the octets that stay are those the closure did not take
  have hrest : (handPacket n header f slice).buf.drop k ++
      rb.fifo.queue.drop (min rb.len (rb.capacity - rb.readAt)) = rb.fifo.queue.drop k := by
    have hsplit := List.drop_take_append_drop rb.fifo.queue n
      (min rb.len (rb.capacity - rb.readAt) - n)
    rw [Nat.add_sub_cancel' hn] at hsplit
    rw [hbuf, hk]
    cases hres : (f header (rb.fifo.queue.take n)).result with
    | ok r =>
      simp only [Except.isOk, Except.toBool, if_true]
      rw [List.drop_append_of_le_length (by omega), List.drop_of_length_le (by omega),
        List.nil_append, hslice, List.drop_take, hsplit]
    | error e =>
      simp only [Except.isOk, Except.toBool, Bool.false_eq_true, if_false, List.drop_zero]
      rw [hf e hres, List.append_assoc, hslice, List.drop_take, hsplit, List.take_append_drop]
  unfold RingBuffer.Fifo.dequeueManyWith at hmatch
  dsimp only at hmatch
  rw [if_pos hle, hsize, hrest, hresult] at hmatch
  generalize rb.dequeueManyWith (handPacket n header f) = x at hmatch
  cases hmatch with
  | @ok rb' _ _ hrb' =>
    obtain ⟨hfifo, hread', hcap⟩ := hrb'
    refine ⟨rb', rfl, by rw [hfifo], ?_, hread', hcap⟩
    rw [← RingBuffer.length_queue, ← RingBuffer.length_queue, hfifo, List.length_drop]

lemma dequeueWith_refines (h : Wf pb) {f : PacketCallback η ε ρ}
    (hok : Admissible pb (.dequeueWith f)) :
    ∃ pb' r, pb.step (.dequeueWith f) = .ok (pb', r) ∧ Wf pb' ∧
      Queue.Step pb.queue (.dequeueWith f) (.ok (pb'.queue, r)) := by
  obtain ⟨pb₁, hpb₁, hwf, hqueue, hpad⟩ := dequeuePadding_spec h
  rw [← hqueue]
  simp only [step]
  unfold dequeueWith
  rw [hpb₁, Checked.ok_bind]
  cases hes : pb₁.entries with
  | nil =>
    have hempty : pb₁.metadataRing.isEmpty := by
      unfold RingBuffer.isEmpty
      rw [← RingBuffer.length_queue]
      exact congrArg List.length hes
    rw [if_pos hempty, queue_eq_nil hes]
    refine ⟨pb₁, .dequeueWith (.error .mk), rfl, hwf, ?_⟩
    rw [queue_eq_nil hes]
    exact .dequeueWithEmpty f
  | cons m es =>
    have hlen : pb₁.metadataRing.len = es.length + 1 := by
      rw [← RingBuffer.length_queue]
      exact congrArg List.length hes
    have hempty : ¬ pb₁.metadataRing.isEmpty := by
      unfold RingBuffer.isEmpty
      omega
    have hle := pb₁.metadataRing.len_le
    have hindex : Checked.index pb₁.metadataRing.storage pb₁.metadataRing.readAt = .ok m := by
      rw [RingBuffer.readAt_eq_getIdx_zero]
      refine pb₁.metadataRing.index_storage (by omega) ?_
      rw [RingBuffer.view_eq, show pb₁.metadataRing.fifo.queue = m :: es from hes]
      rfl
    obtain ⟨header, hheader, hqueue₁⟩ := exists_header hes (hpad m es hes)
    have hsize := hwf.size_le hes
    have hslice : m.size ≤ pb₁.payloadRing.readSlice.length := by
      rw [RingBuffer.length_readSlice]
      exact hsize
    obtain ⟨payloadRing, hpayload, hoctets, hlen', hread, hcap⟩ :=
      dequeueManyWith_handPacket pb₁.payloadRing hsize header
        (fun e he => (hok header _ e he).2) rfl
    set out := f header (pb₁.payloadRing.fifo.queue.take m.size) with hout
    obtain ⟨metadataRing, hmeta, hfifo⟩ := pb₁.metadataRing.dequeueOneWith_refines
      fun metadata => ({ metadata with header := some out.header }, out.result)
    have hqueue_eq : pb₁.metadataRing.fifo.queue = m :: es := hes
    unfold RingBuffer.Fifo.dequeueOneWith at hmeta hfifo
    simp only [hqueue_eq] at hmeta hfifo
    rw [if_neg hempty, hindex, Checked.ok_bind, Checked.assert_of hslice, Checked.ok_bind, hheader,
      Checked.unwrap, Checked.ok_bind, Checked.slice_of (Nat.zero_le _) hslice, Checked.ok_bind,
      hpayload, Checked.ok_bind]
    dsimp only
    rw [hmeta]
    cases hres : out.result with
    | ok r =>
      rw [hres] at hfifo hoctets hlen' hread
      have hentries : entries ⟨metadataRing, payloadRing⟩ = es := congrArg (·.queue) hfifo
      have hrest : queue ⟨metadataRing, payloadRing⟩ = packets es (pb₁.octets.drop m.size) := by
        rw [queue, hentries]
        exact congrArg (packets es) hoctets
      refine ⟨⟨metadataRing, payloadRing⟩, .dequeueWith (.ok (.ok r)), rfl,
        hwf.tail hes hentries hlen' hread hcap, ?_⟩
      rw [hqueue₁, hrest]
      exact .dequeueWith _ hres
    | error e =>
      rw [hres] at hfifo hoctets hlen' hread
      have hsame : { m with header := some out.header } = m := by
        rw [(hok header _ e hres).1, ← hheader]
      have hentries : metadataRing.fifo.queue = pb₁.entries := by
        rw [hfifo, hes]
        exact congrArg (· :: es) hsame
      have hoctets' : octets ⟨metadataRing, payloadRing⟩ = pb₁.octets := hoctets
      have hread' : payloadRing.readAt = pb₁.payloadRing.readAt :=
        hread.trans pb₁.payloadRing.readAt_eq_getIdx_zero.symm
      refine ⟨⟨metadataRing, payloadRing⟩, .dequeueWith (.ok (.error e)), rfl, ?_, ?_⟩
      · unfold Wf entries at *
        rw [hentries, hlen', hread', hcap]
        exact hwf
      · have hrest : queue ⟨metadataRing, payloadRing⟩ = pb₁.queue := by
          rw [queue, queue, hoctets', entries, hentries]
        rw [hrest, hqueue₁]
        exact .dequeueWithFailed _ hres

lemma peek_refines (h : Wf pb) :
    ∃ pb' r, pb.step (.peek : Op η ε ρ) = .ok (pb', r) ∧ Wf pb' ∧
      Queue.Step pb.queue .peek (.ok (pb'.queue, r)) := by
  obtain ⟨pb₁, hpb₁, hwf, hqueue, hpad⟩ := dequeuePadding_spec h
  rw [← hqueue]
  simp only [step]
  unfold peek
  rw [hpb₁, Checked.ok_bind, RingBuffer.getAllocated_eq]
  cases hes : pb₁.entries with
  | nil =>
    have hnil : pb₁.metadataRing.toList = [] := hes
    rw [hnil, queue_eq_nil hes]
    refine ⟨pb₁, .peek (.error .mk), by simp, hwf, ?_⟩
    rw [queue_eq_nil hes]
    exact .peekEmpty
  | cons m es =>
    have hcons : pb₁.metadataRing.toList = m :: es := hes
    have hlen : pb₁.metadataRing.len = es.length + 1 := by
      rw [← RingBuffer.length_queue]
      exact congrArg List.length hes
    have hfirst : 0 < pb₁.metadataRing.allocatedSize 0 1 :=
      pb₁.metadataRing.allocatedSize_pos (by omega) Nat.one_pos
    have hone := pb₁.metadataRing.allocatedSize_le 0 1
    obtain ⟨header, hheader, hqueue₁⟩ := exists_header hes (hpad m es hes)
    have hsize := hwf.size_le hes
    have hall : pb₁.payloadRing.allocatedSize 0 m.size = m.size := by
      have hread := pb₁.payloadRing.readAt_eq_getIdx_zero
      unfold RingBuffer.allocatedSize
      rw [← hread, if_neg (by omega)]
      omega
    refine ⟨pb₁, .peek (.ok (header, pb₁.octets.take m.size)), ?_, hwf, ?_⟩
    · rw [show pb₁.metadataRing.allocatedSize 0 1 = 1 by omega, hcons]
      simp only [List.drop_zero, List.take_succ_cons, List.take_zero, List.head?_cons, hheader,
        Checked.unwrap, Checked.ok_bind, Checked.pure_eq_ok, RingBuffer.getAllocated_eq, hall]
      rfl
    · rw [hqueue₁]
      exact .peek _ _ _

lemma reset_refines (pb : PacketBuffer η) :
    ∃ pb' r, pb.step (.reset : Op η ε ρ) = .ok (pb', r) ∧ Wf pb' ∧
      Queue.Step pb.queue .reset (.ok (pb'.queue, r)) := by
  refine ⟨_, _, rfl, wf_new pb.metadataRing.storage pb.payloadRing.storage, ?_⟩
  have hqueue : pb.reset.queue = [] := queue_new pb.metadataRing.storage pb.payloadRing.storage
  rw [hqueue]
  exact .reset _

/-! ### Whole runs -/

lemma step_refines (pb : PacketBuffer η) (op : Op η ε ρ) (h : Wf pb) (hok : Admissible pb op) :
    ∃ pb' r, pb.step op = .ok (pb', r) ∧ Wf pb' ∧ Queue.Step pb.queue op (.ok (pb'.queue, r)) := by
  cases op with
  | enqueue size header write => exact enqueue_refines h size header write
  | enqueueWithInfallible maxSize header f => exact enqueueWithInfallible_refines h hok
  | dequeue write => exact dequeue_refines h write
  | dequeueWith f => exact dequeueWith_refines h hok
  | peek => exact peek_refines h
  | reset => exact reset_refines pb

/-- A packet buffer used admissibly does not panic and is a queue of packets; its metadata accounts
for all octets of the payload ring. -/
theorem refines_queue (ms : List (PacketMetadata η)) (ps : List UInt8) (ops : List (Op η ε ρ))
    (h : Guarded step Admissible (new ms ps) ops) :
    ∃ pb outcomes, run step (new ms ps) ops = .ok (pb, outcomes) ∧
      Runs Queue.Step [] ops (.ok (pb.queue, outcomes)) ∧
      (pb.metadataRing.toList.map size).sum = pb.payloadRing.len := by
  obtain ⟨pb, outcomes, hrun, hwf, hruns⟩ :=
    run_refines_of_guarded step_refines h (wf_new ms ps)
  rw [queue_new] at hruns
  exact ⟨pb, outcomes, hrun, hruns, hwf.sum⟩

/-- The caller writes `data`. -/
def writing (data : List UInt8) : Writer UInt8 := fun buf =>
  ⟨(data ++ buf.drop data.length).take buf.length, by simp; omega⟩

/-- A closure that writes `data` and reports its length. -/
def filling (data : List UInt8) : Callback UInt8 Unit := fun buf =>
  ⟨(data ++ buf.drop data.length).take buf.length, by simp; omega, data.length, ()⟩

/-- Two packets, then one that would wrap around, with an entry to spare for the padding. -/
theorem refines_queue_padding : ∃ pb outcomes,
    run step (new (List.replicate 4 (.padding 0)) (List.replicate 6 0))
      [.enqueue 4 'a' (writing [1, 2, 3, 4]), .enqueue 1 'b' (writing [5]),
        .dequeue untouched, .enqueueWithInfallible 3 'c' (filling [6, 7]), .dequeue untouched,
        (.peek : Op Char Unit Unit)] = .ok (pb, outcomes) ∧
      Runs Queue.Step [] [.enqueue 4 'a' (writing [1, 2, 3, 4]), .enqueue 1 'b' (writing [5]),
        .dequeue untouched, .enqueueWithInfallible 3 'c' (filling [6, 7]), .dequeue untouched,
        (.peek : Op Char Unit Unit)] (.ok (pb.queue, outcomes)) ∧
      (pb.metadataRing.toList.map size).sum = pb.payloadRing.len := by
  refine refines_queue _ _ _ ?_
  refine ⟨trivial, ?_⟩
  rintro _ _ ⟨⟩
  refine ⟨trivial, ?_⟩
  rintro _ _ ⟨⟩
  refine ⟨trivial, ?_⟩
  rintro _ _ ⟨⟩
  refine ⟨⟨fun _ _ => (by decide : 2 ≤ 3), by decide⟩, ?_⟩
  rintro _ _ ⟨⟩
  refine ⟨trivial, ?_⟩
  rintro _ _ ⟨⟩
  exact ⟨trivial, fun _ _ _ => trivial⟩

/-- Without an entry to spare the payload stays in the ring though the buffer is said to be full.
The metadata no longer accounts for it, and a later packet is handed out with its octets. -/
theorem enqueueWithInfallible_full :
    (∃ pb, run step (new (List.replicate 2 (.padding 0)) (List.replicate 6 0))
        [.enqueue 4 'a' (writing [1, 2, 3, 4]), .enqueue 1 'b' (writing [5]), .dequeue untouched,
          (.enqueueWithInfallible 3 'c' (filling [6, 7, 8]) : Op Char Unit Unit)] =
        .ok (pb, [.enqueue (.ok ()), .enqueue (.ok ()), .dequeue (.ok ('a', [1, 2, 3, 4])),
          .enqueueWithInfallible (.error .mk)]) ∧
      (pb.metadataRing.toList.map size).sum = 2 ∧ pb.payloadRing.len = 5) ∧
    ∃ pb, run step (new (List.replicate 2 (.padding 0)) (List.replicate 6 0))
        [.enqueue 4 'a' (writing [1, 2, 3, 4]), .enqueue 1 'b' (writing [5]), .dequeue untouched,
          .enqueueWithInfallible 3 'c' (filling [6, 7, 8]), .dequeue untouched,
          .enqueue 1 'd' (writing [9]), (.dequeue untouched : Op Char Unit Unit)] =
        .ok (pb, [.enqueue (.ok ()), .enqueue (.ok ()), .dequeue (.ok ('a', [1, 2, 3, 4])),
          .enqueueWithInfallible (.error .mk), .dequeue (.ok ('b', [5])), .enqueue (.ok ()),
          .dequeue (.ok ('d', [6]))]) := by
  refine ⟨⟨_, rfl, ?_, ?_⟩, _, rfl⟩
  · decide
  · decide

end PacketBuffer

end Smoltcp
