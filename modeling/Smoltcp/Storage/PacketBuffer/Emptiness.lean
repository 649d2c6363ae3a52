import Smoltcp.Storage.PacketBuffer.Refinement

/-!
# When a packet buffer is empty

`isEmpty` looks at the entries of the metadata ring, paddings included. It is exact as long as no
padding is the last entry: every padding has a packet behind it, unless the padding itself takes the
last free entry and the packet is refused after it.
-/

namespace Smoltcp.PacketBuffer

open Machine PacketMetadata

variable {η ε ρ : Type}

/-- Query whether the buffer is empty. -/
def isEmpty (pb : PacketBuffer η) : Prop := pb.metadataRing.isEmpty

instance (pb : PacketBuffer η) : Decidable pb.isEmpty :=
  inferInstanceAs (Decidable pb.metadataRing.isEmpty)

/-- A packet of `size` octets fits behind a padding, and the padding takes the last entry. -/
structure PadsLast (pb : PacketBuffer η) (size : ℕ) : Prop where
  contiguous_lt : pb.payloadRing.contiguousWindow < size
  le_behind : size ≤ pb.payloadRing.window - pb.payloadRing.contiguousWindow
  window_eq : pb.metadataRing.window = 1

/-- Operations that do not use up the last entry for a padding. -/
def Spare (pb : PacketBuffer η) : Op η ε ρ → Prop
  | .enqueue size _ _ => ¬ pb.clearEmpty.PadsLast size
  | .enqueueWithInfallible maxSize _ _ => ¬ pb.PadsLast maxSize
  | _ => True

/-- The number of packets enqueued and not yet dequeued, after one more outcome. -/
def tally (n : ℤ) : Outcome η ε ρ → ℤ
  | .enqueue (.ok _) | .enqueueWithInfallible (.ok _) => n + 1
  | .dequeue (.ok _) | .dequeueWith (.ok (.ok _)) => n - 1
  | .reset => 0
  | _ => n

/-- The entries without a padding in front. -/
def unpad : List (PacketMetadata η) → List (PacketMetadata η)
  | [] => []
  | m :: es => if m.isPadding then es else m :: es

/-- How many entries are packets. -/
def packetCount (es : List (PacketMetadata η)) : ℕ := (es.filter fun m => ¬ m.isPadding).length

/-- There are `n` packets, and behind the last one there is no padding. -/
structure Tight (es : List (PacketMetadata η)) (n : ℤ) : Prop where
  last : ∀ m, es.getLast? = some m → ¬ m.isPadding
  count : (packetCount es : ℤ) = n

namespace Tight

variable {es : List (PacketMetadata η)} {m : PacketMetadata η} {n : ℤ}

lemma nil : Tight ([] : List (PacketMetadata η)) 0 := ⟨nofun, rfl⟩

lemma ne_nil_iff (h : Tight es n) : es ≠ [] ↔ n ≠ 0 := by
  rw [← h.count]
  constructor
  · intro hne
    have hlast : es.getLast hne ∈ es.filter fun m => ¬ m.isPadding := by
      refine List.mem_filter.mpr ⟨List.getLast_mem hne, ?_⟩
      exact decide_eq_true (h.last _ (List.getLast?_eq_some_getLast hne))
    have := List.length_pos_of_mem hlast
    rw [packetCount]
    omega
  · rintro hcount rfl
    exact hcount rfl

/-- Taking away a padding in front. -/
lemma unpad (h : Tight es n) : Tight (unpad es) n := by
  cases es with
  | nil => exact h
  | cons m es =>
    rw [PacketBuffer.unpad]
    split_ifs with hpad
    · refine ⟨fun m' hm' => h.last m' ?_, ?_⟩
      · cases es with
        | nil => cases hm'
        | cons e es => simpa using hm'
      · rw [← h.count, packetCount, packetCount, List.filter_cons_of_neg (by simpa using hpad)]
    · exact h

/-- A padding that is the only entry is the last one. -/
lemma unpad_ne_nil (h : Tight es n) (hne : es ≠ []) : PacketBuffer.unpad es ≠ [] :=
  h.unpad.ne_nil_iff.mpr (h.ne_nil_iff.mp hne)

lemma append_packet (h : Tight es n) {pads : List (PacketMetadata η)}
    (hpads : ∀ m ∈ pads, m.isPadding) (size : ℕ) (header : η) :
    Tight (es ++ pads ++ [.packet size header]) (n + 1) := by
  have hpacket : ¬ (PacketMetadata.packet size header).isPadding := nofun
  refine ⟨fun m hm => ?_, ?_⟩
  · rw [List.getLast?_concat] at hm
    cases hm
    exact hpacket
  · have hnone : (pads.filter fun m => ¬ m.isPadding) = [] := by
      rw [List.filter_eq_nil_iff]
      intro m hm
      simpa using hpads m hm
    rw [← h.count, packetCount, packetCount, List.filter_append, List.filter_append, hnone,
      List.append_nil, List.filter_cons_of_pos (by simpa using hpacket), List.filter_nil,
      List.length_append]
    rfl

lemma tail (h : Tight (m :: es) n) (hm : ¬ m.isPadding) : Tight es (n - 1) := by
  refine ⟨fun m' hm' => h.last m' ?_, ?_⟩
  · cases es with
    | nil => cases hm'
    | cons e es => simpa using hm'
  · have hcount := h.count
    rw [packetCount, List.filter_cons_of_pos (by simpa using hm), List.length_cons] at hcount
    rw [packetCount]
    omega

/-- Another header for the first packet. -/
lemma replace (h : Tight (m :: es) n) (hm : ¬ m.isPadding) {m' : PacketMetadata η}
    (hm' : ¬ m'.isPadding) : Tight (m' :: es) n := by
  refine ⟨fun x hx => ?_, ?_⟩
  · cases es with
    | nil =>
      cases hx
      exact hm'
    | cons e es => exact h.last x (by simpa using hx)
  · rw [← h.count, packetCount, packetCount, List.filter_cons_of_pos (by simpa using hm'),
      List.filter_cons_of_pos (by simpa using hm)]
    rfl

end Tight

/-! ### What the operations do to the entries -/

variable {pb pb' : PacketBuffer η} {n : ℕ} {header : η}

lemma isEmpty_iff : pb.isEmpty ↔ pb.entries = [] := by
  unfold isEmpty RingBuffer.isEmpty
  rw [← RingBuffer.length_queue, List.length_eq_zero_iff]
  rfl

lemma addPadding_entries {r : Except Storage.Full Unit} (hfull : ¬ pb.metadataRing.isFull)
    (h : pb.addPadding n = .ok (pb', r)) : r = .ok () ∧ pb'.entries = pb.entries ++ [.padding n] ∧
      pb'.metadataRing.window = pb.metadataRing.window - 1 := by
  obtain ⟨metadataRing, x, hmeta, hentries, hwindow⟩ :=
    pb.metadataRing.enqueueOne_of_not_full hfull fun _ => .padding n
  unfold addPadding at h
  rw [hmeta, Checked.ok_bind] at h
  obtain ⟨payload, -, h⟩ := Checked.bind_eq_ok.mp h
  cases h
  exact ⟨rfl, hentries, hwindow⟩

/-- With an entry to spare, `makeRoom` leaves one for the packet. -/
lemma makeRoom_entries {r : Except Storage.Full Unit} (hfull : ¬ pb.metadataRing.isFull)
    (hspare : ¬ pb.PadsLast n) (h : pb.makeRoom n = .ok (pb', r)) :
    (r = .error .mk ∧ pb' = pb) ∨ (r = .ok () ∧ ¬ pb'.metadataRing.isFull ∧
      ∃ pads, pb'.entries = pb.entries ++ pads ∧ ∀ m ∈ pads, m.isPadding) := by
  unfold makeRoom at h
  dsimp only at h
  split_ifs at h with hwindow hcontig hpad
  · cases h
    exact .inl ⟨rfl, rfl⟩
  · cases h
    exact .inl ⟨rfl, rfl⟩
  · obtain ⟨rfl, hentries, hwin⟩ := addPadding_entries hfull h
    refine .inr ⟨rfl, fun hfull' => hspare ⟨hcontig, by omega, ?_⟩, _, hentries, ?_⟩
    · unfold RingBuffer.isFull at hfull hfull'
      omega
    · intro m hm
      rw [List.mem_singleton.mp hm]
      rfl
  · cases h
    exact .inr ⟨rfl, hfull, [], (List.append_nil _).symm, nofun⟩

/-- A packet is enqueued, or the entries are as they were. -/
inductive Enqueued (pb pb' : PacketBuffer η) (header : η) : Bool → Prop where
  | full (h : pb'.entries = pb.entries) : Enqueued pb pb' header false
  | ok {pads : List (PacketMetadata η)} {size : ℕ} (hpads : ∀ m ∈ pads, m.isPadding)
      (h : pb'.entries = pb.entries ++ pads ++ [.packet size header]) : Enqueued pb pb' header true

lemma entries_clearEmpty (pb : PacketBuffer η) : pb.clearEmpty.entries = pb.entries := by
  unfold clearEmpty
  split_ifs <;> rfl

lemma enqueue_entries {write : Writer UInt8} {r : Except Storage.Full Unit}
    (hspare : ¬ pb.clearEmpty.PadsLast n) (h : pb.enqueue n header write = .ok (pb', r)) :
    Enqueued pb pb' header r.isOk := by
  unfold enqueue at h
  by_cases hsmall : pb.payloadRing.capacity < n ∨ pb.metadataRing.isFull
  · rw [if_pos hsmall] at h
    cases h
    exact .full rfl
  rw [if_neg hsmall] at h
  have hfull : ¬ pb.clearEmpty.metadataRing.isFull := by
    intro hfull
    refine hsmall (.inr ?_)
    unfold clearEmpty at hfull
    split_ifs at hfull <;> exact hfull
  obtain ⟨⟨pb₁, r₁⟩, hroom, hrest⟩ := Checked.bind_eq_ok.mp h
  rcases makeRoom_entries hfull hspare hroom with ⟨rfl, rfl⟩ | ⟨rfl, hfull₁, pads, hentries, hpads⟩
  · cases hrest
    exact .full (entries_clearEmpty pb)
  · obtain ⟨metadataRing, hmeta, hentries₁⟩ := enqueueMetadata_of_not_full hfull₁ n header
    rw [entries_clearEmpty] at hentries
    simp only [hmeta, Checked.ok_bind] at hrest
    obtain ⟨pb₂, hpayload, heq⟩ := Checked.bind_eq_ok.mp hrest
    cases heq
    obtain ⟨⟨payloadRing, buf⟩, -, hpayload⟩ := Checked.bind_eq_ok.mp hpayload
    obtain ⟨_, -, hpayload⟩ := Checked.bind_eq_ok.mp hpayload
    cases hpayload
    exact .ok hpads (hentries₁.trans (by rw [hentries]))

lemma enqueueWithInfallible_entries {f : Callback UInt8 Unit} {r : Except Storage.Full ℕ}
    (hspare : ¬ pb.PadsLast n) (h : pb.enqueueWithInfallible n header f = .ok (pb', r)) :
    Enqueued pb pb' header r.isOk := by
  unfold enqueueWithInfallible at h
  by_cases hsmall : pb.payloadRing.capacity < n ∨ pb.metadataRing.isFull
  · rw [if_pos hsmall] at h
    cases h
    exact .full rfl
  rw [if_neg hsmall] at h
  have hfull : ¬ pb.metadataRing.isFull := fun hfull => hsmall (.inr hfull)
  obtain ⟨⟨pb₁, r₁⟩, hroom, hrest⟩ := Checked.bind_eq_ok.mp h
  rcases makeRoom_entries hfull hspare hroom with ⟨rfl, rfl⟩ | ⟨rfl, hfull₁, pads, hentries, hpads⟩
  · cases hrest
    exact .full rfl
  · obtain ⟨_, -, hrest⟩ := Checked.bind_eq_ok.mp hrest
    obtain ⟨⟨payloadRing, size, _⟩, -, hrest⟩ := Checked.bind_eq_ok.mp hrest
    have hfull₂ : ¬ { pb₁ with payloadRing }.metadataRing.isFull := hfull₁
    obtain ⟨metadataRing, hmeta, hentries₁⟩ := enqueueMetadata_of_not_full hfull₂ size header
    simp only [hmeta, Checked.ok_bind] at hrest
    cases hrest
    exact .ok hpads (hentries₁.trans (by rw [← hentries]; rfl))

lemma dequeuePadding_entries (h : pb.dequeuePadding = .ok pb') :
    pb'.entries = unpad pb.entries := by
  obtain ⟨metadataRing, hmeta, hfifo⟩ := pb.metadataRing.dequeueOneWith_refines fun metadata =>
    (metadata, if metadata.isPadding then .ok metadata.size else (.error () : Except Unit ℕ))
  unfold dequeuePadding at h
  rw [hmeta, Checked.ok_bind] at h
  unfold RingBuffer.Fifo.dequeueOneWith at hfifo h
  have hentries : pb.entries = pb.metadataRing.fifo.queue := rfl
  cases hes : pb.metadataRing.fifo.queue with
  | nil =>
    simp only [hes] at hfifo h
    cases h
    rw [entries, hfifo, hentries, hes]
    rfl
  | cons m es =>
    simp only [hes] at hfifo h
    rw [hentries, hes, unpad]
    by_cases hpad : m.isPadding
    · simp only [hpad, if_true] at hfifo h
      obtain ⟨⟨payloadRing, _⟩, -, heq⟩ := Checked.bind_eq_ok.mp h
      cases heq
      rw [if_pos hpad, entries, hfifo]
    · simp only [hpad, if_false] at hfifo h
      cases h
      rw [if_neg hpad, entries, hfifo]

/-- What is taken from the entries: nothing where there is no packet, else the first packet. -/
inductive Dequeued (pb pb' : PacketBuffer η) : Bool → Prop where
  | empty (hnil : unpad pb.entries = []) (h : pb'.entries = []) : Dequeued pb pb' false
  | ok {m : PacketMetadata η} {es : List (PacketMetadata η)} (hm : ¬ m.isPadding)
      (hcons : unpad pb.entries = m :: es) (h : pb'.entries = es) : Dequeued pb pb' true

lemma dequeue_entries {write : Writer UInt8} {r : Except Storage.Empty (η × List UInt8)}
    (h : pb.dequeue write = .ok (pb', r)) : Dequeued pb pb' r.isOk := by
  obtain ⟨pb₁, hpad, hrest⟩ := Checked.bind_eq_ok.mp h
  have hentries := dequeuePadding_entries hpad
  obtain ⟨metadataRing, hmeta, hfifo⟩ := pb₁.metadataRing.dequeueOneWith_refines fun metadata =>
    ({ metadata with header := none }, (.ok metadata : Except Storage.Empty (PacketMetadata η)))
  unfold RingBuffer.dequeueOne at hrest
  rw [hmeta, Checked.ok_bind] at hrest
  unfold RingBuffer.Fifo.dequeueOneWith at hfifo hrest
  cases hes : pb₁.metadataRing.fifo.queue with
  | nil =>
    simp only [hes] at hfifo hrest
    cases hrest
    refine .empty (hentries.symm.trans hes) ?_
    rw [entries, hfifo]
    exact hes
  | cons m es =>
    simp only [hes, Checked.pure_eq_ok, Checked.ok_bind] at hfifo hrest
    obtain ⟨⟨payloadRing, buf⟩, -, hrest⟩ := Checked.bind_eq_ok.mp hrest
    obtain ⟨_, -, hrest⟩ := Checked.bind_eq_ok.mp hrest
    obtain ⟨header, hheader, heq⟩ := Checked.bind_eq_ok.mp hrest
    cases heq
    refine .ok (fun hpad => ?_) (hentries.symm.trans hes) ?_
    · rw [hpad] at hheader
      cases hheader
    · rw [entries, hfifo]

lemma peek_entries {r : Except Storage.Empty (η × List UInt8)} (h : pb.peek = .ok (pb', r)) :
    pb'.entries = unpad pb.entries ∧ (r = .error .mk → unpad pb.entries = []) := by
  obtain ⟨pb₁, hpad, hrest⟩ := Checked.bind_eq_ok.mp h
  have hentries := dequeuePadding_entries hpad
  rw [RingBuffer.getAllocated_eq] at hrest
  cases hes : pb₁.entries with
  | nil =>
    have hnil : pb₁.metadataRing.toList = [] := hes
    rw [hnil, List.drop_nil, List.take_nil, List.head?_nil] at hrest
    cases hrest
    exact ⟨hentries, fun _ => hentries.symm.trans hes⟩
  | cons m es =>
    have hcons : pb₁.metadataRing.toList = m :: es := hes
    have hlen : pb₁.metadataRing.len = es.length + 1 := by
      rw [← RingBuffer.length_queue]
      exact congrArg List.length hes
    have hfirst : 0 < pb₁.metadataRing.allocatedSize 0 1 :=
      pb₁.metadataRing.allocatedSize_pos (by omega) Nat.one_pos
    have hone := pb₁.metadataRing.allocatedSize_le 0 1
    rw [show pb₁.metadataRing.allocatedSize 0 1 = 1 by omega, hcons] at hrest
    simp only [List.drop_zero, List.take_succ_cons, List.take_zero, List.head?_cons] at hrest
    obtain ⟨header, -, heq⟩ := Checked.bind_eq_ok.mp hrest
    cases heq
    exact ⟨hentries, nofun⟩

/-- A closure that is handed the first packet takes it, or leaves a packet in its place. -/
inductive HandedOn (pb pb' : PacketBuffer η) : Except Storage.Empty (Except ε ρ) → Prop where
  | empty (hnil : unpad pb.entries = []) (h : pb'.entries = []) : HandedOn pb pb' (.error .mk)
  | ok {m : PacketMetadata η} {es : List (PacketMetadata η)} (r : ρ) (hm : ¬ m.isPadding)
      (hcons : unpad pb.entries = m :: es) (h : pb'.entries = es) : HandedOn pb pb' (.ok (.ok r))
  | failed {m m' : PacketMetadata η} {es : List (PacketMetadata η)} (e : ε) (hm : ¬ m.isPadding)
      (hm' : ¬ m'.isPadding) (hcons : unpad pb.entries = m :: es) (h : pb'.entries = m' :: es) :
      HandedOn pb pb' (.ok (.error e))

lemma dequeueWith_entries {f : PacketCallback η ε ρ} {r : Except Storage.Empty (Except ε ρ)}
    (h : pb.dequeueWith f = .ok (pb', r)) : HandedOn pb pb' r := by
  obtain ⟨pb₁, hpad, hrest⟩ := Checked.bind_eq_ok.mp h
  have hentries := dequeuePadding_entries hpad
  cases hes : pb₁.entries with
  | nil =>
    have hempty : pb₁.metadataRing.isEmpty := isEmpty_iff.mpr hes
    rw [if_pos hempty] at hrest
    cases hrest
    exact .empty (hentries.symm.trans hes) hes
  | cons m es =>
    have hempty : ¬ pb₁.metadataRing.isEmpty := fun hempty => by
      rw [isEmpty_iff.mp hempty] at hes
      cases hes
    have hlen : pb₁.metadataRing.len = es.length + 1 := by
      rw [← RingBuffer.length_queue]
      exact congrArg List.length hes
    have hle := pb₁.metadataRing.len_le
    have hqueue : pb₁.metadataRing.fifo.queue = m :: es := hes
    -- the entry that the header is taken from is the first one
    have hindex : Checked.index pb₁.metadataRing.storage pb₁.metadataRing.readAt = .ok m := by
      rw [RingBuffer.readAt_eq_getIdx_zero]
      refine pb₁.metadataRing.index_storage (by omega) ?_
      rw [RingBuffer.view_eq, hqueue]
      rfl
    rw [if_neg hempty, hindex, Checked.ok_bind] at hrest
    obtain ⟨_, -, hrest⟩ := Checked.bind_eq_ok.mp hrest
    obtain ⟨header, hheader, hrest⟩ := Checked.bind_eq_ok.mp hrest
    obtain ⟨_, -, hrest⟩ := Checked.bind_eq_ok.mp hrest
    obtain ⟨⟨payloadRing, _, header', res⟩, -, hrest⟩ := Checked.bind_eq_ok.mp hrest
    obtain ⟨metadataRing, hmeta, hfifo⟩ := pb₁.metadataRing.dequeueOneWith_refines
      fun metadata => ({ metadata with header := some header' }, res)
    have hpacket : ¬ m.isPadding := by
      intro hpad
      rw [hpad] at hheader
      cases hheader
    unfold RingBuffer.Fifo.dequeueOneWith at hmeta hfifo
    simp only [hqueue] at hmeta hfifo
    simp only [hmeta, Checked.ok_bind] at hrest
    cases res with
    | ok r =>
      cases hrest
      refine .ok r hpacket (hentries.symm.trans hes) ?_
      rw [entries, hfifo]
    | error e =>
      cases hrest
      have hpacket' : ¬ { m with header := some header' }.isPadding := Option.some_ne_none _
      refine .failed e hpacket hpacket' (hentries.symm.trans hes) ?_
      rw [entries, hfifo]

/-! ### Whole runs -/

lemma Enqueued.tight {k : ℤ} {done : Bool} (h : Enqueued pb pb' header done)
    (ht : Tight pb.entries k) : Tight pb'.entries (if done then k + 1 else k) := by
  cases h with
  | full hsame =>
    rw [hsame]
    exact ht
  | ok hpads hentries =>
    rw [hentries]
    exact ht.append_packet hpads _ _

lemma Dequeued.tight {k : ℤ} {done : Bool} (h : Dequeued pb pb' done)
    (ht : Tight pb.entries k) : Tight pb'.entries (if done then k - 1 else k) := by
  cases h with
  | empty hnil hentries =>
    have hunpad := ht.unpad
    rw [hnil] at hunpad
    rw [hentries]
    exact hunpad
  | ok hm hcons hentries =>
    have hunpad := ht.unpad
    rw [hcons] at hunpad
    rw [hentries]
    exact hunpad.tail hm

/-- An operation keeps the number of packets, and puts no padding behind the last of them. -/
lemma Tight.step {k : ℤ} (h : Tight pb.entries k) {op : Op η ε ρ} (hspare : Spare pb op)
    {r : Outcome η ε ρ} (hstep : pb.step op = .ok (pb', r)) : Tight pb'.entries (tally k r) := by
  cases op with
  | enqueue size header write =>
    obtain ⟨⟨pb₁, r₁⟩, hop, heq⟩ := Checked.bind_eq_ok.mp hstep
    cases heq
    have ht := (enqueue_entries hspare hop).tight h
    cases r₁ <;> exact ht
  | enqueueWithInfallible maxSize header f =>
    obtain ⟨⟨pb₁, r₁⟩, hop, heq⟩ := Checked.bind_eq_ok.mp hstep
    cases heq
    have ht := (enqueueWithInfallible_entries hspare hop).tight h
    cases r₁ <;> exact ht
  | dequeue write =>
    obtain ⟨⟨pb₁, r₁⟩, hop, heq⟩ := Checked.bind_eq_ok.mp hstep
    cases heq
    have ht := (dequeue_entries hop).tight h
    cases r₁ <;> exact ht
  | dequeueWith f =>
    obtain ⟨⟨pb₁, r₁⟩, hop, heq⟩ := Checked.bind_eq_ok.mp hstep
    cases heq
    have hunpad := h.unpad
    cases dequeueWith_entries hop with
    | empty hnil hentries =>
      rw [hnil] at hunpad
      rw [hentries]
      exact hunpad
    | ok r hm hcons hentries =>
      rw [hcons] at hunpad
      rw [hentries]
      exact hunpad.tail hm
    | failed e hm hm' hcons hentries =>
      rw [hcons] at hunpad
      rw [hentries]
      exact hunpad.replace hm hm'
  | peek =>
    obtain ⟨⟨pb₁, r₁⟩, hop, heq⟩ := Checked.bind_eq_ok.mp hstep
    cases heq
    rw [(peek_entries hop).1]
    exact h.unpad
  | reset =>
    cases hstep
    have hnil : pb.reset.entries = [] := by
      unfold entries reset RingBuffer.clear
      rw [RingBuffer.fifo_new]
    rw [hnil]
    exact .nil

/-- Without a padding in the last entry, a packet buffer is empty exactly when every packet that
was enqueued has been dequeued, and one that is not empty has a packet to show. -/
theorem isEmpty_exact (ms : List (PacketMetadata η)) (ps : List UInt8) (ops : List (Op η ε ρ))
    (hspare : Guarded step Spare (new ms ps) ops) {outcomes : List (Outcome η ε ρ)}
    (hrun : run step (new ms ps) ops = .ok (pb, outcomes)) :
    (pb.isEmpty ↔ outcomes.foldl tally 0 = 0) ∧
      (¬ pb.isEmpty → (∀ pb' r, pb.peek = .ok (pb', r) → r ≠ .error .mk) ∧
        (∀ write pb' r, pb.dequeue write = .ok (pb', r) → r ≠ .error .mk) ∧
        ∀ (f : PacketCallback η ε ρ) pb' r, pb.dequeueWith f = .ok (pb', r) → r ≠ .error .mk) := by
  have hnew : Tight (new ms ps).entries 0 := by
    unfold entries new
    rw [RingBuffer.fifo_new]
    exact .nil
  have ht : Tight pb.entries (outcomes.foldl tally 0) :=
    hspare.invariant (I := fun pb n => Tight pb.entries n)
      (fun _ _ _ _ _ h hok hstep => h.step hok hstep) hnew hrun
  have hne := ht.ne_nil_iff
  rw [isEmpty_iff]
  refine ⟨by tauto, fun hfull => ?_⟩
  have hunpad := ht.unpad_ne_nil hfull
  refine ⟨fun pb' r hpeek hr => ?_, fun write pb' r hdequeue hr => ?_, fun f pb' r hwith hr => ?_⟩
  · exact hunpad ((peek_entries hpeek).2 hr)
  · subst hr
    cases dequeue_entries hdequeue with
    | empty hnil _ => exact hunpad hnil
  · subst hr
    cases dequeueWith_entries hwith with
    | empty hnil _ => exact hunpad hnil

/-- A buffer of two entries and six octets. -/
def small : PacketBuffer Char := new (List.replicate 2 (.padding 0)) (List.replicate 6 0)

/-- Two packets, and the first one of them dequeued. -/
theorem isEmpty_exact_small : ∃ pb outcomes,
    run step small [.enqueue 4 'a' (writing [1, 2, 3, 4]), .enqueue 1 'b' (writing [5]),
      (.dequeue untouched : Op Char Unit Unit)] = .ok (pb, outcomes) ∧
    (pb.isEmpty ↔ outcomes.foldl tally 0 = 0) := by
  have hspare : Guarded step Spare small [.enqueue 4 'a' (writing [1, 2, 3, 4]),
      .enqueue 1 'b' (writing [5]), (.dequeue untouched : Op Char Unit Unit)] := by
    refine ⟨fun h => absurd h.contiguous_lt (by decide), ?_⟩
    rintro _ _ ⟨⟩
    refine ⟨fun h => absurd h.contiguous_lt (by decide), ?_⟩
    rintro _ _ ⟨⟩
    exact ⟨trivial, fun _ _ _ => trivial⟩
  exact ⟨_, _, rfl, (isEmpty_exact _ _ _ hspare rfl).1⟩

/-- A packet that needs a padding in the last entry is refused, and the padding stays: when all
packets are dequeued the buffer is not empty, and there is nothing to peek at. -/
theorem isEmpty_not_exact : ∃ pb,
    run step small [.enqueue 4 'a' (writing [1, 2, 3, 4]), .enqueue 1 'b' (writing [5]),
      .dequeue untouched, .enqueue 3 'c' (writing [6, 7, 8]),
      (.dequeue untouched : Op Char Unit Unit)] =
      .ok (pb, [.enqueue (.ok ()), .enqueue (.ok ()), .dequeue (.ok ('a', [1, 2, 3, 4])),
        .enqueue (.error .mk), .dequeue (.ok ('b', [5]))]) ∧
    ¬ pb.isEmpty ∧ ∃ pb', pb.peek = .ok (pb', .error .mk) := by
  refine ⟨_, rfl, ?_, _, rfl⟩
  decide

end Smoltcp.PacketBuffer
