import Smoltcp.Lib.Search
import Smoltcp.Socket.Tcp.Discards
import Smoltcp.Storage.Assembler.Refinement

/-!
# Selective acknowledgements

A selective acknowledgement names one run of octets held behind a hole. Its bounds are computed
from the acknowledgement number cast to `usize` and compared as `u32`, which is only right as long
as the runs that are looked at end in front of the point where sequence numbers wrap.
-/

namespace Smoltcp.Tcp

open Serial Runs

namespace Socket

variable {s s' : Socket} {cx : Context} {ipRepr : IpRepr} {repr : TcpRepr} {q : Packet}
  {r : ℕ × ℕ} {n : ℕ}

/-! ### The octets that are held -/

/-- The octets held out of order, counted from the acknowledgement number on. -/
def held (s : Socket) : Set ℕ := {p | s.assembler.Covers p}

/-- The runs of the octets held, in order. -/
def heldRuns (s : Socket) : List (ℕ × ℕ) := Assembler.iterFrom 0 s.assembler.contigs

lemma spaced_heldRuns (s : Socket) : Spaced s.heldRuns := s.assembler.canonical.spaced 0

lemma mem_heldRuns {r : ℕ × ℕ} : r ∈ s.heldRuns ↔ IsRun s.held r := by
  have hunion : union s.heldRuns = s.held := by
    ext p
    unfold heldRuns held
    rw [Contigs.mem_union_iterFrom]
    simp [Assembler.Covers]
  rw [s.spaced_heldRuns.mem_iff, hunion]

/-- The octet that is expected next is not held. -/
def Waiting (s : Socket) : Prop := ¬ s.assembler.Covers 0

lemma Received.waiting {payload : List UInt8} {offset : ℕ} (h : Received s payload offset s')
    (hs : s.Waiting) : s'.Waiting := by
  cases h with
  | dropped => exact hs
  | stored asm rx n t hpayload hstore => exact (Assembler.addThenRemoveFront_spec hstore.add).2.1
  | acked asm rx n t hpayload hstore => exact (Assembler.addThenRemoveFront_spec hstore.add).2.1

lemma ProcessRule.waiting (h : ProcessRule s cx ipRepr repr s') (hs : s.Waiting) : s'.Waiting := by
  cases h with
  | quiet hq => obtain ⟨_, _, _, _, _, s₁, -, -, -, rfl, rfl | rfl⟩ := hq <;> exact hs
  | reset st hctl hlisten hq =>
    obtain ⟨_, _, _, _, _, s₁, -, -, -, rfl, rfl | rfl⟩ := hq <;> exact hs
  | accepted ha =>
    refine ha.received.waiting ?_
    unfold Waiting
    rw [ha.rx_eq.2.1]
    exact hs

lemma Waiting.reset (s : Socket) : s.reset.Waiting := Assembler.not_covers_clear _

lemma DispatchRule.waiting {o : Option Emission} (h : DispatchRule s cx s' o) (hs : s.Waiting) :
    s'.Waiting := by
  have htimed : ∀ {s₁}, Timed s cx s₁ → s₁.Waiting := by
    rintro s₁ (_ | _ | _) <;> exact hs
  cases h with
  | noTuple => exact hs
  | idle _ ht => exact htimed ht
  | reset _ ht => exact .reset _
  | failed _ ht => exact htimed ht
  | sent _ ht _ _ hsends =>
    unfold Waiting
    rw [hsends.rx_eq.2.2.1]
    exact htimed ht

lemma Waiting.step {y y' : Sys} {op : Op} (h : y.socket.Waiting) (hs : StepRule y op y') :
    y'.socket.Waiting := by
  cases hs with
  | same => exact h
  | listen => exact .reset _
  | connect => exact .reset _
  | close =>
    obtain ⟨st, heq, -⟩ := y.socket.close_eq
    rw [heq]
    exact h
  | abort => exact h
  | set x s' hs =>
    obtain ⟨_, _, _, _, _, _, _, _, _, -, -, rfl⟩ := set_eq_ok hs
    exact h
  | send op s' data hs =>
    obtain ⟨-, tx, ts, -, -, -, rfl⟩ := hs
    exact h
  | recv op s' n hs =>
    obtain ⟨-, rx, -, -, rfl⟩ := hs
    exact h
  | process cx ipRepr repr s' hs => exact hs.waiting h
  | dispatch cx emit s' e hs => exact hs.waiting h

lemma waiting_of_initial {y : Sys} (h : y.Initial) : y.socket.Waiting := by
  obtain ⟨cfg, rx, tx, hnew, -⟩ := h
  unfold new at hnew
  split_ifs at hnew with hcap
  simp only [Except.ok.injEq] at hnew
  rw [← hnew]
  exact Assembler.not_covers_new _ cfg.count_ne

/-! ### The search for a block -/

/-- The acknowledgement number as a `usize`: the runs are counted from it. -/
def ackOffset (s : Socket) : ℕ := (s.nextAck.signExtend 64).toNat

/-- A run of octets in sequence numbers. -/
def block (s : Socket) (r : ℕ × ℕ) : UInt32 × UInt32 :=
  (.ofBitVec (shift s.nextAck r.1), .ofBitVec (shift s.nextAck r.2))

/-- The test of the search, on the numbers as `u32`. -/
def matchesLast (s : Socket) (last : SeqNumber) (r : ℕ × ℕ) : Bool :=
  (s.block r).1 ≤ .ofBitVec last ∧ .ofBitVec last ≤ (s.block r).2

/-- The runs whose bounds are computed. -/
def inspected (s : Socket) : List (ℕ × ℕ) :=
  match s.localRxLastSeq with
  | none => s.heldRuns.take 1
  | some last => s.heldRuns.lookedAt (s.matchesLast last)

/-- The run ends in front of the point where sequence numbers wrap. -/
def EndsBelowWrap (s : Socket) (r : ℕ × ℕ) : Prop := s.nextAck.toNat + r.2 < 2 ^ 32

/-- The runs that the search comes to end in front of the wrap: those up to the one with the last
segment, or else all of them. -/
def BelowWrap (s : Socket) : Prop :=
  match s.localRxLastSeq with
  | none => ∀ r ∈ s.heldRuns.head?, s.EndsBelowWrap r
  | some last =>
    (∃ r ∈ s.heldRuns, r.1 ≤ dist last s.nextAck ∧ dist last s.nextAck ≤ r.2 ∧
      s.EndsBelowWrap r) ∨ ∀ r ∈ s.heldRuns, s.EndsBelowWrap r

/-- What the selective acknowledgement in a reply is to be. -/
structure Sacks (s : Socket) (accepted : Prop) (repr reply : TcpRepr) : Prop where
  noOverflow : ∀ r ∈ s.inspected, r.2 + s.ackOffset < 2 ^ 64
  ackNumber : reply.ackNumber = some s.nextAck
  run : ∀ b, reply.sackRanges[0] = some b → ∃ r, IsRun s.held r ∧ b = s.block r ∧
    SeqNumber.lt s.nextAck b.1.toBitVec ∧
    SeqNumber.le b.2.toBitVec (shift s.nextAck s.rxBuffer.window)
  first : accepted → ∀ r, IsRun s.held r → r.1 ≤ dist repr.seqNumber s.nextAck →
    dist repr.seqNumber s.nextAck < r.2 →
    s.localRxLastSeq = some repr.seqNumber ∧ reply.sackRanges[0] = some (s.block r)

lemma ackOffset_eq (s : Socket) : s.ackOffset =
    s.nextAck.toNat + if 2 ^ 31 ≤ s.nextAck.toNat then 2 ^ 64 - 2 ^ 32 else 0 := by
  unfold ackOffset
  rw [BitVec.toNat_signExtend, BitVec.toNat_setWidth, BitVec.msb_eq_decide]
  have hlt := s.nextAck.isLt
  rw [Nat.mod_eq_of_lt (by omega)]
  simp

/-- Cut to 32 bits the computed bound is the sequence number, even where the sum wraps. -/
lemma ofNat_add_ackOffset (s : Socket) (n : ℕ) :
    UInt32.ofNat ((n + s.ackOffset) % 2 ^ 64) = .ofBitVec (shift s.nextAck n) := by
  have hoff := s.ackOffset_eq
  apply UInt32.toNat_inj.mp
  rw [UInt32.toNat_ofNat', UInt32.toNat_ofBitVec, shift, BitVec.toNat_add, BitVec.toNat_ofInt]
  split_ifs at hoff <;> omega

lemma sackRange_eq (s : Socket) : s.sackRange s.nextAck =
    ((s.localRxLastSeq.bind fun last => s.heldRuns.find? (s.matchesLast last)).or
      s.heldRuns.head?).map s.block := by
  have hranges : ((s.assembler.iterData s.ackOffset).map fun r =>
      (UInt32.ofNat r.1, UInt32.ofNat r.2)) = s.heldRuns.map s.block := by
    unfold Assembler.iterData heldRuns block
    rw [List.map_map]
    refine List.map_congr_left fun r _ => ?_
    simp only [Function.comp_apply, ofNat_add_ackOffset]
  unfold sackRange
  change ((s.localRxLastSeq.bind fun last => List.find? _
    ((s.assembler.iterData s.ackOffset).map fun r => (UInt32.ofNat r.1, UInt32.ofNat r.2))).or
      ((s.assembler.iterData s.ackOffset).map fun r =>
        (UInt32.ofNat r.1, UInt32.ofNat r.2)).head?) = _
  simp only [hranges, List.find?_map, List.head?_map, Option.map_or, Option.map_bind]
  rfl

/-! ### Below the wrap -/

lemma block_toNat (h : s.EndsBelowWrap r) (hn : n ≤ r.2) :
    (UInt32.ofBitVec (shift s.nextAck n)).toNat = s.nextAck.toNat + n := by
  unfold EndsBelowWrap at h
  rw [UInt32.toNat_ofBitVec, shift, BitVec.toNat_add, BitVec.toNat_ofInt]
  omega

/-- In front of the wrap the test finds the run with the last segment, or one that it follows. -/
lemma matchesLast_iff {last : SeqNumber} (hlt : r.1 < r.2) (hle : r.2 ≤ 2 ^ 30)
    (h : s.EndsBelowWrap r) : s.matchesLast last r = true ↔
      r.1 ≤ dist last s.nextAck ∧ dist last s.nextAck ≤ r.2 := by
  unfold matchesLast block
  rw [decide_eq_true_iff, UInt32.le_iff_toNat_le, UInt32.le_iff_toNat_le, block_toNat h hlt.le,
    block_toNat h le_rfl, UInt32.toNat_ofBitVec]
  have hlast : last = shift s.nextAck (dist last s.nextAck) := (shift_dist _ _).symm
  have hto : (last.toNat : ℤ) = (s.nextAck.toNat + dist last s.nextAck) % 2 ^ 32 := by
    nth_rewrite 1 [hlast]
    rw [shift, BitVec.toNat_add, BitVec.toNat_ofInt]
    omega
  have hd := dist_lt last s.nextAck
  have hd' := le_dist last s.nextAck
  have hack := s.nextAck.isLt
  unfold EndsBelowWrap at h
  constructor <;> intro hm <;> omega

lemma overflow_iff (hle : r.2 ≤ 2 ^ 30) :
    r.2 + s.ackOffset < 2 ^ 64 ↔ s.EndsBelowWrap r := by
  have hoff := s.ackOffset_eq
  have hlt := s.nextAck.isLt
  unfold EndsBelowWrap
  split_ifs at hoff <;> omega

/-- The runs lie in the receive window. -/
lemma Base.run_le (h : s.Base) (hr : IsRun s.held r) : r.2 ≤ s.rxBuffer.window := by
  have hlt := hr.lt
  have hlast := h.covers (r.2 - 1) (hr.subset ⟨by omega, by omega⟩)
  omega

lemma Base.run_le_capacity (h : s.Base) (hr : IsRun s.held r) : r.2 ≤ 2 ^ 30 :=
  (h.run_le hr).trans (s.rxBuffer.window_le_capacity.trans h.capacity)

lemma Waiting.run_pos (h : s.Waiting) (hr : IsRun s.held r) : 0 < r.1 := by
  refine Nat.pos_of_ne_zero fun h0 => h ?_
  have hlt := hr.lt
  exact hr.subset ⟨by omega, by omega⟩

lemma mem_heldRuns_of_inspected (h : r ∈ s.inspected) : r ∈ s.heldRuns := by
  unfold inspected at h
  split at h
  · exact List.mem_of_mem_take h
  · exact List.lookedAt_subset h

lemma noOverflow_iff (h : s.Base) :
    (∀ r ∈ s.inspected, r.2 + s.ackOffset < 2 ^ 64) ↔ ∀ r ∈ s.inspected, s.EndsBelowWrap r := by
  refine forall₂_congr fun r hr => overflow_iff (h.run_le_capacity ?_)
  exact mem_heldRuns.mp (mem_heldRuns_of_inspected hr)

theorem belowWrap_iff (h : s.Base) :
    s.BelowWrap ↔ ∀ r ∈ s.inspected, s.EndsBelowWrap r := by
  have hmatch : ∀ {last r}, r ∈ s.heldRuns → s.EndsBelowWrap r →
      (s.matchesLast last r = true ↔ r.1 ≤ dist last s.nextAck ∧ dist last s.nextAck ≤ r.2) := by
    intro last r hr hw
    have hrun := mem_heldRuns.mp hr
    exact matchesLast_iff hrun.lt (h.run_le_capacity hrun) hw
  unfold BelowWrap inspected
  split
  · cases s.heldRuns <;> simp
  · rename_i last _
    constructor
    · rintro (⟨a, ha, hlo, hhi, hw⟩ | hall) r hr
      · have htest := (hmatch ha hw).mpr ⟨hlo, hhi⟩
        rcases s.spaced_heldRuns.gap.lookedAt ha htest hr with rfl | hlt
        · exact hw
        · have hrun := (mem_heldRuns.mp ha).lt
          unfold EndsBelowWrap at *
          omega
      · exact hall r (List.lookedAt_subset hr)
    · intro hall
      cases hfind : s.heldRuns.find? (s.matchesLast last) with
      | none =>
        rw [List.lookedAt_of_find?_eq_none hfind] at hall
        exact .inr hall
      | some a =>
        have ha := List.mem_of_find?_eq_some hfind
        have hw := hall a (List.lookedAt_of_find?_eq_some hfind)
        obtain ⟨hlo, hhi⟩ := (hmatch ha hw).mp (List.find?_some hfind)
        exact .inl ⟨a, ha, hlo, hhi, hw⟩

/-- If nothing overflows, the search finds the run with the last segment. -/
lemma find?_heldRuns {last : SeqNumber} (h : s.Base) (hlast : s.localRxLastSeq = some last)
    (hall : ∀ r ∈ s.inspected, s.EndsBelowWrap r) (hr : IsRun s.held r)
    (hlo : r.1 ≤ dist last s.nextAck) (hhi : dist last s.nextAck < r.2) :
    s.heldRuns.find? (s.matchesLast last) = some r := by
  have hmem := mem_heldRuns.mpr hr
  unfold inspected at hall
  simp only [hlast] at hall
  cases hfind : s.heldRuns.find? (s.matchesLast last) with
  | none =>
    rw [List.lookedAt_of_find?_eq_none hfind] at hall
    have htest := (matchesLast_iff hr.lt (h.run_le_capacity hr) (hall r hmem)).mpr ⟨hlo, hhi.le⟩
    exact absurd htest (List.find?_eq_none.mp hfind r hmem)
  | some a =>
    have ha := List.mem_of_find?_eq_some hfind
    have hrun := mem_heldRuns.mp ha
    have hw := hall a (List.lookedAt_of_find?_eq_some hfind)
    have htest := (matchesLast_iff hrun.lt (h.run_le_capacity hrun) hw).mp (List.find?_some hfind)
    -- two runs are a gap apart, and the number of the last segment is in no gap
    by_contra hne
    rcases s.spaced_heldRuns.gap_or ha hmem (fun heq => hne (by rw [heq])) with hgap | hgap <;>
      omega

/-! ### The segment that is answered -/

lemma trimPayload_outside {w : Span} {p : Option Packet}
    (h : s.trimPayload cx ipRepr repr w = .ok (.ret s' p)) : ¬ w.segmentInWindow := by
  unfold trimPayload at h
  split at h
  · cases h
  · cases h
  · split_ifs at h with hin
    · simp only [Checked.bind_eq_ok, Checked.pure_eq_ok] at h
      obtain ⟨_, _, _, _, _, _, _, _, _, _, h⟩ := h
      cases h
    · exact hin

lemma Received.localRxLastSeq_eq {payload : List UInt8} {offset : ℕ}
    (h : Received s payload offset s') : s'.localRxLastSeq = s.localRxLastSeq := by
  cases h <;> rfl

lemma Transits.localRxLastSeq_eq {control : TcpControl} {aof : Bool}
    (h : Transits s cx ipRepr repr control aof s') : s'.localRxLastSeq = s.localRxLastSeq := by
  cases h <;> rfl

lemma finishProcess_nil {ack : AckInfo} {offset : ℕ} {p : Option Packet}
    (h : s.finishProcess cx ipRepr repr ack [] offset = .ok (s', p)) : p = none := by
  unfold finishProcess at h
  obtain ⟨s₁, -, h⟩ := Checked.bind_eq_ok.mp h
  simp only [receivePayload, List.length_nil, if_true] at h
  cases h
  rfl

/-- The answer to a segment that is not refused knows the number of that segment. -/
theorem process_lastSeq (hnot : ¬ s.Refuses repr)
    (h : s.process cx ipRepr repr = .ok (s', some q)) :
    s'.localRxLastSeq = some repr.seqNumber := by
  cases Stages.of_process h with
  | checked hcheck =>
    by_cases hctl : repr.control = .rst
    · unfold checkAck at hcheck
      rw [if_pos hctl] at hcheck
      split_ifs at hcheck <;> cases hcheck
    · have hacc : AckAcceptable s repr := by
        by_contra hacc
        exact hnot (.inl ⟨hctl, hacc⟩)
      cases checkAck_of_acceptable hctl hacc hcheck
  | trimmed w hw htrim => exact absurd (.inr ⟨w, hw, trimPayload_outside htrim⟩) hnot
  | stopped hreaches htr => cases transition_ret_reply htr
  | @finished w st payload offset ack s₁ hreaches htr hfinish =>
    obtain ⟨rtte, cc, -, -, hnote⟩ := noteAck_eq st cx repr ack.ackLen
    rw [hnote] at htr
    have htransits := transition_next htr
    rcases trimPayload_next hreaches.span hreaches.trims with ⟨-, -, rfl, -⟩ | ⟨-, -, rfl, htrimmed⟩
    · cases finishProcess_nil hfinish
    · have hwin := htrimmed.offset_add_length_le
      obtain ⟨s₂, hacked, hrecv⟩ := finishProcess_eq_ok
        (by rwa [htransits.rxBuffer_eq]) hfinish
      cases hacked
      rw [hrecv.localRxLastSeq_eq]
      exact htransits.localRxLastSeq_eq

lemma ackReply_sackRange (h : s.ackReply cx ipRepr repr = .ok (s', q))
    (hsack : s.remoteHasSack = true) :
    q.2.ackNumber = some s.nextAck ∧ q.2.sackRanges[0] = s.sackRange s.nextAck := by
  unfold ackReply at h
  simp only [Checked.bind_eq_ok, SeqNumber.add_eq_ok, Checked.pure_eq_ok, hsack, if_true] at h
  obtain ⟨q₀, -, ack, ⟨-, rfl⟩, h⟩ := h
  cases h
  exact ⟨rfl, Vector.getElem_set_self _⟩

end Socket

lemma Sys.Reachable.waiting {y : Sys} (h : y.Reachable) : y.socket.Waiting :=
  ReachableBy.induct (fun _ h => Socket.waiting_of_initial h)
    (fun _ _ _ _ hs _ hrule => hs.step hrule) h

namespace Sys

variable {y : Sys} {cx : Context} {ipRepr : IpRepr} {repr : TcpRepr} {s s' : Socket} {q : Packet}

/-- What the acknowledgement is computed from is what the reached state holds. -/
lemma reachable_acknowledged (hreach : y.Reachable)
    (h : y.socket.process cx ipRepr repr = .ok (s', some q))
    (hack : s.ackReply cx ipRepr repr = .ok (s', q)) : s.Base ∧ s.Waiting := by
  have hstep : Step y (.process cx ipRepr repr) ⟨s', y.conn.process y.socket s'⟩ := by
    unfold Step
    simp only [step, h]
    rfl
  have hbase := hreach.base.step (.of_step hstep)
  have hwaiting := hreach.waiting.step (.of_step hstep)
  rw [Socket.ackReply_eq_ok hack] at hbase hwaiting
  exact ⟨{ hbase with }, hwaiting⟩

/-! ### Samples -/

/-- A connection with a peer that permits selective acknowledgements and starts at `isn`. Two octets
are held behind a hole of four. -/
def sackHandshake (isn : SeqNumber) : List Op :=
  [.listen ⟨none, 80⟩,
    Sample.process 0 { Sample.segment .syn isn none 256 [] with sackPermitted := true },
    Sample.dispatch 0, Sample.process 0 (Sample.segment .none (isn + 1) (some 10001) 256 []),
    Sample.process 0 (Sample.segment .none (isn + 5) (some 10001) 256 [1, 2])]

/-- Ten octets behind a second hole. -/
def island (isn : SeqNumber) : TcpRepr :=
  Sample.segment .none (isn + 11) (some 10001) 256 (.replicate 10 3)

lemma exists_sack (isn : SeqNumber) (P : Socket → TcpRepr → Bool)
    (h : ((start Sample.config (Sample.buffer 64) (Sample.buffer 64)).bind
      (exec (fun _ _ => true) · (sackHandshake isn))).any (fun y =>
        (y.socket.process (Sample.context 0) Sample.ipRepr (island isn)).toOption.any fun q =>
          q.2.any fun r => r.2.control ≠ .rst && P q.1 r.2) = true) :
    ∃ (y : Sys) (s s' : Socket) (q : Packet), y.Reachable ∧
      y.socket.process (Sample.context 0) Sample.ipRepr (island isn) = .ok (s', some q) ∧
      s.ackReply (Sample.context 0) Sample.ipRepr (island isn) = .ok (s', q) ∧
      P s.acknowledged q.2 = true := by
  obtain ⟨y, hreach, hP⟩ := exists_sample (fun _ _ => True) (fun _ _ => true) 64 (sackHandshake isn)
    _ (fun _ _ _ => trivial) h
  obtain ⟨⟨s', p⟩, hs, hp⟩ := Checked.exists_of_any hP
  obtain ⟨q, rfl, hq⟩ := (Option.any_eq_true _ _).mp hp
  rw [Bool.and_eq_true, decide_eq_true_iff] at hq
  cases Socket.process_replies hs with
  | rst hctl hrst => exact absurd (Socket.rstReply_repr hctl hrst).2.2 hq.1
  | ack hack => exact ⟨y, _, s', q, hreach, hs, hack, Socket.ackReply_eq_ok hack ▸ hq.2⟩

/-- The selective acknowledgement in a reply is right exactly if the runs that the search comes to
end in front of the point where sequence numbers wrap. -/
theorem sacks_iff (hreach : y.Reachable)
    (h : y.socket.process cx ipRepr repr = .ok (s', some q))
    (hack : s.ackReply cx ipRepr repr = .ok (s', q)) (hsack : s.remoteHasSack = true) :
    s.Sacks (¬ y.socket.Refuses repr) repr q.2 ↔ s.BelowWrap := by
  obtain ⟨hbase, hwaiting⟩ := reachable_acknowledged hreach h hack
  obtain ⟨hnum, hblock⟩ := Socket.ackReply_sackRange hack hsack
  rw [s.sackRange_eq] at hblock
  rw [Socket.belowWrap_iff hbase]
  constructor
  · intro hs
    exact (Socket.noOverflow_iff hbase).mp hs.noOverflow
  · intro hall
    refine ⟨(Socket.noOverflow_iff hbase).mpr hall, hnum, ?_, ?_⟩
    · intro b hb
      rw [hblock, Option.map_eq_some_iff] at hb
      obtain ⟨r, hr, rfl⟩ := hb
      have hmem : r ∈ s.heldRuns := by
        rcases Option.or_eq_some_iff.mp hr with hr | ⟨-, hr⟩
        · obtain ⟨last, -, hr⟩ := Option.bind_eq_some_iff.mp hr
          exact List.mem_of_find?_eq_some hr
        · exact List.mem_of_head? hr
      have hrun := Socket.mem_heldRuns.mp hmem
      have hpos := hwaiting.run_pos hrun
      have hlt := hrun.lt
      have hle := hbase.run_le hrun
      have hcap := s.rxBuffer.window_le_capacity.trans hbase.capacity
      refine ⟨r, hrun, rfl, ?_, ?_⟩
      · change dist s.nextAck (shift s.nextAck r.1) < 0
        have hd := dist_shift_shift_of_lt s.nextAck (j := 0) (k := r.1) (by omega) (by omega)
        rw [shift_zero] at hd
        omega
      · change dist (shift s.nextAck r.2) (shift s.nextAck s.rxBuffer.window) ≤ 0
        rw [dist_shift_shift_of_lt s.nextAck (by omega) (by omega)]
        omega
    · intro hacc r hr hlo hhi
      have hlast : s.localRxLastSeq = some repr.seqNumber := by
        have hs' := Socket.process_lastSeq hacc h
        rwa [Socket.ackReply_eq_ok hack] at hs'
      refine ⟨hlast, ?_⟩
      rw [hblock, hlast, Option.bind_some, Socket.find?_heldRuns hbase hlast hall hr hlo hhi]
      rfl

/-- The second run is reported as long as sequence numbers do not wrap. -/
theorem sacks_iff_low : ∃ (y : Sys) (s s' : Socket) (q : Packet), y.Reachable ∧
    y.socket.process (Sample.context 0) Sample.ipRepr (island 99) = .ok (s', some q) ∧
    s.ackReply (Sample.context 0) Sample.ipRepr (island 99) = .ok (s', q) ∧
    s.remoteHasSack = true ∧ s.Sacks (¬ y.socket.Refuses (island 99)) (island 99) q.2 ∧
    q.2.sackRanges[0] = some (110, 120) := by
  obtain ⟨y, s, s', q, hreach, hs, hack, hP⟩ := exists_sack 99
    (fun s r => s.remoteHasSack ∧ (∀ r ∈ s.heldRuns, s.nextAck.toNat + r.2 < 2 ^ 32) ∧
      r.sackRanges[0] = some (110, 120))
    (by decide)
  obtain ⟨hsack, hall, hblock⟩ := of_decide_eq_true hP
  have hbelow : s.BelowWrap := by
    unfold Socket.BelowWrap
    split
    · exact fun r hr => hall r (List.mem_of_head? hr)
    · exact .inr hall
  exact ⟨y, s, s', q, hreach, hs, hack, hsack, (sacks_iff hreach hs hack hsack).mpr hbelow, hblock⟩

/-- The last segment crosses the wrap: the sum for its end overflows, and the search passes over
its run and reports the run in front of it. -/
theorem sacks_at_wrap : ∃ (y : Sys) (s s' : Socket) (q : Packet), y.Reachable ∧
    y.socket.process (Sample.context 0) Sample.ipRepr (island 4294967279) = .ok (s', some q) ∧
    s.ackReply (Sample.context 0) Sample.ipRepr (island 4294967279) = .ok (s', q) ∧
    s.remoteHasSack = true ∧ s.localRxLastSeq = some (island 4294967279).seqNumber ∧
    IsRun s.held (10, 20) ∧ s.nextAck = 4294967280 ∧
    q.2.sackRanges[0] = some (4294967284, 4294967286) ∧
    ¬ s.Sacks (¬ y.socket.Refuses (island 4294967279)) (island 4294967279) q.2 := by
  obtain ⟨y, s, s', q, hreach, hs, hack, hP⟩ := exists_sack 4294967279
    (fun s r => s.remoteHasSack ∧ s.localRxLastSeq = some (island 4294967279).seqNumber ∧
      (10, 20) ∈ s.heldRuns ∧ s.nextAck = 4294967280 ∧
      r.sackRanges[0] = some (4294967284, 4294967286) ∧
      ∃ r ∈ s.inspected, 2 ^ 64 ≤ r.2 + s.ackOffset)
    (by decide)
  obtain ⟨hsack, hlast, hmem, hnum, hblock, r, hr, hover⟩ := of_decide_eq_true hP
  refine ⟨y, s, s', q, hreach, hs, hack, hsack, hlast, Socket.mem_heldRuns.mp hmem, hnum,
    hblock, ?_⟩
  intro hsacks
  have hlt := hsacks.noOverflow r hr
  change 2 ^ 64 ≤ r.2 + s.ackOffset at hover
  omega

end Sys

end Smoltcp.Tcp
