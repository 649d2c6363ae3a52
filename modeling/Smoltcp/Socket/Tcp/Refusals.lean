import Smoltcp.Socket.Tcp.Window

/-!
# Unacceptable segments

A segment that fails the test of its acknowledgement number or the test of the receive window
leaves a synchronized connection as it is. It may be answered by a challenge ACK, at most once a
second as long as the clock does not overflow.
-/

namespace Smoltcp.Tcp

open Serial

/-- The remote's initial sequence number is known. -/
def State.Synchronized (st : State) : Prop := st ≠ .closed ∧ st ≠ .listen ∧ st ≠ .synSent

instance (st : State) : Decidable st.Synchronized := inferInstanceAs (Decidable (_ ∧ _ ∧ _))

namespace Socket

variable {s s' s₁ : Socket} {cx : Context} {ipRepr : IpRepr} {repr : TcpRepr} {p : Option Packet}

/-- The segment fails the test of the acknowledgement number, which an RST is not put to, or the
test of the receive window. -/
def Refuses (s : Socket) (repr : TcpRepr) : Prop :=
  repr.control ≠ .rst ∧ ¬ AckAcceptable s repr ∨ ∃ w, s.span repr = .ok w ∧ ¬ w.segmentInWindow

/-- What becomes of a socket that refuses a segment. -/
inductive Refusal (s : Socket) (cx : Context) : Socket → Option Packet → Prop where
  | dropped : Refusal s cx s none
  | reset (q : Packet) (hctl : q.2.control = .rst) : Refusal s cx s (some q)
  | limited (timer : Timer) (ht : s.state ≠ .timeWait → timer = s.timer)
      (hnow : cx.now < s.challengeAckTimer) : Refusal s cx { s with timer := timer } none
  | challenge (timer : Timer) (ht : s.state ≠ .timeWait → timer = s.timer)
      (hnow : ¬ cx.now < s.challengeAckTimer) (q : Packet) (hctl : q.2.control = .none) :
      Refusal s cx
        { s with
          timer := timer
          challengeAckTimer := cx.now.add (.fromSecs 1)
          remoteLastAck := some s.nextAck
          remoteLastWin := s.scaledWindow } (some q)

lemma challengeAckReply_refusal {timer : Timer} (ht : s.state ≠ .timeWait → timer = s.timer)
    (h : { s with timer := timer }.challengeAckReply cx ipRepr repr = .ok (s', p)) :
    Refusal s cx s' p := by
  unfold challengeAckReply at h
  split_ifs at h with hnow
  · cases h
    exact .limited timer ht hnow
  · obtain ⟨⟨s₁, q⟩, hack, h⟩ := Checked.bind_eq_ok.mp h
    cases h
    have hctl := (ackReply_repr hack).2.2.2
    rw [ackReply_eq_ok hack]
    exact .challenge timer ht hnow q hctl

lemma checkAckOfSyn_refusal {a : SeqNumber} (hack : repr.ackNumber = some a)
    (h : s.checkAckOfSyn ipRepr repr a = .ok (.ret s' p)) : Refusal s cx s' p := by
  unfold checkAckOfSyn at h
  split_ifs at h
  · obtain ⟨q, hq, h⟩ := Checked.bind_eq_ok.mp h
    cases h
    exact .reset q (rstReply_repr (.inr (by rw [hack]; simp)) hq).2.2
  · cases h

lemma checkAckRange_refusal {a : SeqNumber}
    (h : s.checkAckRange cx ipRepr repr a = .ok (.ret s' p)) : Refusal s cx s' p := by
  unfold checkAckRange at h
  obtain ⟨ackMax, -, h⟩ := Checked.bind_eq_ok.mp h
  generalize (if s.sentSyn then shift s.localSeqNo 1 else s.localSeqNo) = ackMin at h
  split_ifs at h
  · cases h
    exact .dropped
  · obtain ⟨⟨s₁, q⟩, hc, h⟩ := Checked.bind_eq_ok.mp h
    cases h
    exact challengeAckReply_refusal (fun _ => rfl) hc
  · cases h

lemma checkAck_refusal (hst : s.state.Synchronized)
    (h : s.checkAck cx ipRepr repr = .ok (.ret s' p)) : Refusal s cx s' p := by
  unfold checkAck at h
  split_ifs at h with hrst hsyn
  · exact absurd hsyn.1 hst.2.2
  · cases h
  · unfold checkAckNumber at h
    split at h
    · rename_i hs
      exact absurd hs hst.2.1
    · rename_i hs
      exact absurd hs hst.2.2
    all_goals
      cases hack : repr.ackNumber with
      | none =>
        rw [hack] at h
        cases h
        exact .dropped
      | some a =>
        rw [hack] at h
        first
        | exact checkAckOfSyn_refusal hack h
        | exact checkAckRange_refusal h

lemma trimPayload_refusal {w : Span} (h : s.trimPayload cx ipRepr repr w = .ok (.ret s' p)) :
    Refusal s cx s' p := by
  unfold trimPayload at h
  split at h
  · cases h
  · cases h
  · split_ifs at h
    · simp only [Checked.bind_eq_ok, Checked.pure_eq_ok] at h
      obtain ⟨_, _, _, _, _, _, _, _, _, _, h⟩ := h
      cases h
    · obtain ⟨⟨s₁, q⟩, hc, h⟩ := Checked.bind_eq_ok.mp h
      cases h
      unfold rejectSegment at hc
      split_ifs at hc with htw
      · exact challengeAckReply_refusal (fun hne => absurd htw hne) hc
      · exact challengeAckReply_refusal (fun _ => rfl) hc

/-- A synchronized socket goes on with a payload only if the segment is in the window. -/
lemma trimPayload_inWindow {w : Span} {q : List UInt8 × ℕ} (hst : s.state.Synchronized)
    (h : s.trimPayload cx ipRepr repr w = .ok (.next s' q)) : w.segmentInWindow := by
  unfold trimPayload at h
  split at h
  · rename_i hs
    exact absurd hs hst.2.1
  · rename_i hs
    exact absurd hs hst.2.2
  · split_ifs at h with hin
    · exact hin
    · obtain ⟨_, _, h⟩ := Checked.bind_eq_ok.mp h
      cases h

theorem process_refusal (hst : s.state.Synchronized) (hrefuses : s.Refuses repr)
    (h : s.process cx ipRepr repr = .ok (s', p)) : Refusal s cx s' p := by
  have hnot : ∀ {w : Span} {st : Socket} {payload : List UInt8} {offset : ℕ} {ack : AckInfo},
      ¬ Reaches s cx ipRepr repr w st payload offset ack := by
    intro w st payload offset ack hreaches
    rcases hrefuses with ⟨hctl, hnot⟩ | ⟨w', hw', hnot⟩
    · exact hnot (hreaches.checked.resolve_left hctl).2
    · obtain rfl := Except.ok.inj (hreaches.span.symm.trans hw')
      exact hnot (trimPayload_inWindow hst hreaches.trims)
  cases Stages.of_process h with
  | checked hcheck => exact checkAck_refusal hst hcheck
  | trimmed w hw htrim => exact trimPayload_refusal htrim
  | stopped hreaches => exact absurd hreaches hnot
  | finished s₂ hreaches => exact absurd hreaches hnot

/-- What a refused segment may change. -/
structure Frame (s s' : Socket) : Prop where
  exists_eq : ∃ timer chal lastAck lastWin, (s.state ≠ .timeWait → timer = s.timer) ∧
    s' = { s with
      timer := timer
      challengeAckTimer := chal
      remoteLastAck := lastAck
      remoteLastWin := lastWin }

lemma Refusal.frame (h : Refusal s cx s' p) : Frame s s' := by
  cases h with
  | dropped => exact ⟨_, _, _, _, fun _ => rfl, rfl⟩
  | reset q hctl => exact ⟨_, _, _, _, fun _ => rfl, rfl⟩
  | limited timer ht hnow => exact ⟨timer, _, _, _, ht, rfl⟩
  | challenge timer ht hnow q hctl => exact ⟨timer, _, _, _, ht, rfl⟩

end Socket

/-! ### The rate of challenge ACKs -/

/-- A microsecond count of a second. -/
def second : ℤ := 1000000

/-- A socket under segments that it refuses, with the times of its challenge ACKs, the latest
first. -/
structure Siege where
  socket : Socket
  challenges : List Instant

namespace Siege

/-- A segment that arrives, with the interface's time. -/
structure Arrival where
  cx : Context
  ipRepr : IpRepr
  repr : TcpRepr

/-- The time of a reply that is an ACK. An RST for a wrong acknowledgement of our SYN is none. -/
def challengeOf (now : Instant) (p : Option Packet) : Option Instant :=
  p.bind fun q => if q.2.control = .rst then none else some now

def step (g : Siege) (a : Arrival) : Checked Siege := do
  let (s, p) ← g.socket.process a.cx a.ipRepr a.repr
  return ⟨s, (challengeOf a.cx.now p).toList ++ g.challenges⟩

/-- The segment is refused, and a second can be added to the time. -/
def Refused (g : Siege) (a : Arrival) : Prop :=
  g.socket.Refuses a.repr ∧ a.cx.now.toInt + second < 2 ^ 63

/-- Runs of segments that are all refused. -/
abbrev Run : Siege → Siege → Prop :=
  Transition.Run (fun g a g' => g.step a = .ok g') Refused

/-- The invariant: challenge ACKs are a second apart, and the timer runs from the last one. -/
structure Spaced (g : Siege) : Prop where
  synchronized : g.socket.state.Synchronized
  pairwise : g.challenges.Pairwise fun later earlier => earlier.toInt + second ≤ later.toInt
  timer : ∀ t ∈ g.challenges.head?, t.toInt + second ≤ g.socket.challengeAckTimer.toInt

variable {g g' : Siege} {a : Arrival}

lemma toInt_add_second {t : Instant} (h : t.toInt + second < 2 ^ 63) :
    (t.add (.fromSecs 1)).toInt = t.toInt + second := by
  have ht := t.le_toInt
  have hcast : (Duration.fromSecs 1).toInt64.toInt = second := by decide
  rw [Instant.add, Int64.toInt_add, hcast, Int.bmod_eq_of_le_mul_two]
  · unfold second at *
    push_cast
    omega
  · unfold second at *
    push_cast
    omega

/-- A challenge ACK that the timer allows comes a second after the others. -/
lemma Spaced.cons {now : Instant} (h : g.Spaced) (hnow : ¬ now < g.socket.challengeAckTimer) :
    (now :: g.challenges).Pairwise fun later earlier => earlier.toInt + second ≤ later.toInt := by
  rw [Int64.lt_iff_toInt_lt] at hnow
  have hpair := h.pairwise
  have htimer := h.timer
  cases hc : g.challenges with
  | nil => exact List.pairwise_singleton _ _
  | cons t ts =>
    rw [hc] at hpair htimer
    have ht := htimer t rfl
    rw [List.pairwise_cons] at hpair ⊢
    refine ⟨fun u hu => ?_, List.pairwise_cons.mpr hpair⟩
    rcases List.mem_cons.mp hu with rfl | hu
    · omega
    · have := hpair.1 u hu
      unfold second at *
      omega

lemma Spaced.step (h : g.Spaced) (hok : g.Refused a) (hstep : g.step a = .ok g') : g'.Spaced := by
  obtain ⟨⟨s, p⟩, hs, hstep⟩ := Checked.bind_eq_ok.mp hstep
  cases hstep
  cases Socket.process_refusal h.synchronized hok.1 hs with
  | dropped => exact h
  | reset q hctl =>
    have hnone : challengeOf a.cx.now (some q) = none := by simp [challengeOf, hctl]
    rw [hnone]
    exact h
  | limited timer ht hnow => exact ⟨h.synchronized, h.pairwise, h.timer⟩
  | challenge timer ht hnow q hctl =>
    have hsome : challengeOf a.cx.now (some q) = some a.cx.now := by simp [challengeOf, hctl]
    rw [hsome]
    refine ⟨h.synchronized, h.cons hnow, ?_⟩
    rintro t ⟨rfl⟩
    exact (toInt_add_second hok.2).ge

lemma Run.spaced (h : Run g g') (hg : g.Spaced) : g'.Spaced :=
  h.invariant (fun _ _ _ ht hok hstep => ht.step hok hstep) hg

/-! ### Samples -/

/-- A check for segments outside the receive window. -/
def outside (g : Siege) (a : Arrival) : Bool :=
  (g.socket.span a.repr).toOption.any fun w => decide ¬ w.segmentInWindow

lemma refuses_of_outside (h : g.outside a = true) : g.socket.Refuses a.repr := by
  obtain ⟨w, hw, hnot⟩ := (Option.any_eq_true _ _).mp h
  refine .inr ⟨w, ?_, of_decide_eq_true hnot⟩
  cases hs : g.socket.span a.repr with
  | error e =>
    rw [hs] at hw
    cases hw
  | ok w' =>
    rw [hs] at hw
    cases hw
    rfl

/-- An empty segment far outside the receive window of the sample connection. -/
def stray (now : Instant) : Arrival :=
  ⟨Sample.context now, Sample.ipRepr, Sample.segment .none 5000 (some 10001) 256 []⟩

def handshake : List Op :=
  [.listen ⟨none, 80⟩, Sample.process 0 (Sample.segment .syn 99 none 256 []), Sample.dispatch 0,
    Sample.process 0 (Sample.segment .none 100 (some 10001) 256 [])]

end Siege

namespace Sys

/-- A refused segment leaves a synchronized connection as it is, and in a sequence of refused
segments the challenge ACKs are a second apart. -/
theorem refused_unchanged {y : Sys} (hst : y.socket.state.Synchronized) :
    (∀ cx ipRepr repr s' p, y.socket.Refuses repr →
      y.socket.process cx ipRepr repr = .ok (s', p) → y.socket.Frame s') ∧
      ∀ g, Siege.Run ⟨y.socket, []⟩ g →
        g.challenges.Pairwise fun later earlier => earlier.toInt + second ≤ later.toInt := by
  refine ⟨fun cx ipRepr repr s' p hrefuses hs => ?_, fun g hrun => ?_⟩
  · exact (Socket.process_refusal hst hrefuses hs).frame
  · exact (hrun.spaced ⟨hst, .nil, by simp⟩).pairwise

/-- Of three segments within a second the first and the last are answered. -/
theorem refused_unchanged_thrice : ∃ (y : Sys) (g : Siege), y.Reachable ∧
    y.socket.state = .established ∧ Siege.Run ⟨y.socket, []⟩ g ∧ g.challenges = [1000000, 0] ∧
    (g.challenges.Pairwise fun later earlier => earlier.toInt + second ≤ later.toInt) ∧
    ∃ s' p, y.socket.process (Sample.context 0) Sample.ipRepr (Siege.stray 0).repr = .ok (s', p) ∧
      y.socket.Frame s' := by
  obtain ⟨y, hreach, hP⟩ := exists_sample (fun _ _ => True) (fun _ _ => true) 8 Siege.handshake
    (fun y => y.socket.state = .established ∧
      Siege.outside ⟨y.socket, []⟩ (Siege.stray 0) ∧
      (y.socket.process (Sample.context 0) Sample.ipRepr (Siege.stray 0).repr).toOption.isSome ∧
      (Transition.exec Siege.step
        (fun g a => g.outside a && decide (a.cx.now.toInt + second < 2 ^ 63))
        [Siege.stray 0, Siege.stray 500000, Siege.stray 1000000] ⟨y.socket, []⟩).any fun g =>
          g.challenges = [1000000, 0])
    (fun _ _ _ => trivial) (by decide +kernel)
  obtain ⟨hst, hout, hsome, hany⟩ := of_decide_eq_true hP
  obtain ⟨g, hg, hchallenges⟩ := (Option.any_eq_true _ _).mp hany
  have hrun : Siege.Run ⟨y.socket, []⟩ g := by
    refine .of_exec (fun g a h => ?_) hg
    rw [Bool.and_eq_true] at h
    exact ⟨Siege.refuses_of_outside h.1, of_decide_eq_true h.2⟩
  have hsync : y.socket.state.Synchronized := by
    rw [hst]
    decide
  obtain ⟨hframe, hspaced⟩ := refused_unchanged hsync
  refine ⟨y, g, hreach, hst, hrun, of_decide_eq_true hchallenges, hspaced g hrun, ?_⟩
  cases hs : y.socket.process (Sample.context 0) Sample.ipRepr (Siege.stray 0).repr with
  | error e =>
    rw [hs] at hsome
    cases hsome
  | ok q => exact ⟨q.1, q.2, rfl, hframe _ _ _ _ _ (Siege.refuses_of_outside hout) hs⟩

/-- At the end of the 64-bit clock the timer overflows, and two segments are answered at once. -/
theorem challenges_at_overflow : ∃ (y : Sys) (g : Siege), y.Reachable ∧
    y.socket.state = .established ∧
    Transition.Run (fun g a g' => g.step a = .ok g')
      (fun g (a : Siege.Arrival) => g.socket.Refuses a.repr) ⟨y.socket, []⟩ g ∧
    g.challenges = [Int64.maxValue, Int64.maxValue] := by
  obtain ⟨y, hreach, hP⟩ := exists_sample (fun _ _ => True) (fun _ _ => true) 8 Siege.handshake
    (fun y => y.socket.state = .established ∧
      (Transition.exec Siege.step Siege.outside
        [Siege.stray Int64.maxValue, Siege.stray Int64.maxValue] ⟨y.socket, []⟩).any fun g =>
          g.challenges = [Int64.maxValue, Int64.maxValue])
    (fun _ _ _ => trivial) (by decide +kernel)
  obtain ⟨hst, hany⟩ := of_decide_eq_true hP
  obtain ⟨g, hg, hchallenges⟩ := (Option.any_eq_true _ _).mp hany
  exact ⟨y, g, hreach, hst, .of_exec (fun _ _ h => Siege.refuses_of_outside h) hg,
    of_decide_eq_true hchallenges⟩

end Sys

end Smoltcp.Tcp
