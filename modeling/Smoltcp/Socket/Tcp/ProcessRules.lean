import Smoltcp.Socket.Tcp.System

/-!
# What processing a segment can do

One inversion lemma for each stage of `process`, and `ProcessRule`, which sums them up: a segment
leaves the connection as it is (`Quiet`), resets it, or goes through all stages (`Accepted`).
Invariants are proved from these rules and never unfold `process`.
-/

namespace Smoltcp.Tcp.Socket

open Serial

variable {s s' s₁ : Socket} {cx : Context} {ipRepr : IpRepr} {repr : TcpRepr}

/-! ### Replies -/

/-- The socket after an acknowledgement of all it has stored. -/
def acknowledged (s : Socket) : Socket :=
  { s with
    remoteLastAck := some (shift s.remoteSeqNo s.rxBuffer.len)
    remoteLastWin := s.scaledWindow }

lemma ackReply_eq_ok {p : Packet} (h : s.ackReply cx ipRepr repr = .ok (s', p)) :
    s' = s.acknowledged := by
  unfold ackReply at h
  simp only [Checked.bind_eq_ok, SeqNumber.add_eq_ok, Checked.pure_eq_ok] at h
  obtain ⟨_, _, ack, ⟨_, rfl⟩, h⟩ := h
  cases h
  rfl

/-- What a segment that is not accepted may change: the close timer in TIME-WAIT, the estimators,
and what the last acknowledgement said, if it is answered by one. -/
structure Quiet (s s' : Socket) : Prop where
  exists_eq : ∃ (timer : Timer) (lastSeq : Option SeqNumber) (rtte : RttEstimator)
    (cc : AnyController) (chal : Instant) (s₁ : Socket),
    (timer = s.timer ∨ s.state = .timeWait ∧ ∃ now, timer = .setForClose now) ∧
    (rtte = s.rtte ∨ ∃ now seq, rtte = s.rtte.onAck now seq) ∧
    (cc = s.congestionController ∨ ∃ n, cc = s.congestionController.onAck n) ∧
    s₁ = { s with
      timer := timer
      localRxLastSeq := lastSeq
      rtte := rtte
      congestionController := cc
      challengeAckTimer := chal } ∧
    (s' = s₁ ∨ s' = s₁.acknowledged)

lemma Quiet.refl (s : Socket) : Quiet s s :=
  ⟨_, _, _, _, _, _, .inl rfl, .inl rfl, .inl rfl, rfl, .inl rfl⟩

lemma challengeAckReply_eq_ok {p : Option Packet}
    (h : s.challengeAckReply cx ipRepr repr = .ok (s', p)) :
    ∃ chal, s' = { s with challengeAckTimer := chal } ∨
      s' = { s with challengeAckTimer := chal }.acknowledged := by
  unfold challengeAckReply at h
  split_ifs at h with hnow
  · cases h
    exact ⟨s.challengeAckTimer, .inl rfl⟩
  · simp only [Checked.bind_eq_ok, Checked.pure_eq_ok] at h
    obtain ⟨⟨s₁, p₁⟩, hack, h⟩ := h
    cases h
    exact ⟨_, .inr (ackReply_eq_ok hack)⟩

/-! ### Acknowledgement number -/

/-- The acknowledgement numbers that a segment with no RST may carry to be looked at. -/
inductive AckAcceptable (s : Socket) (repr : TcpRepr) : Prop where
  | listen (hstate : s.state = .listen) (hack : repr.ackNumber = none)
  | syn (hstate : s.state = .synSent) (hctl : repr.control = .syn) (hack : repr.ackNumber = none)
  | synAck (hstate : s.state = .synSent) (hctl : repr.control = .syn)
      (hack : repr.ackNumber = some (shift s.localSeqNo 1))
  | synReceived (hstate : s.state = .synReceived)
      (hack : repr.ackNumber = some (shift s.localSeqNo 1))
  | range (n : ℕ) (hlisten : s.state ≠ .listen) (hsynSent : s.state ≠ .synSent)
      (hsynReceived : s.state ≠ .synReceived) (hlt : s.txBuffer.len + s.controlLen < 2 ^ 31)
      (hle : n ≤ s.txBuffer.len + s.controlLen)
        (hack : repr.ackNumber = some (shift s.localSeqNo n))

/-- A number at most `n` behind another one, by the tests of the source. -/
lemma exists_shift_of_range {a b : SeqNumber} {n : ℕ} (hn : n < 2 ^ 31) (hlo : ¬ a.lt b)
    (hhi : ¬ a.gt (shift b n)) : ∃ k ≤ n, a = shift b k := by
  have ha := shift_dist a b
  have hlt := dist_lt a b
  unfold SeqNumber.lt at hlo
  unfold SeqNumber.gt at hhi
  set d := dist a b with hd
  rw [← ha, dist_shift_shift_of_lt b (by omega) (by omega)] at hhi
  refine ⟨d.toNat, by omega, ?_⟩
  rw [← ha, Int.toNat_of_nonneg (by omega)]

lemma checkAckRange_ret {a : SeqNumber} {p : Option Packet}
    (h : s.checkAckRange cx ipRepr repr a = .ok (.ret s' p)) : Quiet s s' := by
  unfold checkAckRange at h
  simp only [Checked.bind_eq_ok, Checked.pure_eq_ok] at h
  obtain ⟨ackMax, hmax, h⟩ := h
  generalize (if s.sentSyn then shift s.localSeqNo 1 else s.localSeqNo) = ackMin at h
  split_ifs at h
  · cases h
    exact .refl s
  · obtain ⟨⟨s₁, p₁⟩, hc, h⟩ := Checked.bind_eq_ok.mp h
    cases h
    obtain ⟨chal, hs'⟩ := challengeAckReply_eq_ok hc
    exact ⟨_, _, _, _, chal, _, .inl rfl, .inl rfl, .inl rfl, rfl, hs'⟩
  · cases h

lemma checkAckRange_next {a : SeqNumber} (hsyn : s.sentSyn = false)
    (h : s.checkAckRange cx ipRepr repr a = .ok (.next s' ())) :
    s' = s ∧ s.txBuffer.len + s.controlLen < 2 ^ 31 ∧
      ∃ n ≤ s.txBuffer.len + s.controlLen, a = shift s.localSeqNo n := by
  unfold checkAckRange at h
  simp only [Checked.bind_eq_ok, Checked.pure_eq_ok, SeqNumber.add_eq_ok, hsyn,
    Bool.false_eq_true, if_false] at h
  obtain ⟨ackMax, ⟨hlt, rfl⟩, h⟩ := h
  split_ifs at h with h₁ h₂
  · cases h
  · obtain ⟨_, _, h⟩ := Checked.bind_eq_ok.mp h
    cases h
  · cases h
    exact ⟨rfl, hlt, exists_shift_of_range hlt h₁ h₂⟩

lemma checkAckOfSyn_eq_ok {a : SeqNumber} {f : Flow Unit} (h : s.checkAckOfSyn ipRepr repr a =
    .ok f) :
    (∃ p, f = .ret s p) ∨ a = shift s.localSeqNo 1 ∧ f = .next s () := by
  unfold checkAckOfSyn at h
  split_ifs at h with ha
  · obtain ⟨_, _, h⟩ := Checked.bind_eq_ok.mp h
    cases h
    exact .inl ⟨_, rfl⟩
  · cases h
    exact .inr ⟨not_not.mp ha, rfl⟩

lemma checkAckSynSent_eq_ok {f : Flow Unit} (h : s.checkAckSynSent ipRepr repr = .ok f) :
    (∃ p, f = .ret s p) ∨ repr.control = .syn ∧ f = .next s () ∧
      (repr.ackNumber = none ∨ repr.ackNumber = some (shift s.localSeqNo 1)) := by
  unfold checkAckSynSent at h
  split at h
  · rename_i hctl
    cases hack : repr.ackNumber with
    | none =>
      rw [hack] at h
      cases h
      exact .inr ⟨hctl, rfl, .inl rfl⟩
    | some a =>
      rw [hack] at h
      rcases checkAckOfSyn_eq_ok h with h | ⟨rfl, rfl⟩
      · exact .inl h
      · exact .inr ⟨hctl, rfl, .inr rfl⟩
  · split_ifs at h
    · cases h
      exact .inl ⟨_, rfl⟩
    · obtain ⟨_, _, h⟩ := Checked.bind_eq_ok.mp h
      cases h
      exact .inl ⟨_, rfl⟩
  · cases h
    exact .inl ⟨_, rfl⟩

lemma checkAckNumber_ret {p : Option Packet}
    (h : s.checkAckNumber cx ipRepr repr = .ok (.ret s' p)) : Quiet s s' := by
  unfold checkAckNumber at h
  split at h
  · split_ifs at h
    cases h
  · rcases checkAckSynSent_eq_ok h with ⟨_, h⟩ | ⟨_, h, _⟩ <;> cases h
    exact .refl s
  · cases hack : repr.ackNumber with
    | none =>
      rw [hack] at h
      cases h
      exact .refl s
    | some a =>
      rw [hack] at h
      rcases checkAckOfSyn_eq_ok h with ⟨_, h⟩ | ⟨_, h⟩ <;> cases h
      exact .refl s
  · cases hack : repr.ackNumber with
    | none =>
      rw [hack] at h
      cases h
      exact .refl s
    | some a =>
      rw [hack] at h
      exact checkAckRange_ret h

lemma checkAck_ret {p : Option Packet} (h : s.checkAck cx ipRepr repr = .ok (.ret s' p)) :
    Quiet s s' := by
  unfold checkAck at h
  split_ifs at h
  · cases h
    exact .refl s
  · cases h
  · exact checkAckNumber_ret h

lemma checkAckNumber_next (h : s.checkAckNumber cx ipRepr repr = .ok (.next s' ())) :
    s' = s ∧ AckAcceptable s repr := by
  unfold checkAckNumber at h
  split at h
  · rename_i hstate
    split_ifs at h with hack
    cases h
    exact ⟨rfl, .listen hstate (by simpa using hack)⟩
  · rename_i hstate
    rcases checkAckSynSent_eq_ok h with ⟨_, h⟩ | ⟨hctl, h, hack⟩ <;> cases h
    rcases hack with hack | hack
    · exact ⟨rfl, .syn hstate hctl hack⟩
    · exact ⟨rfl, .synAck hstate hctl hack⟩
  · rename_i hstate
    cases hack : repr.ackNumber with
    | none =>
      rw [hack] at h
      cases h
    | some a =>
      rw [hack] at h
      rcases checkAckOfSyn_eq_ok h with ⟨_, hf⟩ | ⟨rfl, hf⟩ <;> cases hf
      exact ⟨rfl, .synReceived hstate hack⟩
  · rename_i hlisten hsynSent hsynReceived
    cases hack : repr.ackNumber with
    | none =>
      rw [hack] at h
      cases h
    | some a =>
      rw [hack] at h
      have hsyn : s.sentSyn = false := by
        simp only [sentSyn, decide_eq_false_iff_not, not_or]
        exact ⟨hsynSent, hsynReceived⟩
      obtain ⟨rfl, hlt, n, hle, rfl⟩ := checkAckRange_next hsyn h
      exact ⟨rfl, .range n hlisten hsynSent hsynReceived hlt hle hack⟩

lemma checkAck_next (h : s.checkAck cx ipRepr repr = .ok (.next s' ())) :
    s' = s ∧ (repr.control = .rst ∨ repr.control ≠ .rst ∧ AckAcceptable s repr) := by
  unfold checkAck at h
  split_ifs at h with hrst hsyn
  · cases h
  · cases h
    exact ⟨rfl, .inl hrst⟩
  · obtain ⟨hs, hack⟩ := checkAckNumber_next h
    exact ⟨hs, .inr ⟨hrst, hack⟩⟩

/-! ### Receive window -/

/-- The signed value of a distance that wraps at most once. -/
lemma bmod_cases {x : ℤ} (hlo : -(2 ^ 32) ≤ x) (hhi : x ≤ 2 ^ 32) :
    (x.bmod (2 ^ 32) = x ∧ -(2 ^ 31) ≤ x ∧ x < 2 ^ 31) ∨
      (x.bmod (2 ^ 32) = x - 2 ^ 32 ∧ 2 ^ 31 ≤ x) ∨
      (x.bmod (2 ^ 32) = x + 2 ^ 32 ∧ x < -(2 ^ 31)) := by
  rw [Int.bmod_def]
  split_ifs <;> omega

/-- A segment that starts `d` behind the window's start, and not behind its end. -/
lemma starts_within {d : ℤ} {win : ℕ} (hlt : 2 * d < 2 ^ 32) (hge : -2 ^ 32 ≤ 2 * d)
    (hwin : win < 2 ^ 31) (hpos : 0 < win) (hle : (0 - d).bmod (2 ^ 32) ≤ 0)
    (h : (d - win).bmod (2 ^ 32) < 0) : 0 ≤ d ∧ d < win := by
  have hd := @bmod_cases (0 - d) (by omega) (by omega)
  have hw := @bmod_cases (d - win) (by omega) (by omega)
  generalize (0 - d).bmod (2 ^ 32) = a at hle hd
  generalize (d - win).bmod (2 ^ 32) = b at h hw
  omega

/-- A segment that ends `x` behind the window's start, and not behind its end. -/
lemma ends_within {x : ℤ} {win : ℕ} (hge : -2 ^ 32 ≤ 2 * x) (hhi : x < 2 ^ 32)
    (hwin : win < 2 ^ 31) (hpos : 0 < win) (hlt : (0 - x).bmod (2 ^ 32) < 0)
    (h : (x - win).bmod (2 ^ 32) ≤ 0) : 0 < x ∧ x ≤ win := by
  have hx := @bmod_cases (0 - x) (by omega) (by omega)
  have hw := @bmod_cases (x - win) (by omega) (by omega)
  generalize (0 - x).bmod (2 ^ 32) = a at hlt hx
  generalize (x - win).bmod (2 ^ 32) = b at h hw
  omega

/-- The test of the source in terms of the distance `d` of the segment from the window: the segment
starts in the window or ends in it. -/
lemma Span.segmentInWindow_cases {w : Span} {d : ℤ} {win len : ℕ} (hwin : win < 2 ^ 31)
    (hlen : len < 2 ^ 31) (hd : d = dist w.segmentStart w.windowStart)
    (hwe : w.windowEnd = shift w.windowStart win)
    (hse : w.segmentEnd = shift w.segmentStart len) (h : w.segmentInWindow) :
    (0 ≤ d ∧ (d < win ∨ d = 0 ∧ len = 0)) ∨ (0 < len ∧ 0 < d + len ∧ d + len ≤ win) := by
  have hss := shift_dist w.segmentStart w.windowStart
  have hlt := dist_lt w.segmentStart w.windowStart
  have hge := le_dist w.segmentStart w.windowStart
  rw [← hd] at hss hlt hge
  unfold Span.segmentInWindow SeqNumber.lt SeqNumber.le at h
  rw [hse, hwe, ← hss, shift_shift] at h
  have hstart : dist w.windowStart (shift w.windowStart d) = (0 - d).bmod (2 ^ 32) := by
    simpa using dist_shift_shift w.windowStart 0 d
  have hend : dist w.windowStart (shift w.windowStart (d + len)) =
    (0 - (d + len)).bmod (2 ^ 32) := by
    simpa using dist_shift_shift w.windowStart 0 (d + len)
  have heq₁ : w.windowStart = shift w.windowStart win ↔ ((0 : ℤ) - win).bmod (2 ^ 32) = 0 := by
    simpa using shift_eq_shift_iff w.windowStart 0 win
  have heq₂ : w.windowStart = shift w.windowStart d ↔ ((0 : ℤ) - d).bmod (2 ^ 32) = 0 := by
    simpa using shift_eq_shift_iff w.windowStart 0 d
  simp only [dist_shift_shift, hstart, hend, shift_eq_shift_iff, heq₁, heq₂] at h
  have hlen₀ : (d - (d + len)).bmod (2 ^ 32) = -len := by
    have h := @bmod_cases (d - (d + len)) (by omega) (by omega)
    omega
  have hwin₀ : (0 - (win : ℤ)).bmod (2 ^ 32) = -win := by
    have h := @bmod_cases (0 - win) (by omega) (by omega)
    omega
  rw [hlen₀, hwin₀] at h
  split_ifs at h with hl hm hw hw
  · have hzero := @bmod_cases (0 - d) (by omega) (by omega)
    omega
  · have hin := starts_within hlt hge hwin (by omega) h.1 h.2
    omega
  · rcases h with h | h
    · have hin := starts_within hlt hge hwin (by omega) h.1 h.2
      omega
    · have hin := ends_within (x := d + len) (by omega) (by omega) hwin (by omega) h.1 h.2
      omega

/-- The overlap of a segment with the window, counted from the window's start. -/
lemma Span.overlap_eq {w : Span} {d : ℤ} {win len : ℕ} (hwin : win < 2 ^ 31)
    (hlen : len < 2 ^ 31) (hd : d = dist w.segmentStart w.windowStart)
    (hwe : w.windowEnd = shift w.windowStart win)
    (hse : w.segmentEnd = shift w.segmentStart len) (h : w.segmentInWindow) :
    w.overlapStart = shift w.windowStart (max d 0) ∧
      w.overlapEnd = shift w.windowStart (min (d + len) win) := by
  have hcase := Span.segmentInWindow_cases hwin hlen hd hwe hse h
  have hss := shift_dist w.segmentStart w.windowStart
  rw [← hd] at hss
  have hstart : dist w.windowStart w.segmentStart = -d := by
    have h := dist_shift_shift_of_lt w.windowStart (j := 0) (k := d) (by omega) (by omega)
    rw [← hss]
    simpa using h
  have hend : dist w.windowEnd w.segmentEnd = win - (d + len) := by
    rw [hse, hwe, ← hss, shift_shift]
    exact dist_shift_shift_of_lt _ (by omega) (by omega)
  unfold Span.overlapStart Span.overlapEnd SeqNumber.max SeqNumber.min
  constructor
  · split_ifs with hgt <;> unfold SeqNumber.gt at hgt
    · rw [max_eq_right (by omega), shift_zero]
    · rw [max_eq_left (by omega), hss]
  · split_ifs with hlt <;> unfold SeqNumber.lt at hlt
    · rw [min_eq_right (by omega), hwe]
    · rw [min_eq_left (by omega), hse, ← hss, shift_shift]

lemma span_eq_ok {w : Span} (h : s.span repr = .ok w) :
    s.rxBuffer.capacity < 2 ^ 31 ∧ repr.payload.length < 2 ^ 31 ∧
      w.windowStart = shift s.remoteSeqNo s.rxBuffer.len ∧
      w.windowEnd = shift w.windowStart s.rxBuffer.window ∧ w.segmentStart = repr.seqNumber ∧
      w.segmentEnd = shift w.segmentStart repr.payload.length := by
  unfold span at h
  simp only [Checked.bind_eq_ok, SeqNumber.add_eq_ok, Checked.pure_eq_ok] at h
  obtain ⟨_, ⟨_, rfl⟩, _, ⟨hcap, rfl⟩, _, ⟨hlen, rfl⟩, h⟩ := h
  cases h
  refine ⟨hcap, hlen, rfl, ?_, rfl, rfl⟩
  have hwin := s.rxBuffer.len_add_window
  rw [shift_shift, ← hwin]
  push_cast
  rfl

/-- The part of a segment's payload inside the window: `d` is the distance of the segment from the
window's start. -/
structure Trimmed (s : Socket) (repr : TcpRepr) (d : ℤ) (payload : List UInt8) (offset : ℕ) :
    Prop where
  seqNumber : repr.seqNumber = shift s.remoteSeqNo (s.rxBuffer.len + d)
  inWindow : (0 ≤ d ∧ (d < s.rxBuffer.window ∨ d = 0 ∧ repr.payload.length = 0)) ∨
    (0 < d + repr.payload.length ∧ d + repr.payload.length ≤ s.rxBuffer.window)
  offset_eq : offset = d.toNat
  payload_eq : payload =
    (repr.payload.take (min (d + repr.payload.length) s.rxBuffer.window - d).toNat).drop (-d).toNat

namespace Trimmed

variable {d : ℤ} {payload : List UInt8} {offset : ℕ}

lemma length_payload (h : Trimmed s repr d payload offset) :
    (payload.length : ℤ) = min (d + repr.payload.length) s.rxBuffer.window - max d 0 := by
  have hin := h.inWindow
  rw [h.payload_eq, List.length_drop, List.length_take]
  omega

lemma offset_add_length_le (h : Trimmed s repr d payload offset) :
    offset + payload.length ≤ s.rxBuffer.window := by
  have hin := h.inWindow
  have hlen := h.length_payload
  have hoff := h.offset_eq
  omega

end Trimmed

lemma trimPayload_next {w : Span} {payload : List UInt8} {offset : ℕ} (hw : s.span repr = .ok w)
    (h : s.trimPayload cx ipRepr repr w = .ok (.next s' (payload, offset))) :
    ((s.state = .listen ∨ s.state = .synSent) ∧ s' = s ∧ payload = [] ∧ offset = 0) ∨
      (s.state ≠ .listen ∧ s.state ≠ .synSent ∧
        s' = { s with localRxLastSeq := some repr.seqNumber } ∧
        Trimmed s repr (dist w.segmentStart w.windowStart) payload offset) := by
  obtain ⟨hcap, hlen, hws, hwe, hss, hse⟩ := span_eq_ok hw
  have hwin : s.rxBuffer.window < 2 ^ 31 := s.rxBuffer.window_le_capacity.trans_lt hcap
  unfold trimPayload at h
  split at h
  · rename_i hstate
    cases h
    exact .inl ⟨.inl hstate, rfl, rfl, rfl⟩
  · rename_i hstate
    cases h
    exact .inl ⟨.inr hstate, rfl, rfl, rfl⟩
  · rename_i hlisten hsynSent
    split_ifs at h with hin
    · simp only [Checked.bind_eq_ok, SeqNumber.sub_eq_ok, Checked.pure_eq_ok] at h
      obtain ⟨_, _, a, ha, b, hb, _, hslice, off, hoff, h⟩ := h
      cases h
      refine .inr ⟨hlisten, hsynSent, rfl, ?_⟩
      set d := dist w.segmentStart w.windowStart with hd
      have hcase := Span.segmentInWindow_cases hwin hlen hd hwe hse hin
      obtain ⟨hos, hoe⟩ := Span.overlap_eq hwin hlen hd hwe hse hin
      have hss' : w.segmentStart = shift w.windowStart d := (shift_dist _ _).symm
      rw [hos, hss', dist_shift_shift_of_lt _ (by omega) (by omega)] at ha
      rw [hoe, hss', dist_shift_shift_of_lt _ (by omega) (by omega)] at hb
      have hoff' := dist_shift_shift_of_lt w.windowStart (j := max d 0) (k := 0)
        (by omega) (by omega)
      rw [shift_zero, ← hos, hoff] at hoff'
      refine ⟨?_, by omega, by omega, ?_⟩
      · rw [← hss, hss', hws, shift_shift]
      · unfold Checked.slice at hslice
        split_ifs at hslice with hab
        cases hslice
        congr 2 <;> omega
    · obtain ⟨_, _, h⟩ := Checked.bind_eq_ok.mp h
      cases h

lemma rejectSegment_eq_ok {p : Option Packet}
    (h : s.rejectSegment cx ipRepr repr = .ok (s', p)) : Quiet s s' := by
  obtain ⟨chal, hs'⟩ := challengeAckReply_eq_ok h
  split_ifs at hs' with htw
  · exact ⟨_, _, _, _, chal, _, .inr ⟨htw, _, rfl⟩, .inl rfl, .inl rfl, rfl, hs'⟩
  · exact ⟨_, _, _, _, chal, _, .inl rfl, .inl rfl, .inl rfl, rfl, hs'⟩

lemma trimPayload_ret {w : Span} {p : Option Packet}
    (h : s.trimPayload cx ipRepr repr w = .ok (.ret s' p)) : Quiet s s' := by
  unfold trimPayload at h
  split at h
  · cases h
  · cases h
  · split_ifs at h with hin
    · simp only [Checked.bind_eq_ok, Checked.pure_eq_ok] at h
      obtain ⟨_, _, _, _, _, _, _, _, _, _, h⟩ := h
      cases h
    · obtain ⟨⟨s₁, p₁⟩, hc, h⟩ := Checked.bind_eq_ok.mp h
      cases h
      exact rejectSegment_eq_ok hc

/-! ### Acknowledged octets -/

/-- What a segment acknowledges. Our SYN and FIN take one number each that is no octet. -/
inductive AckCount (s : Socket) (repr : TcpRepr) : AckInfo → Prop where
  | none (hack : repr.ackNumber = none) : AckCount s repr {}
  | syn (hstate : s.state = .synSent ∨ s.state = .synReceived)
      (hack : repr.ackNumber = some (shift s.localSeqNo 1)) :
      AckCount s repr ⟨0, false, s.remoteLastSeq.le (shift s.localSeqNo 1)⟩
  | data (n : ℕ) (hsyn : s.sentSyn = false) (hle : n ≤ s.txBuffer.len)
      (hack : repr.ackNumber = some (shift s.localSeqNo n)) :
      AckCount s repr ⟨n, false, s.remoteLastSeq.le (shift s.localSeqNo n)⟩
  | fin (n : ℕ) (hn : n = s.txBuffer.len) (hfin : s.sentFin)
      (hack : repr.ackNumber = some (shift s.localSeqNo (n + 1))) :
      AckCount s repr ⟨n, true, s.remoteLastSeq.le (shift s.localSeqNo (n + 1))⟩

lemma AckCount.ackLen_le {ack : AckInfo} (h : AckCount s repr ack) :
    ack.ackLen ≤ s.txBuffer.len := by
  cases h with
  | none hack => exact Nat.zero_le _
  | syn hstate hack => exact Nat.zero_le _
  | data n hsyn hle hack => exact hle
  | fin n hn hfin hack => exact hn.le

lemma ackInfo_eq_ok {ack : AckInfo} (hctl : repr.control ≠ .rst) (hacc : AckAcceptable s repr)
    (h : s.ackInfo repr = .ok ack) : AckCount s repr ack := by
  unfold ackInfo at h
  rw [if_neg hctl] at h
  cases hacc with
  | listen hstate hack =>
    rw [hack] at h
    cases h
    exact .none hack
  | syn hstate hctl hack =>
    rw [hack] at h
    cases h
    exact .none hack
  | synAck hstate hctl hack =>
    have hsyn : s.sentSyn = true := by simp [sentSyn, hstate]
    have hfin : s.sentFin = false := by simp [sentFin, hstate]
    simp [hack, hsyn, hfin, SeqNumber.ge, SeqNumber.sub] at h
    cases h
    exact .syn (.inl hstate) hack
  | synReceived hstate hack =>
    have hsyn : s.sentSyn = true := by simp [sentSyn, hstate]
    have hfin : s.sentFin = false := by simp [sentFin, hstate]
    simp [hack, hsyn, hfin, SeqNumber.ge, SeqNumber.sub] at h
    cases h
    exact .syn (.inr hstate) hack
  | range n hlisten hsynSent hsynReceived hlt hle hack =>
    have hsyn : s.sentSyn = false := by simp [sentSyn, hsynSent, hsynReceived]
    have hdist : dist (shift s.localSeqNo n) s.localSeqNo = n :=
      SeqNumber.dist_shift_nat (by omega)
    have hge : SeqNumber.ge (shift s.localSeqNo n) s.localSeqNo := by
      unfold SeqNumber.ge
      omega
    rw [hack] at h
    simp only [hsyn, Bool.false_eq_true, if_false, if_pos hge] at h
    rw [SeqNumber.sub_of_nonneg (by omega), hdist] at h
    simp only [Int.toNat_natCast, Checked.ok_bind, Checked.pure_eq_ok] at h
    cases h
    by_cases hfin : s.sentFin = true ∧ s.txBuffer.len + 1 = n
    · obtain ⟨hf, rfl⟩ := hfin
      simp only [hf, true_and, if_true, decide_true]
      exact .fin _ rfl hf (by rw [hack]; push_cast; rfl)
    · simp only [hfin, if_false, decide_false]
      refine .data n hsyn ?_ hack
      unfold controlLen at hle
      rw [hsyn] at hle
      cases hf : s.sentFin with
      | false =>
        rw [hf] at hle
        simpa using hle
      | true =>
        rw [hf] at hle hfin
        simp at hle hfin
        omega

lemma noteAck_eq (s : Socket) (cx : Context) (repr : TcpRepr) (n : ℕ) :
    ∃ rtte cc, (rtte = s.rtte ∨ ∃ now seq, rtte = s.rtte.onAck now seq) ∧
      (cc = s.congestionController ∨ ∃ n, cc = s.congestionController.onAck n) ∧
      s.noteAck cx repr n = { s with rtte := rtte, congestionController := cc } := by
  unfold noteAck
  split_ifs
  · exact ⟨_, _, .inl rfl, .inl rfl, rfl⟩
  · split
    · exact ⟨_, _, .inl rfl, .inl rfl, rfl⟩
    · exact ⟨_, _, .inr ⟨_, _, rfl⟩, .inr ⟨_, rfl⟩, rfl⟩

/-! ### State -/

/-- The transitions of an open connection, by the control flag of a segment and whether it
acknowledges our FIN. -/
inductive StateStep (ackOfFin : Bool) : State → TcpControl → State → Prop where
  | synReceived : StateStep ackOfFin .synReceived .none .established
  | synReceivedFin : StateStep ackOfFin .synReceived .fin .closeWait
  | established : StateStep ackOfFin .established .none .established
  | establishedFin : StateStep ackOfFin .established .fin .closeWait
  | finWait1 (h : ackOfFin = false) : StateStep ackOfFin .finWait1 .none .finWait1
  | finWait1Acked (h : ackOfFin = true) : StateStep ackOfFin .finWait1 .none .finWait2
  | finWait1Fin (h : ackOfFin = false) : StateStep ackOfFin .finWait1 .fin .closing
  | finWait1AckedFin (h : ackOfFin = true) : StateStep ackOfFin .finWait1 .fin .timeWait
  | finWait2 : StateStep ackOfFin .finWait2 .none .finWait2
  | finWait2Fin : StateStep ackOfFin .finWait2 .fin .timeWait
  | closing (h : ackOfFin = false) : StateStep ackOfFin .closing .none .closing
  | closingAcked (h : ackOfFin = true) : StateStep ackOfFin .closing .none .timeWait
  | closeWait : StateStep ackOfFin .closeWait .none .closeWait
  | lastAck (h : ackOfFin = false) : StateStep ackOfFin .lastAck .none .lastAck
  | lastAckAcked (h : ackOfFin = true) : StateStep ackOfFin .lastAck .none .closed

/-- The socket after a transition of an open connection. -/
def moved (s : Socket) (cx : Context) (control : TcpControl) (state : State) : Socket :=
  { s with
    state := state
    tuple := if state = .closed then none else s.tuple
    timer := if state = .timeWait then .setForClose cx.now else s.timer
    remoteSeqNo := if control = .fin then shift s.remoteSeqNo 1 else s.remoteSeqNo
    rxFinReceived := s.rxFinReceived || decide (control = .fin) }

lemma moved_none {st : State} (hc : st ≠ .closed) (ht : st ≠ .timeWait) :
    s.moved cx .none st = s.setState st := by
  simp [moved, setState, hc, ht]

lemma moved_none_self {st : State} (hst : s.state = st) (hc : st ≠ .closed) (ht : st ≠ .timeWait) :
    s.moved cx .none st = s := by
  rw [moved_none hc ht, ← hst]
  rfl

lemma processNone_next {aof : Bool} (h : s.processNone cx aof = .next s' ()) :
    ∃ st, StateStep aof s.state .none st ∧ s' = s.moved cx .none st := by
  unfold processNone at h
  cases hstate : s.state <;> simp only [hstate] at h
  case synReceived =>
    cases h
    exact ⟨_, .synReceived, (moved_none (by decide) (by decide)).symm⟩
  case established =>
    cases h
    exact ⟨_, .established, (moved_none_self hstate (by decide) (by decide)).symm⟩
  case finWait2 =>
    cases h
    exact ⟨_, .finWait2, (moved_none_self hstate (by decide) (by decide)).symm⟩
  case closeWait =>
    cases h
    exact ⟨_, .closeWait, (moved_none_self hstate (by decide) (by decide)).symm⟩
  case finWait1 =>
    split_ifs at h with hf <;> cases h
    · exact ⟨_, .finWait1Acked hf, (moved_none (by decide) (by decide)).symm⟩
    · exact ⟨_, .finWait1 (by simpa using hf),
        (moved_none_self hstate (by decide) (by decide)).symm⟩
  case closing =>
    split_ifs at h with hf <;> cases h
    · exact ⟨_, .closingAcked hf, by simp [moved, enterTimeWait]⟩
    · exact ⟨_, .closing (by simpa using hf), (moved_none_self hstate (by decide) (by decide)).symm⟩
  case lastAck =>
    split_ifs at h with hf <;> cases h
    · exact ⟨_, .lastAckAcked hf, by simp [moved]⟩
    · exact ⟨_, .lastAck (by simpa using hf), (moved_none_self hstate (by decide) (by decide)).symm⟩
  all_goals cases h

lemma processFin_next {aof : Bool} (h : s.processFin cx aof = .next s' ()) :
    ∃ st, StateStep aof s.state .fin st ∧ s' = s.moved cx .fin st := by
  unfold processFin at h
  cases hstate : s.state <;> simp only [hstate] at h
  case synReceived =>
    cases h
    exact ⟨_, .synReceivedFin, by simp [moved, finReceived]⟩
  case established =>
    cases h
    exact ⟨_, .establishedFin, by simp [moved, finReceived]⟩
  case finWait1 =>
    split_ifs at h with hf <;> cases h
    · exact ⟨_, .finWait1AckedFin hf, by simp [moved, finReceived, enterTimeWait]⟩
    · exact ⟨_, .finWait1Fin (by simpa using hf), by simp [moved, finReceived]⟩
  case finWait2 =>
    cases h
    exact ⟨_, .finWait2Fin, by simp [moved, finReceived, enterTimeWait]⟩
  all_goals cases h

/-- The outcomes of `transition` after which `process` goes on. -/
inductive Transits (s : Socket) (cx : Context) (ipRepr : IpRepr) (repr : TcpRepr)
    (control : TcpControl) (ackOfFin : Bool) : Socket → Prop where
  | synListen (hctl : control = .syn) (hstate : s.state = .listen)
      (hmss : repr.maxSegSize ≠ some 0) :
      Transits s cx ipRepr repr control ackOfFin (s.synListen cx ipRepr repr)
  | synSent (hctl : control = .syn) (hstate : s.state = .synSent)
      (hmss : repr.maxSegSize ≠ some 0) :
      Transits s cx ipRepr repr control ackOfFin (s.synSynSent repr)
  | moved (st : State) (hst : StateStep ackOfFin s.state control st) :
      Transits s cx ipRepr repr control ackOfFin (s.moved cx control st)

lemma transition_next {control : TcpControl} {aof : Bool}
    (h : s.transition cx ipRepr repr control aof = .next s' ()) :
    Transits s cx ipRepr repr control aof s' := by
  unfold transition at h
  split at h
  · unfold processRst at h
    split_ifs at h
  · unfold processSyn at h
    split_ifs at h with hmss
    split at h
    · rename_i hstate
      cases h
      exact .synListen rfl hstate hmss
    · rename_i hstate
      cases h
      exact .synSent rfl hstate hmss
    · cases h
  · obtain ⟨st, hst, rfl⟩ := processFin_next h
    exact .moved st hst
  · obtain ⟨st, hst, rfl⟩ := processNone_next h
    exact .moved st hst
  · cases h

lemma transition_ret {control : TcpControl} {aof : Bool} {p : Option Packet}
    (h : s.transition cx ipRepr repr control aof = .ret s' p) :
    s' = s ∨ control = .rst ∧ s.state ≠ .listen ∧ ∃ st, s' = { s with tuple := none, state := st } ∧
      (st = .listen ∧ s.state = .synReceived ∧ s.listenEndpoint.port ≠ 0 ∨ st = .closed) := by
  unfold transition at h
  split at h
  · unfold processRst at h
    split_ifs at h with hlisten hsyn <;> cases h
    · exact .inl rfl
    · exact .inr ⟨rfl, hlisten, _, rfl, .inl ⟨rfl, hsyn⟩⟩
    · exact .inr ⟨rfl, hlisten, _, rfl, .inr rfl⟩
  · left
    unfold processSyn at h
    split_ifs at h
    · cases h
      rfl
    · split at h <;> cases h
      rfl
  · left
    unfold processFin at h
    split at h <;> (try split_ifs at h) <;> cases h
    rfl
  · left
    unfold processNone at h
    split at h <;> (try split_ifs at h) <;> cases h
    rfl
  · cases h
    exact .inl rfl

/-! ### Send side -/

lemma dequeueAcked_eq_ok {n : ℕ} (h : s.dequeueAcked n = .ok s') :
    n ≤ s.txBuffer.len ∧ ∃ tx, s' = { s with txBuffer := tx } ∧
      tx.toList = s.txBuffer.toList.drop n ∧ tx.capacity = s.txBuffer.capacity := by
  unfold dequeueAcked at h
  split_ifs at h with hn
  · simp only [Checked.bind_eq_ok, Checked.pure_eq_ok, Checked.assert_eq_ok] at h
    obtain ⟨_, hle, tx, htx, h⟩ := h
    cases h
    obtain ⟨tx', htx', hlist, hcap⟩ := s.txBuffer.dequeueAllocated_of_le hle
    rw [htx'] at htx
    cases htx
    exact ⟨hle, _, rfl, hlist, hcap⟩
  · cases h
    obtain rfl : n = 0 := by omega
    exact ⟨Nat.zero_le _, _, rfl, by simp, rfl⟩

/-- The last sequence number sent, moved up to an acknowledgement. -/
def catchUp (last ackNumber : SeqNumber) : SeqNumber :=
  if last.lt ackNumber then ackNumber else last

lemma updateAck_eq (s : Socket) (cx : Context) (repr : TcpRepr) (wu : Bool) :
    ∃ dup last cc fast,
      (cc = s.congestionController ∨ ∃ now, cc = s.congestionController.onDuplicateAck now) ∧
      (fast = true → ∃ a, repr.ackNumber = some a ∧ SeqNumber.lt a s.remoteLastSeq) ∧
      s.updateAck cx repr wu = { s with
        localRxDupAcks := dup
        localRxLastAck := last
        congestionController := cc
        timer := if fast = true then .fastRetransmit else s.timer
        localSeqNo := repr.ackNumber.getD s.localSeqNo
        remoteLastSeq := repr.ackNumber.elim s.remoteLastSeq (catchUp s.remoteLastSeq) } := by
  unfold updateAck
  cases hack : repr.ackNumber with
  | none => exact ⟨_, _, _, false, .inl rfl, nofun, rfl⟩
  | some a =>
    simp only [countDuplicateAck]
    by_cases hdup : s.isDuplicateAck repr a wu
    · rw [if_pos hdup]
      generalize (if s.localRxDupAcks = 255 then 255 else s.localRxDupAcks + 1) = dup
      by_cases hfast : dup = 3
      · rw [if_pos hfast]
        exact ⟨_, _, _, true, .inr ⟨_, rfl⟩, fun _ => ⟨a, rfl, hdup.2.2.1⟩, rfl⟩
      · rw [if_neg hfast]
        exact ⟨_, _, _, false, .inr ⟨_, rfl⟩, nofun, rfl⟩
    · rw [if_neg hdup]
      exact ⟨_, _, _, false, .inl rfl, nofun, rfl⟩

/-! ### Receive side -/

lemma delayAck_eq_ok (h : s.delayAck cx = .ok s') : ∃ t, s' = { s with ackDelayTimer := t } := by
  unfold delayAck at h
  split at h
  · cases h
    exact ⟨_, rfl⟩
  · obtain ⟨want, _, h⟩ := Checked.bind_eq_ok.mp h
    split_ifs at h
    · split at h
      · cases h
        exact ⟨_, rfl⟩
      · obtain ⟨imm, _, h⟩ := Checked.bind_eq_ok.mp h
        split_ifs at h <;> cases h <;> exact ⟨_, rfl⟩
      · cases h
        exact ⟨_, rfl⟩
    · cases h
      exact ⟨_, rfl⟩

/-- The payload is put behind the receive buffer at its offset, and what is then contiguous with
the buffer is taken over. -/
structure Stores (s : Socket) (payload : List UInt8) (offset : ℕ) (asm : Assembler)
    (rx : SocketBuffer) (n : ℕ) : Prop where
  add : s.assembler.addThenRemoveFront offset payload.length = .ok (asm, n)
  le_window : n ≤ s.rxBuffer.window
  len : rx.len = s.rxBuffer.len + n
  capacity : rx.capacity = s.rxBuffer.capacity
  view : rx.view = s.rxBuffer.view.overwrite (s.rxBuffer.len + offset) payload

lemma storePayload_eq_ok {payload : List UInt8} {offset : ℕ} {o : Option Socket}
    (hwin : offset + payload.length ≤ s.rxBuffer.window)
    (h : s.storePayload payload offset = .ok o) :
    (o = none ∧ ∃ e, s.assembler.addThenRemoveFront offset payload.length = .error e) ∨
      ∃ asm rx n, o = some { s with assembler := asm, rxBuffer := rx } ∧
      Stores s payload offset asm rx n := by
  unfold storePayload at h
  obtain ⟨rx₁, hrx₁, hlen₁, hcap₁, hview₁⟩ := s.rxBuffer.writeUnallocated_spec hwin
  split at h
  · rename_i e hadd
    cases h
    exact .inl ⟨rfl, e, hadd⟩
  · rename_i asm n hadd
    rw [hrx₁] at h
    simp only [Checked.bind_eq_ok, Checked.pure_eq_ok] at h
    obtain ⟨_, _, rx, hrx, h⟩ := h
    cases h
    refine .inr ⟨asm, rx, n, rfl, ?_⟩
    unfold enqueueContig at hrx
    split_ifs at hrx with hn
    · have hle := rx₁.enqueueUnallocated_eq_ok hrx
      obtain ⟨rx', hrx', hlen, hcap, hview⟩ := rx₁.enqueueUnallocated_of_le hle
      rw [hrx'] at hrx
      cases hrx
      have hw : rx₁.window = s.rxBuffer.window := by
        rw [RingBuffer.window, RingBuffer.window, hlen₁, hcap₁]
      exact ⟨hadd, by omega, by omega, hcap.trans hcap₁, hview.trans hview₁⟩
    · cases hrx
      exact ⟨hadd, by omega, by omega, hcap₁, hview₁⟩

/-- What happens to the payload of an accepted segment. -/
inductive Received (s : Socket) (payload : List UInt8) (offset : ℕ) : Socket → Prop where
  | dropped (hdrop : payload = [] ∨
      ∃ e, s.assembler.addThenRemoveFront offset payload.length = .error e) :
      Received s payload offset s
  | stored (asm : Assembler) (rx : SocketBuffer) (n : ℕ) (t : AckDelayTimer)
      (hpayload : payload ≠ []) (hstore : Stores s payload offset asm rx n) :
      Received s payload offset { s with assembler := asm, rxBuffer := rx, ackDelayTimer := t }
  | acked (asm : Assembler) (rx : SocketBuffer) (n : ℕ) (t : AckDelayTimer)
      (hpayload : payload ≠ []) (hstore : Stores s payload offset asm rx n) :
      Received s payload offset
        { s with assembler := asm, rxBuffer := rx, ackDelayTimer := t }.acknowledged

lemma receivePayload_eq_ok {payload : List UInt8} {offset : ℕ} {p : Option Packet}
    (hwin : offset + payload.length ≤ s.rxBuffer.window)
    (h : s.receivePayload cx ipRepr repr payload offset = .ok (s', p)) :
    Received s payload offset s' := by
  unfold receivePayload at h
  split_ifs at h with hlen
  · cases h
    exact .dropped (.inl (List.length_eq_zero_iff.mp hlen))
  · obtain ⟨o, ho, h⟩ := Checked.bind_eq_ok.mp h
    have hne : payload ≠ [] := fun h => hlen (by rw [h]; rfl)
    rcases storePayload_eq_ok hwin ho with ⟨rfl, hfull⟩ | ⟨asm, rx, n, rfl, hstore⟩
    · cases h
      exact .dropped (.inr hfull)
    · obtain ⟨s₁, hs₁, h⟩ := Checked.bind_eq_ok.mp h
      obtain ⟨t, rfl⟩ := delayAck_eq_ok hs₁
      split_ifs at h
      · obtain ⟨⟨s₂, p₂⟩, hack, h⟩ := Checked.bind_eq_ok.mp h
        cases h
        rw [ackReply_eq_ok hack]
        exact .acked asm rx n t hne hstore
      · cases h
        exact .stored asm rx n t hne hstore

/-! ### The whole -/

/-- What the stages for the send side make of a timer. -/
def finishTimer (now : Instant) (keepAlive : Option Duration) (rto : Duration) (ack : AckInfo)
    (winLen txLen : ℕ) (t : Timer) : Timer :=
  let t :=
    match t with
    | .retransmit _ | .fastRetransmit =>
      if ack.ackAll then .setForIdle now keepAlive
      else if 0 < ack.ackLen then t.setForRetransmit now rto
      else t
    | .idle _ => .setForIdle now keepAlive
    | _ => t
  let t :=
    if winLen = 0 ∧ ¬ txLen = 0 ∧ (t.isIdle ∨ 0 < ack.ackLen) then .setForZeroWindowProbe now rto
    else t
  if winLen ≠ 0 ∧ t.isZeroWindowProbe then .setForIdle now keepAlive else t

/-- The send side after a segment: the window is the new one, acknowledged octets are gone, and the
timer follows. -/
inductive Acked (s : Socket) (cx : Context) (repr : TcpRepr) (ack : AckInfo) : Socket → Prop where
  | intro (tx : SocketBuffer) (cc₁ cc : AnyController) (dup : UInt8) (last : Option SeqNumber)
      (fast : Bool) (tsval : UInt32)
      (hlen : ack.ackLen ≤ s.txBuffer.len) (htx : tx.toList = s.txBuffer.toList.drop ack.ackLen)
      (hcap : tx.capacity = s.txBuffer.capacity)
      (hcc₁ : cc₁ = s.congestionController.setRemoteWindow (s.newRemoteWinLen repr))
      (hcc : cc = cc₁ ∨ ∃ now, cc = cc₁.onDuplicateAck now)
      (hfast : fast = true → ∃ a, repr.ackNumber = some a ∧ SeqNumber.lt a s.remoteLastSeq) :
      Acked s cx repr ack { s with
        remoteLastTs := some cx.now
        remoteWinLen := s.newRemoteWinLen repr
        txBuffer := tx
        congestionController := cc
        localRxDupAcks := dup
        localRxLastAck := last
        localSeqNo := repr.ackNumber.getD s.localSeqNo
        remoteLastSeq := repr.ackNumber.elim s.remoteLastSeq (catchUp s.remoteLastSeq)
        lastRemoteTsval := tsval
        timer := finishTimer cx.now s.keepAlive s.rtte.retransmissionTimeout ack
          (s.newRemoteWinLen repr) tx.len (if fast = true then .fastRetransmit else s.timer) }

lemma finishProcess_eq_ok {ack : AckInfo} {payload : List UInt8} {offset : ℕ} {p : Option Packet}
    (hwin : offset + payload.length ≤ s.rxBuffer.window)
    (h : s.finishProcess cx ipRepr repr ack payload offset = .ok (s', p)) :
    ∃ s₁, Acked s cx repr ack s₁ ∧ Received s₁ payload offset s' := by
  unfold finishProcess at h
  obtain ⟨s₁, hs₁, h⟩ := Checked.bind_eq_ok.mp h
  obtain ⟨hlen, tx, rfl, htx, hcap⟩ := dequeueAcked_eq_ok hs₁
  obtain ⟨dup, last, cc, fast, hcc, hfast, heq⟩ := updateAck_eq
    { s.updateWindow cx (s.newRemoteWinLen repr) with txBuffer := tx } cx repr
    (decide (s.newRemoteWinLen repr ≠ s.remoteWinLen))
  simp only [heq] at h
  refine ⟨_, ?_, receivePayload_eq_ok ?_ h⟩
  · exact .intro tx _ cc dup last fast _ hlen htx hcap rfl hcc hfast
  · exact hwin

/-- The socket after the estimators were informed of a segment. -/
def Noted (s s₁ : Socket) : Prop :=
  ∃ lastSeq rtte cc, (rtte = s.rtte ∨ ∃ now seq, rtte = s.rtte.onAck now seq) ∧
    (cc = s.congestionController ∨ ∃ n, cc = s.congestionController.onAck n) ∧
    s₁ = { s with localRxLastSeq := lastSeq, rtte := rtte, congestionController := cc }

lemma Noted.quiet (h : Noted s s₁) : Quiet s s₁ := by
  obtain ⟨lastSeq, rtte, cc, hrtte, hcc, rfl⟩ := h
  exact ⟨_, lastSeq, rtte, cc, _, _, .inl rfl, hrtte, hcc, rfl, .inl rfl⟩

lemma control_of_effectiveControl {w : Span} (h : effectiveControl repr w = .syn) :
    repr.control = .syn := by
  unfold effectiveControl at h
  cases hctl : repr.control <;> rw [hctl] at h <;> simp only [TcpControl.quashPsh] at h
  case fin => split_ifs at h
  all_goals cases h

/-- An accepted segment: it passes the checks, its payload is cut to the window, the state moves
from `s₁` to `s₂`, the send side to `s₃`, and the payload is received. -/
structure Accepted (s : Socket) (cx : Context) (ipRepr : IpRepr) (repr : TcpRepr) (w : Span)
    (ack : AckInfo) (payload : List UInt8) (offset : ℕ) (s₁ s₂ s₃ s' : Socket) : Prop where
  accepts : s.accepts ipRepr repr
  control_ne : repr.control ≠ .rst
  ackAcceptable : AckAcceptable s repr
  span : s.span repr = .ok w
  trimmed : (s.state = .listen ∨ s.state = .synSent) ∧ payload = [] ∧ offset = 0 ∨
    s.state ≠ .listen ∧ s.state ≠ .synSent ∧
      Trimmed s repr (dist w.segmentStart w.windowStart) payload offset
  ackCount : AckCount s repr ack
  noted : Noted s s₁
  transits : Transits s₁ cx ipRepr repr (effectiveControl repr w) ack.ackOfFin s₂
  acked : Acked s₂ cx repr ack s₃
  received : Received s₃ payload offset s'

namespace Accepted

variable {w : Span} {ack : AckInfo} {payload : List UInt8} {offset : ℕ} {s₂ s₃ : Socket}

/-- The stages before the last leave the receive buffer alone. -/
lemma rx_eq (h : Accepted s cx ipRepr repr w ack payload offset s₁ s₂ s₃ s') :
    s₃.rxBuffer = s.rxBuffer ∧ s₃.assembler = s.assembler ∧ s₃.state = s₂.state := by
  have hn := h.noted
  have ht := h.transits
  have ha := h.acked
  obtain ⟨_, _, _, -, -, rfl⟩ := hn
  cases ha
  cases ht <;> exact ⟨rfl, rfl, rfl⟩

lemma offset_add_length_le (h : Accepted s cx ipRepr repr w ack payload offset s₁ s₂ s₃ s') :
    offset + payload.length ≤ s₃.rxBuffer.window := by
  rw [h.rx_eq.1]
  rcases h.trimmed with ⟨-, rfl, rfl⟩ | ⟨-, -, htr⟩
  · exact Nat.zero_le _
  · exact htr.offset_add_length_le

lemma state_eq (h : Accepted s cx ipRepr repr w ack payload offset s₁ s₂ s₃ s') :
    s₁.state = s.state := by
  obtain ⟨_, _, _, -, -, rfl⟩ := h.noted
  rfl

/-- The window is the one that the segment advertises. The options of a SYN say nothing of its own
window. -/
lemma remoteWinLen_eq (h : Accepted s cx ipRepr repr w ack payload offset s₁ s₂ s₃ s') :
    s'.remoteWinLen = s.newRemoteWinLen repr := by
  have hlast : s'.remoteWinLen = s₂.newRemoteWinLen repr := by
    have hacked := h.acked
    cases hacked
    cases h.received <;> rfl
  have ht := h.transits
  obtain ⟨_, _, _, -, -, rfl⟩ := h.noted
  rw [hlast]
  unfold newRemoteWinLen
  cases ht with
  | synListen hctl =>
    rw [if_pos (control_of_effectiveControl hctl), if_pos (control_of_effectiveControl hctl)]
  | synSent hctl =>
    rw [if_pos (control_of_effectiveControl hctl), if_pos (control_of_effectiveControl hctl)]
  | moved => rfl

end Accepted

/-- Everything that `process` can do. -/
inductive ProcessRule (s : Socket) (cx : Context) (ipRepr : IpRepr) (repr : TcpRepr) :
    Socket → Prop where
  | quiet {s' : Socket} (h : Quiet s s') : ProcessRule s cx ipRepr repr s'
  | reset {s₁ : Socket} (st : State) (hctl : repr.control = .rst) (hlisten : s.state ≠ .listen)
      (hquiet : Quiet s s₁)
      (hst : st = .listen ∧ s.state = .synReceived ∧ s.listenEndpoint.port ≠ 0 ∨ st = .closed) :
      ProcessRule s cx ipRepr repr { s₁ with tuple := none, state := st }
  | accepted {w : Span} {ack : AckInfo} {payload : List UInt8} {offset : ℕ} {s₁ s₂ s₃ s' : Socket}
      (h : Accepted s cx ipRepr repr w ack payload offset s₁ s₂ s₃ s') :
      ProcessRule s cx ipRepr repr s'

lemma effectiveControl_eq_rst {w : Span} : effectiveControl repr w = .rst ↔
    repr.control = .rst := by
  unfold effectiveControl
  cases repr.control
  case fin =>
    simp only [TcpControl.quashPsh]
    split_ifs <;> simp
  all_goals simp [TcpControl.quashPsh]

lemma StateStep.control {aof : Bool} {st st' : State} {control : TcpControl}
    (h : StateStep aof st control st') : control = .none ∨ control = .fin := by
  cases h <;> simp

lemma Transits.rxBuffer_eq {control : TcpControl} {aof : Bool}
    (h : Transits s cx ipRepr repr control aof s') : s'.rxBuffer = s.rxBuffer := by
  cases h <;> rfl

lemma Transits.control_ne {control : TcpControl} {aof : Bool}
    (h : Transits s cx ipRepr repr control aof s') : control ≠ .rst := by
  rintro rfl
  cases h with
  | synListen hctl => cases hctl
  | synSent hctl => cases hctl
  | moved st hst => rcases hst.control with h | h <;> cases h

/-! ### The stages -/

/-- A segment that `process` acts on: it passed the checks of its acknowledgement number and of its
place, and `st` is what trimming left. -/
structure Reaches (s : Socket) (cx : Context) (ipRepr : IpRepr) (repr : TcpRepr) (w : Span)
    (st : Socket) (payload : List UInt8) (offset : ℕ) (ack : AckInfo) : Prop where
  accepts : s.accepts ipRepr repr
  checked : repr.control = .rst ∨ repr.control ≠ .rst ∧ AckAcceptable s repr
  span : s.span repr = .ok w
  trims : s.trimPayload cx ipRepr repr w = .ok (.next st (payload, offset))
  ackInfo : st.ackInfo repr = .ok ack

/-- Where `process` returns: in one of the two checks, at the state, or behind the last stage. -/
inductive Stages (s : Socket) (cx : Context) (ipRepr : IpRepr) (repr : TcpRepr) (s' : Socket)
    (p : Option Packet) : Prop where
  | checked (h : s.checkAck cx ipRepr repr = .ok (.ret s' p))
  | trimmed (w : Span) (hw : s.span repr = .ok w)
      (h : s.trimPayload cx ipRepr repr w = .ok (.ret s' p))
  | stopped {w : Span} {st : Socket} {payload : List UInt8} {offset : ℕ} {ack : AckInfo}
      (h : Reaches s cx ipRepr repr w st payload offset ack)
      (ht : (st.noteAck cx repr ack.ackLen).transition cx ipRepr repr (effectiveControl repr w)
        ack.ackOfFin = .ret s' p)
  | finished {w : Span} {st : Socket} {payload : List UInt8} {offset : ℕ} {ack : AckInfo}
      (s₂ : Socket) (h : Reaches s cx ipRepr repr w st payload offset ack)
      (ht : (st.noteAck cx repr ack.ackLen).transition cx ipRepr repr (effectiveControl repr w)
        ack.ackOfFin = .next s₂ ())
      (hfin : s₂.finishProcess cx ipRepr repr ack payload offset = .ok (s', p))

theorem Stages.of_process {p : Option Packet} (h : s.process cx ipRepr repr = .ok (s', p)) :
    Stages s cx ipRepr repr s' p := by
  unfold process at h
  obtain ⟨_, haccepts, h⟩ := Checked.bind_eq_ok.mp h
  rw [Checked.assert_eq_ok] at haccepts
  obtain ⟨f, hcheck, h⟩ := Checked.bind_eq_ok.mp h
  cases f with
  | ret sr r =>
    cases h
    exact .checked hcheck
  | next sn u =>
    obtain ⟨hsn, hack⟩ := checkAck_next hcheck
    subst sn
    obtain ⟨w, hw, h⟩ := Checked.bind_eq_ok.mp h
    obtain ⟨f, htrim, h⟩ := Checked.bind_eq_ok.mp h
    cases f with
    | ret sr r =>
      cases h
      exact .trimmed w hw htrim
    | next st pl =>
      obtain ⟨payload, offset⟩ := pl
      obtain ⟨ack, hinfo, h⟩ := Checked.bind_eq_ok.mp h
      have hreaches : Reaches s cx ipRepr repr w st payload offset ack :=
        ⟨haccepts, hack, hw, htrim, hinfo⟩
      cases htr : (st.noteAck cx repr ack.ackLen).transition cx ipRepr repr
          (effectiveControl repr w) ack.ackOfFin with
      | ret sr r =>
        simp only [htr] at h
        cases h
        exact .stopped hreaches htr
      | next s₂ u =>
        simp only [htr] at h
        exact .finished s₂ hreaches htr h

namespace Reaches

variable {w : Span} {st s₂ : Socket} {payload : List UInt8} {offset : ℕ} {ack : AckInfo}

/-- Trimming only sets the number of the last segment. -/
lemma exists_eq (h : Reaches s cx ipRepr repr w st payload offset ack) :
    ∃ lastSeq, st = { s with localRxLastSeq := lastSeq } := by
  rcases trimPayload_next h.span h.trims with ⟨-, rfl, -⟩ | ⟨-, -, rfl, -⟩
  · exact ⟨_, rfl⟩
  · exact ⟨_, rfl⟩

lemma noted (h : Reaches s cx ipRepr repr w st payload offset ack) :
    Noted s (st.noteAck cx repr ack.ackLen) := by
  obtain ⟨lastSeq, rfl⟩ := h.exists_eq
  obtain ⟨rtte, cc, hrtte, hcc, heq⟩ :=
    noteAck_eq { s with localRxLastSeq := lastSeq } cx repr ack.ackLen
  exact ⟨lastSeq, rtte, cc, hrtte, hcc, heq⟩

lemma trimmed (h : Reaches s cx ipRepr repr w st payload offset ack) :
    (s.state = .listen ∨ s.state = .synSent) ∧ payload = [] ∧ offset = 0 ∨
      s.state ≠ .listen ∧ s.state ≠ .synSent ∧
        Trimmed s repr (dist w.segmentStart w.windowStart) payload offset := by
  rcases trimPayload_next h.span h.trims with ⟨hs, -, hp⟩ | ⟨hl, hs, -, htr⟩
  · exact .inl ⟨hs, hp⟩
  · exact .inr ⟨hl, hs, htr⟩

end Reaches

theorem ProcessRule.of_process {p : Option Packet}
    (h : s.process cx ipRepr repr = .ok (s', p)) : ProcessRule s cx ipRepr repr s' := by
  cases Stages.of_process h with
  | checked hcheck => exact .quiet (checkAck_ret hcheck)
  | trimmed w hw htrim => exact .quiet (trimPayload_ret htrim)
  | stopped hreaches htr =>
    have hnoted := hreaches.noted
    rcases transition_ret htr with rfl | ⟨hrst, hlisten, st', rfl, hst⟩
    · exact .quiet hnoted.quiet
    · obtain ⟨lastSeq, rtte, cc, -, -, heq⟩ := id hnoted
      rw [heq] at hlisten hst
      exact .reset st' (effectiveControl_eq_rst.mp hrst) hlisten hnoted.quiet hst
  | finished s₂ hreaches htr hfin =>
    have htransits := transition_next htr
    have hctl : repr.control ≠ .rst :=
      fun hc => htransits.control_ne (effectiveControl_eq_rst.mpr hc)
    have hacc : AckAcceptable s repr := (hreaches.checked.resolve_left hctl).2
    obtain ⟨lastSeq, rfl⟩ := hreaches.exists_eq
    have hrx := htransits.rxBuffer_eq
    obtain ⟨_, _, _, -, -, heq⟩ := hreaches.noted
    rw [heq] at hrx
    obtain ⟨s₃, hs₃, hrecv⟩ := finishProcess_eq_ok (by
      rw [hrx]
      rcases hreaches.trimmed with ⟨-, rfl, rfl⟩ | ⟨-, -, htr⟩
      · exact Nat.zero_le _
      · exact htr.offset_add_length_le) hfin
    exact .accepted ⟨hreaches.accepts, hctl, hacc, hreaches.span, hreaches.trimmed,
      ackInfo_eq_ok hctl hacc hreaches.ackInfo, hreaches.noted, htransits, hs₃, hrecv⟩

end Smoltcp.Tcp.Socket
