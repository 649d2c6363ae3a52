import Smoltcp.Socket.Tcp.Sizes

/-!
# When data is sent

The decision to send and the size of the segment are taken apart. Any reason to send takes along
the data that the remote's window and the MTU allow, and the congestion window is compared with
what remains to be sent and not with what is in flight.
-/

namespace Smoltcp.Tcp

open Serial

/-- The segment carries octets of the stream. A probe does not count, and the octet of a keep-alive
is a dummy. -/
def Emission.IsData (e : Emission) : Prop :=
  e.isZeroWindowProbe = false ∧ e.isKeepAlive = false ∧ e.repr.payload ≠ []

instance (e : Emission) : Decidable e.IsData := inferInstanceAs (Decidable (_ ∧ _ ∧ _))

namespace Socket

variable {s s' : Socket} {cx : Context} {e : Emission} {o : Option Emission} {r : TcpRepr}

/-! ### The size of the next data segment -/

/-- What the MTU leaves behind the headers without options. -/
def segmentRoom (s : Socket) (cx : Context) : ℕ :=
  match s.tuple with
  | some tuple => cx.ipMtu - IpRepr.headerLenOf tuple.localEnd.addr - tcpHeaderLen
  | none => 0

/-- `effective_mss` of `seq_to_transmit`. -/
def effectiveMss (s : Socket) (cx : Context) : ℕ := min (s.segmentRoom cx) s.remoteMss

/-- The length of the payload in the states that transmit data. -/
def nextLen (s : Socket) (cx : Context) : ℕ := min (s.offered cx) (s.segmentRoom cx)

lemma localMss_eq_segmentRoom {tuple : Tuple} {mss : ℕ} (htuple : s.tuple = some tuple)
    (h : localMss cx (IpRepr.headerLenOf tuple.localEnd.addr) = .ok mss) :
    mss = s.segmentRoom cx := by
  unfold localMss at h
  obtain ⟨rest, hrest, h⟩ := Checked.bind_eq_ok.mp h
  obtain ⟨-, rfl⟩ := Checked.sub_eq_ok.mp hrest
  obtain ⟨-, rfl⟩ := Checked.sub_eq_ok.mp h
  simp only [segmentRoom, htuple]

lemma Builds.length_eq_nextLen {zwp : Bool} (hb : Builds s cx r zwp) (h : s.Flight)
    (hst : s.state.TransmitsData) :
    zwp = decide (s.Probes cx) ∧ r.payload.length = s.nextLen cx ∧
      r.seqNumber = s.remoteLastSeq := by
  obtain ⟨hzwp, tuple, mss, htuple, hmss, hlen, -⟩ := hb.length_payload h hst
  rw [localMss_eq_segmentRoom htuple hmss] at hlen
  refine ⟨hzwp, hlen, ?_⟩
  cases hb with
  | data _ _ _ _ _ _ _ _ _ _ hseq => exact hseq
  | rst hstate => simp [State.TransmitsData, hstate] at hst
  | syn hstate => rcases hstate with hs | hs <;> simp [State.TransmitsData, hs] at hst
  | ack hstate => rcases hstate with hs | hs <;> simp [State.TransmitsData, hs] at hst

/-- A data segment is emitted in the states that transmit data, if some octet is offered. -/
lemma Emits.isData_iff (h : Emits s cx e) (hflight : s.Flight) :
    e.IsData ↔ s.state.TransmitsData ∧ ¬ s.Probes cx ∧ 0 < s.nextLen cx := by
  cases h with
  | segment r hbuilds hkeep hempty hsent hrepr =>
    obtain ⟨mss, hr⟩ := hrepr
    have hpay : e.repr.payload = r.payload := by rw [hr]
    unfold Emission.IsData
    by_cases hst : s.state.TransmitsData
    · obtain ⟨hzwp, hlen, -⟩ := hbuilds.length_eq_nextLen hflight hst
      rw [hpay, hkeep, hzwp, ← hlen, ← List.length_pos_iff]
      simp [hst]
    · rw [hpay, hbuilds.payload_eq_nil hst]
      simp [hst]
  | keepAlive r hbuilds hkeep halive hempty hsent hrepr =>
    unfold Emission.IsData
    rw [hkeep]
    simp only [Bool.true_eq_false, false_and, and_false, false_iff, not_and]
    intro hst _
    obtain ⟨-, hlen, -⟩ := hbuilds.length_eq_nextLen hflight hst
    rw [← hlen, hempty.1]
    simp

lemma Emits.data_eq (h : Emits s cx e) (hflight : s.Flight) (hdata : e.IsData) :
    e.repr.payload.length = s.nextLen cx ∧ e.repr.seqNumber = s.remoteLastSeq := by
  have hst := ((h.isData_iff hflight).mp hdata).1
  cases h with
  | segment r hbuilds hkeep hempty hsent hrepr =>
    obtain ⟨mss, hr⟩ := hrepr
    obtain ⟨-, hlen, hseq⟩ := hbuilds.length_eq_nextLen hflight hst
    rw [hr]
    exact ⟨hlen, hseq⟩
  | keepAlive r hbuilds hkeep =>
    unfold Emission.IsData at hdata
    rw [hkeep] at hdata
    simp at hdata

/-! ### The reasons to send -/

/-- The reasons to send of an open connection. -/
def HasReason (s : Socket) (cx : Context) : Prop :=
  s.seqToTransmit cx = .ok true ∨
    s.ackToTransmit = .ok true ∧ s.delayedAckExpired cx.now ∨
    s.windowToUpdate = .ok true ∨
    s.timer.shouldKeepAlive cx.now ∨ s.timer.shouldZeroWindowProbe cx.now

lemma decision_send_iff {d : Decision} (h : s.decision cx = .ok d) (hst : s.state ≠ .closed) :
    d = .send ↔ s.HasReason cx := by
  unfold HasReason
  rcases decision_eq_ok h with ⟨hseq, rfl⟩ | ⟨hseq, ack, hack, ⟨hexp, rfl⟩ | ⟨hexp, hwin⟩⟩
  · simp [hseq]
  · obtain ⟨rfl, hexp⟩ := hexp
    simp [hack, hexp]
  · rcases hwin with ⟨hwin, rfl⟩ | ⟨hwin, rfl⟩
    · simp [hwin]
    · have hack' : ¬ (s.ackToTransmit = .ok true ∧ s.delayedAckExpired cx.now) := by
        rw [hack]
        simpa using hexp
      simp only [hseq, hwin, hack', Except.ok.injEq, Bool.false_eq_true, false_or]
      unfold timerDecision
      split_ifs with hsend hclose <;> simp_all

/-- A segment with data is the next one. -/
structure SendsData (s : Socket) (cx : Context) : Prop where
  state : s.state.TransmitsData
  reason : s.HasReason cx
  not_probes : ¬ s.Probes cx
  pos : 0 < s.nextLen cx

lemma segment_eq_none (h : s.segment cx = .ok none) : s.state = .listen := by
  unfold segment at h
  obtain ⟨tuple, -, h⟩ := Checked.bind_eq_ok.mp h
  obtain ⟨ipRepr, -, h⟩ := Checked.bind_eq_ok.mp h
  obtain ⟨ackNumber, -, h⟩ := Checked.bind_eq_ok.mp h
  obtain ⟨o, ho, h⟩ := Checked.bind_eq_ok.mp h
  cases o with
  | none =>
    unfold stateSegment at ho
    cases hst : s.state <;> simp only [hst] at ho
    case listen => rfl
    case closed | synSent | synReceived | finWait2 | timeWait => cases ho
    all_goals
      obtain ⟨q, -, ho⟩ := Checked.bind_eq_ok.mp ho
      cases ho
  | some q =>
    obtain ⟨r, zwp⟩ := q
    obtain ⟨mss, -, h⟩ := Checked.bind_eq_ok.mp h
    cases h

/-- The timers of `dispatch` change the state only to CLOSED. -/
lemma due_cases (s : Socket) (cx : Context) :
    s.due cx = (s.touch cx).setState .closed ∨ s.due cx = (s.touch cx).rewind cx ∨
      s.due cx = s.touch cx := by
  unfold due
  by_cases hto : (s.touch cx).timedOut cx.now
  · exact .inl (if_pos hto)
  · right
    simp only [if_neg hto]
    split
    · by_cases hre : (s.touch cx).timer.shouldRetransmit cx.now
      · exact .inl (if_pos hre)
      · exact .inr (if_neg hre)
    · exact .inr rfl

lemma due_state (s : Socket) (cx : Context) :
    (s.due cx).state = .closed ∨ (s.due cx).state = s.state := by
  rcases s.due_cases cx with h | h | h <;> rw [h]
  · exact .inl rfl
  · exact .inr rfl
  · exact .inr rfl

lemma due_localSeqNo (s : Socket) (cx : Context) : (s.due cx).localSeqNo = s.localSeqNo := by
  rcases s.due_cases cx with h | h | h <;> rw [h] <;> rfl

lemma not_idle_of_sends {d : Decision} (h : s.SendsData cx) (hd : s.decision cx = .ok d) :
    d = .send := by
  have hst := h.state
  exact (decision_send_iff hd (by rintro hs; simp [State.TransmitsData, hs] at hst)).mpr h.reason

lemma Emits.sends_iff (h : Emits s cx e) (hflight : s.Flight) (hsend : s.decision cx = .ok .send) :
    e.IsData ↔ s.SendsData cx := by
  rw [h.isData_iff hflight]
  constructor
  · rintro ⟨hst, hprobes, hpos⟩
    have hne : s.state ≠ .closed := by
      rintro hs
      simp [State.TransmitsData, hs] at hst
    exact ⟨hst, (decision_send_iff hsend hne).mp rfl, hprobes, hpos⟩
  · rintro ⟨hst, -, hprobes, hpos⟩
    exact ⟨hst, hprobes, hpos⟩

/-- A data segment is emitted exactly where it is the next one. -/
lemma DispatchRule.isData_iff (h : DispatchRule s cx s' o) (hbase : s.Base) (hflight : s.Flight) :
    (∃ e ∈ o, e.IsData) ↔ (s.due cx).SendsData cx := by
  cases h with
  | noTuple htuple =>
    refine ⟨by simp, fun hsends => ?_⟩
    have hst := hsends.state
    rcases s.due_state cx with hs | hs
    · simp [State.TransmitsData, hs] at hst
    · rw [hs] at hst
      exfalso
      refine hbase.connected ?_ ?_ htuple <;> rintro hs' <;> simp [State.TransmitsData, hs'] at hst
  | idle htuple htimed hwhy =>
    obtain rfl := htimed.eq_due
    refine ⟨by simp, fun hsends => ?_⟩
    have hst := hsends.state
    rcases hwhy with ⟨hs, -⟩ | hd | ⟨-, hnone⟩
    · simp [State.TransmitsData, hs] at hst
    · cases not_idle_of_sends hsends hd
    · simp [State.TransmitsData, segment_eq_none hnone] at hst
  | reset htuple htimed hclose =>
    obtain rfl := htimed.eq_due
    refine ⟨by simp, fun hsends => ?_⟩
    cases not_idle_of_sends hsends hclose
  | failed htuple htimed hsend hemits =>
    obtain rfl := htimed.eq_due
    simpa using hemits.sends_iff (hflight.timed htimed) hsend
  | @sent _ _ e htuple htimed hsend hemits hsends =>
    obtain rfl := htimed.eq_due
    have hiff : e.IsData ↔ (s.due cx).SendsData cx := hemits.sends_iff (hflight.timed htimed) hsend
    constructor
    · rintro ⟨_, he, hdata⟩
      cases he
      exact hiff.mp hdata
    · exact fun hs => ⟨_, rfl, hiff.mpr hs⟩

lemma DispatchRule.data_eq (h : DispatchRule s cx s' o) (hflight : s.Flight) (he : e ∈ o)
    (hdata : e.IsData) : e.repr.payload.length = (s.due cx).nextLen cx ∧
      e.repr.seqNumber = (s.due cx).remoteLastSeq := by
  cases h with
  | noTuple => cases he
  | idle => cases he
  | reset => cases he
  | failed htuple htimed hsend hemits =>
    cases he
    obtain rfl := htimed.eq_due
    exact hemits.data_eq (hflight.timed htimed) hdata
  | sent htuple htimed hsend hemits hsends =>
    cases he
    obtain rfl := htimed.eq_due
    exact hemits.data_eq (e := _) (hflight.timed htimed) hdata

end Socket

/-! ### Octets that were never sent -/

namespace Sys

variable {y : Sys} {cx : Context} {emit : IpRepr → TcpRepr → Bool} {s' : Socket}
  {o : Option Emission}

/-- The segment carries an octet of the stream behind all that were sent before. -/
def CarriesNew (y : Sys) (e : Emission) : Prop :=
  e.IsData ∧ y.conn.highest <
    y.conn.acked + dist e.repr.seqNumber y.socket.localSeqNo + e.repr.payload.length

instance (y : Sys) (e : Emission) : Decidable (y.CarriesNew e) :=
  inferInstanceAs (Decidable (_ ∧ _))

/-- The next data segment reaches behind all that was sent before. -/
def OffersNew (y : Sys) (cx : Context) : Prop :=
  (y.socket.due cx).SendsData cx ∧ y.conn.highest <
    y.conn.acked + (y.socket.due cx).inFlight + (y.socket.due cx).nextLen cx

/-- The congestion window is filled, and octets that were never sent go out none the less. -/
def Overruns (y : Sys) (cx : Context) : Prop :=
  y.OffersNew cx ∧
    ((y.socket.due cx).congestionController.window : ℤ) ≤ (y.socket.due cx).inFlight

lemma carriesNew_iff (h : y.Reachable) (hd : y.socket.dispatch cx emit = .ok (s', o)) :
    (∃ e ∈ o, y.CarriesNew e) ↔ y.OffersNew cx := by
  have hrule := Socket.DispatchRule.of_dispatch hd
  have hiff := hrule.isData_iff h.base h.flight
  have hpos : ∀ e ∈ o, e.IsData →
      y.conn.acked + dist e.repr.seqNumber y.socket.localSeqNo + e.repr.payload.length =
        y.conn.acked + (y.socket.due cx).inFlight + (y.socket.due cx).nextLen cx := by
    intro e he hdata
    obtain ⟨hlen, hseq⟩ := hrule.data_eq h.flight he hdata
    rw [hlen, hseq, ← y.socket.due_localSeqNo cx]
    rfl
  constructor
  · rintro ⟨e, he, hdata, hlt⟩
    rw [hpos e he hdata] at hlt
    exact ⟨hiff.mp ⟨e, he, hdata⟩, hlt⟩
  · rintro ⟨hsends, hlt⟩
    obtain ⟨e, he, hdata⟩ := hiff.mpr hsends
    refine ⟨e, he, hdata, ?_⟩
    rw [hpos e he hdata]
    exact hlt

/-- Octets that were never sent stay inside the congestion window exactly where it is not
overrun. -/
theorem window_respected_iff (h : y.Reachable)
    (hd : y.socket.dispatch cx emit = .ok (s', o)) :
    (∀ e ∈ o, y.CarriesNew e →
      (y.socket.due cx).inFlight < (y.socket.due cx).congestionController.window) ↔
      ¬ y.Overruns cx := by
  have hiff := carriesNew_iff h hd
  unfold Overruns
  rw [← hiff]
  push Not
  constructor
  · rintro hall ⟨e, he, hnew⟩
    exact hall e he hnew
  · intro hnot e he hnew
    exact hnot ⟨e, he, hnew⟩

/-- A connection with Reno, whose application enqueued `n` octets. -/
def renoRun (n : ℕ) : List Op :=
  [.set (.congestionControl .reno), .listen ⟨none, 80⟩,
    Sample.process 0 { Sample.segment .syn 99 none 4096 [] with maxSegSize := some 1024 },
    Sample.dispatch 0, Sample.process 0 (Sample.segment .none 100 (some 10001) 4096 []),
    .sendSlice (List.replicate n 0)]

/-- The first octets are sent with nothing in flight. -/
theorem window_respected_first : ∃ (y : Sys) (s' : Socket) (e : Emission), y.Reachable ∧
    y.socket.dispatch (Sample.context 0) (fun _ _ => true) = .ok (s', some e) ∧
    y.CarriesNew e ∧ e.repr.payload = [0, 0, 0] ∧
    (y.socket.due (Sample.context 0)).inFlight <
      (y.socket.due (Sample.context 0)).congestionController.window := by
  obtain ⟨y, hreach, hP⟩ := exists_sample (fun _ _ => True) (fun _ _ => true) 8 (renoRun 3)
    (fun y => (Sample.emitted 0 y.socket).any fun e => y.CarriesNew e ∧
      e.repr.payload = [0, 0, 0] ∧ (y.socket.due (Sample.context 0)).inFlight = 0 ∧
      (y.socket.due (Sample.context 0)).congestionController.window = 2048)
    (fun _ _ _ => trivial) (by decide)
  obtain ⟨e, he, hP⟩ := (Option.any_eq_true _ _).mp hP
  obtain ⟨hnew, hpay, hflight, hwindow⟩ := of_decide_eq_true hP
  obtain ⟨s', hs'⟩ := Sample.dispatch_of_emitted he
  have hover : ¬ y.Overruns (Sample.context 0) := by
    rintro ⟨-, hle⟩
    rw [hflight, hwindow] at hle
    norm_num at hle
  exact ⟨y, s', e, hreach, hs', hnew, hpay, (window_respected_iff hreach hs').mpr hover e rfl hnew⟩

/-- A third segment is sent while two of them fill the congestion window. -/
theorem window_overrun : ∃ (y : Sys) (s' : Socket) (e : Emission), y.Reachable ∧
    y.socket.congestionController = .reno { minCwnd := 1024 } ∧
    y.socket.congestionController.window = 2048 ∧
    y.socket.remoteLastSeq.sub y.socket.localSeqNo = .ok 2048 ∧
    y.socket.dispatch (Sample.context 0) (fun _ _ => true) = .ok (s', some e) ∧
    y.CarriesNew e ∧ e.repr.seqNumber = y.socket.remoteLastSeq ∧ e.repr.payload.length = 1024 := by
  obtain ⟨y, hreach, hP⟩ := exists_sample (fun _ _ => True) (fun _ _ => true) 3072
    (renoRun 3072 ++ [Sample.dispatch 0, Sample.dispatch 0])
    (fun y => y.socket.congestionController = .reno { minCwnd := 1024 } ∧
      (y.socket.remoteLastSeq.sub y.socket.localSeqNo).toOption = some 2048 ∧
      (Sample.emitted 0 y.socket).any fun e => y.CarriesNew e ∧
        e.repr.seqNumber = y.socket.remoteLastSeq ∧ e.repr.payload.length = 1024)
    (fun _ _ _ => trivial) (by decide +kernel)
  obtain ⟨hreno, hsub, hany⟩ := of_decide_eq_true hP
  obtain ⟨e, he, hP⟩ := (Option.any_eq_true _ _).mp hany
  obtain ⟨hnew, hseq, hlen⟩ := of_decide_eq_true hP
  obtain ⟨s', hs'⟩ := Sample.dispatch_of_emitted he
  refine ⟨y, s', e, hreach, hreno, by rw [hreno]; rfl, ?_, hs', hnew, hseq, hlen⟩
  cases hr : y.socket.remoteLastSeq.sub y.socket.localSeqNo with
  | error p =>
    rw [hr] at hsub
    cases hsub
  | ok n =>
    rw [hr] at hsub
    cases hsub
    rfl

end Sys

end Smoltcp.Tcp
