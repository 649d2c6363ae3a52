import Smoltcp.Socket.Tcp.Pacing

/-!
# Nagle's rule

While data is in flight, only full segments are sent. The decision to send keeps to the rule, but
the data that a segment takes along for another reason does not, and neither does a segment that is
cut at the end of the ring. `Ledger` keeps, beside a run, the segments in flight that are not full.
-/

namespace Smoltcp.Tcp

open Serial

/-- The transmit half is open, or no connection is yet. -/
def State.Unclosed (st : State) : Prop :=
  st.Opening ∨ st = .established ∨ st = .closeWait

namespace Socket

variable {s s' : Socket} {cx : Context} {e : Emission} {o : Option Emission} {ipRepr : IpRepr}
  {repr : TcpRepr}

/-- Nagle's rule applies: the algorithm is enabled, the transmit half is open, and data is in
flight. -/
def Restrains (s : Socket) : Prop := s.nagle ∧ s.maySend ∧ s.dataInFlight

instance : Decidable s.Restrains := inferInstanceAs (Decidable (_ ∧ _ ∧ _))

/-- The remote's window and the contiguous part of the ring make a full segment. -/
def OffersFull (s : Socket) (cx : Context) : Prop := s.effectiveMss cx ≤ s.offered cx

instance : Decidable (s.OffersFull cx) := inferInstanceAs (Decidable (_ ≤ _))

lemma effectiveMss_le_nextLen : s.effectiveMss cx ≤ s.nextLen cx ↔ s.OffersFull cx := by
  unfold effectiveMss nextLen OffersFull effectiveMss
  omega

lemma maySend_unclosed (h : s.maySend) : s.state.Unclosed := .inr h

/-! ### The transmit half is not opened again -/

lemma StateStep.unclosed {aof : Bool} {control : TcpControl} {st st' : State}
    (h : StateStep aof st control st') (hst : st'.Unclosed) : st.Unclosed := by
  unfold State.Unclosed State.Opening at hst ⊢
  cases h <;> simp_all

lemma ProcessRule.unclosed (h : ProcessRule s cx ipRepr repr s') (hst : s'.state.Unclosed) :
    s.state.Unclosed := by
  cases h with
  | quiet hq => rwa [hq.state_eq] at hst
  | reset st hctl hlisten hquiet hst' =>
    rcases hst' with ⟨-, hs, -⟩ | rfl
    · exact .inl (.inr (.inr hs))
    · simp [State.Unclosed, State.Opening] at hst
  | accepted ha =>
    have ht := ha.transits
    rw [ha.received.state_eq.1, ha.rx_eq.2.2] at hst
    rw [← ha.state_eq]
    cases ht with
    | synListen hctl hstate hmss => exact .inl (.inl hstate)
    | synSent hctl hstate hmss => exact .inl (.inr (.inl hstate))
    | moved st hstep => exact hstep.unclosed hst

/-- Unless nothing is in flight behind it, a step does not open the transmit half again. -/
lemma unclosed_of_step {y y' : Sys} {op : Op} (hs : StepRule y op y')
    (hst : y'.socket.state.Unclosed) : y.socket.state.Unclosed ∨ y'.socket.inFlight = 0 := by
  cases hs with
  | same => exact .inl hst
  | listen => exact .inr (dist_self _)
  | connect => exact .inr (dist_self _)
  | close =>
    obtain ⟨st, heq, hcases⟩ := y.socket.close_eq
    rw [heq] at hst
    left
    rcases hcases with ⟨-, rfl⟩ | ⟨-, rfl⟩ | ⟨-, rfl⟩ | ⟨-, rfl⟩
    · simp [State.Unclosed, State.Opening, setState] at hst
    · simp [State.Unclosed, State.Opening, setState] at hst
    · simp [State.Unclosed, State.Opening, setState] at hst
    · exact hst
  | abort => simp [State.Unclosed, State.Opening, abort, setState] at hst
  | set x s' hs =>
    obtain ⟨_, _, _, _, _, _, _, _, _, -, -, rfl⟩ := set_eq_ok hs
    exact .inl hst
  | send op s' data hs =>
    obtain ⟨-, tx, ts, -, -, -, rfl⟩ := hs
    exact .inl hst
  | recv op s' n hs =>
    obtain ⟨-, rx, -, -, rfl⟩ := hs
    exact .inl hst
  | process cx ipRepr repr s' hs => exact .inl (hs.unclosed hst)
  | dispatch cx emit s' e hs =>
    left
    rcases hs.state_eq with heq | heq
    · rwa [heq] at hst
    · simp [State.Unclosed, State.Opening, heq] at hst

lemma Received.nagle_eq {payload : List UInt8} {offset : ℕ} (h : Received s payload offset s') :
    s'.nagle = s.nagle := by
  cases h <;> rfl

lemma Transits.nagle_eq {control : TcpControl} {aof : Bool}
    (h : Transits s cx ipRepr repr control aof s') : s'.nagle = s.nagle := by
  cases h <;> rfl

lemma ProcessRule.nagle_eq (h : ProcessRule s cx ipRepr repr s') : s'.nagle = s.nagle := by
  cases h with
  | quiet hq => obtain ⟨_, _, _, _, _, s₁, -, -, -, rfl, rfl | rfl⟩ := hq <;> rfl
  | reset st hctl hlisten hq =>
    obtain ⟨_, _, _, _, _, s₁, -, -, -, rfl, rfl | rfl⟩ := hq <;> rfl
  | accepted ha =>
    have ht := ha.transits.nagle_eq
    have hacked := ha.acked
    rw [ha.received.nagle_eq]
    obtain ⟨_, _, _, -, -, rfl⟩ := ha.noted
    cases hacked
    exact ht

lemma DispatchRule.nagle_eq (h : DispatchRule s cx s' o) : s'.nagle = s.nagle := by
  have htimed : ∀ {s₁}, Timed s cx s₁ → s₁.nagle = s.nagle := by
    rintro s₁ (_ | _ | _) <;> rfl
  cases h with
  | noTuple => rfl
  | idle _ ht => exact htimed ht
  | reset _ ht =>
    have hs := htimed ht
    exact hs
  | failed _ ht => exact htimed ht
  | sent _ ht _ _ hsends =>
    have hs := htimed ht
    cases hsends <;> exact hs

lemma due_nagle (s : Socket) (cx : Context) : (s.due cx).nagle = s.nagle := by
  rcases s.due_cases cx with h | h | h <;> rw [h] <;> rfl

/-- Only the application enables and disables Nagle's algorithm. -/
lemma nagle_of_step {y y' : Sys} {op : Op} (h : y.socket.nagle = true)
    (hop : ∀ enabled, op = .set (.nagleEnabled enabled) → enabled = true) (hs : StepRule y op y') :
    y'.socket.nagle = true := by
  cases hs with
  | same => exact h
  | listen => exact h
  | connect => exact h
  | close =>
    obtain ⟨st, heq, -⟩ := y.socket.close_eq
    rw [heq]
    exact h
  | abort => exact h
  | set x s' hs =>
    cases x with
    | nagleEnabled enabled =>
      cases hs
      exact hop enabled rfl
    | hopLimit hl =>
      simp only [set, setHopLimit] at hs
      split_ifs at hs
      cases hs
      exact h
    | _ =>
      cases hs
      exact h
  | send op s' data hs =>
    obtain ⟨-, tx, ts, -, -, -, rfl⟩ := hs
    exact h
  | recv op s' n hs =>
    obtain ⟨-, rx, -, -, rfl⟩ := hs
    exact h
  | process cx ipRepr repr s' hs => exact hs.nagle_eq.trans h
  | dispatch cx emit s' e hs => exact hs.nagle_eq.trans h

end Socket

/-! ### The rule for one segment -/

namespace Sys

variable {y : Sys} {cx : Context} {emit : IpRepr → TcpRepr → Bool} {s' : Socket}
  {o : Option Emission}

/-- Where Nagle's rule applies, the next data segment is a full one. -/
def SendsFull (y : Sys) (cx : Context) : Prop :=
  (y.socket.due cx).SendsData cx → (y.socket.due cx).Restrains → (y.socket.due cx).OffersFull cx

lemma length_of_mem (h : y.Reachable) (hd : y.socket.dispatch cx emit = .ok (s', o))
    {e : Emission} (he : e ∈ o) (hdata : e.IsData) :
    (y.socket.due cx).effectiveMss cx ≤ e.repr.payload.length ↔
      (y.socket.due cx).OffersFull cx := by
  have hrule := Socket.DispatchRule.of_dispatch hd
  rw [(hrule.data_eq h.flight he hdata).1, Socket.effectiveMss_le_nextLen]

/-- Octets that were never sent keep to the rule exactly where the segment they make is full. -/
lemma full_iff (h : y.Reachable) (hd : y.socket.dispatch cx emit = .ok (s', o)) :
    (∀ e ∈ o, y.CarriesNew e → (y.socket.due cx).Restrains →
      (y.socket.due cx).effectiveMss cx ≤ e.repr.payload.length) ↔
      (y.OffersNew cx → (y.socket.due cx).Restrains → (y.socket.due cx).OffersFull cx) := by
  rw [← carriesNew_iff h hd]
  constructor
  · rintro hall ⟨e, he, hnew⟩ hrestrains
    exact (length_of_mem h hd he hnew.1).mp (hall e he hnew hrestrains)
  · intro hfull e he hnew hrestrains
    exact (length_of_mem h hd he hnew.1).mpr (hfull ⟨e, he, hnew⟩ hrestrains)

end Sys

/-! ### The record of short segments -/

/-- A run with the ends of the data segments in flight that are shorter than the effective maximum
segment size was when they were sent. -/
structure Ledger where
  sys : Sys
  shorts : List ℤ

namespace Ledger

/-- What is still in flight after a step that leads to `y`. -/
def kept (y : Sys) (shorts : List ℤ) : List ℤ :=
  if y.socket.inFlight = 0 then [] else shorts.filter fun p => decide ((y.conn.acked : ℤ) < p)

/-- What is in flight after `dispatch`. A retransmission starts with nothing in flight. -/
def send (y : Sys) (cx : Context) (o : Option Emission) (shorts : List ℤ) : List ℤ :=
  let shorts := if (y.socket.due cx).inFlight = 0 then [] else shorts
  match o with
  | some e =>
    if e.sent ∧ e.IsData ∧ e.repr.payload.length < (y.socket.due cx).effectiveMss cx then
      (y.conn.acked + dist e.repr.seqNumber y.socket.localSeqNo + e.repr.payload.length) :: shorts
    else shorts
  | none => shorts

def next (l : Ledger) (op : Op) (y : Sys) : Ledger :=
  match op with
  | .dispatch cx emit =>
    ⟨y, kept y (send l.sys cx ((l.sys.socket.dispatch cx emit).toOption.bind Prod.snd) l.shorts)⟩
  | _ => ⟨y, kept y l.shorts⟩

def step (l : Ledger) (op : Op) : Checked Ledger := do
  let y ← l.sys.step op
  return l.next op y

def Initial (l : Ledger) : Prop := l.sys.Initial ∧ l.shorts = []

/-- Nagle's algorithm stays enabled, and where its rule applies every data segment is full. -/
def Full (l : Ledger) : Op → Prop
  | .dispatch cx _ => l.sys.SendsFull cx
  | .set (.nagleEnabled enabled) => enabled = true
  | _ => True

/-- The states reached by steps that send full segments. -/
def ReachableFull (l : Ledger) : Prop :=
  ∃ l₀ : Ledger, l₀.Initial ∧ Transition.Run (fun l op l' => l.step op = .ok l') Full l₀ l

variable {l l' : Ledger} {op : Op}

lemma length_kept_le (y : Sys) (shorts : List ℤ) : (kept y shorts).length ≤ shorts.length := by
  unfold kept
  split_ifs
  · exact Nat.zero_le _
  · exact List.length_filter_le _ _

lemma kept_eq_nil {y : Sys} (h : y.socket.inFlight = 0) (shorts : List ℤ) : kept y shorts = [] :=
  if_pos h

lemma step_eq_ok (h : l.step op = .ok l') : Sys.Step l.sys op l'.sys ∧ l' = l.next op l'.sys := by
  obtain ⟨y, hy, h⟩ := Checked.bind_eq_ok.mp h
  cases h
  have hsys : (l.next op y).sys = y := by
    unfold next
    split <;> rfl
  rw [hsys]
  exact ⟨hy, rfl⟩

/-- The invariant: as long as the transmit half is open, one segment in flight is short at most. -/
structure Tidy (l : Ledger) : Prop where
  reachable : l.sys.Reachable
  nagle : l.sys.socket.nagle = true
  length_le : l.sys.socket.state.Unclosed → l.shorts.length ≤ 1

lemma Full.nagle (h : l.Full op) :
    ∀ enabled, op = .set (.nagleEnabled enabled) → enabled = true := by
  rintro enabled rfl
  exact h

/-- A short segment is only added where nothing is in flight. -/
lemma length_send_le {y : Sys} {cx : Context} {emit : IpRepr → TcpRepr → Bool} {s' : Socket}
    {o : Option Emission} {shorts : List ℤ} (hreach : y.Reachable)
    (hd : y.socket.dispatch cx emit = .ok (s', o)) (hfull : y.SendsFull cx)
    (hnagle : y.socket.nagle = true) (hst : y.socket.state.Unclosed)
    (hle : shorts.length ≤ 1) : (send y cx o shorts).length ≤ 1 := by
  have hrule := Socket.DispatchRule.of_dispatch hd
  have hsends := hrule.isData_iff hreach.base hreach.flight
  unfold send
  cases o with
  | none => split_ifs <;> simp [hle]
  | some e =>
    by_cases hzero : (y.socket.due cx).inFlight = 0
    · simp only [if_pos hzero]
      split_ifs <;> simp
    · simp only [if_neg hzero]
      split_ifs with hshort
      · obtain ⟨-, hdata, hlt⟩ := hshort
        have hsend := hsends.mp ⟨e, rfl, hdata⟩
        have htransmits := hsend.state
        have hmay : (y.socket.due cx).maySend := by
          rcases y.socket.due_state cx with hs | hs
          · simp [State.TransmitsData, hs] at htransmits
          · rw [← hs] at hst
            rcases hst with hs' | hs'
            · rcases hs' with hs' | hs' | hs' <;> simp [State.TransmitsData, hs'] at htransmits
            · exact hs'
        have hflight : (y.socket.due cx).dataInFlight := by
          intro heq
          exact hzero ((dist_eq_zero_iff _ _).mpr heq)
        rw [← y.socket.due_nagle cx] at hnagle
        have := (Sys.length_of_mem hreach hd rfl hdata).mpr (hfull hsend ⟨hnagle, hmay, hflight⟩)
        omega
      · exact hle

lemma Tidy.step (h : l.Tidy) (hok : l.Full op) (hstep : l.step op = .ok l') : l'.Tidy := by
  obtain ⟨hsys, heq⟩ := step_eq_ok hstep
  have hrule := StepRule.of_step hsys
  refine ⟨h.reachable.trans (.tail op .refl trivial hsys),
    Socket.nagle_of_step h.nagle hok.nagle hrule, fun hst => ?_⟩
  rcases Socket.unclosed_of_step hrule hst with hold | hzero
  · have hle := h.length_le hold
    rw [heq]
    unfold next
    split
    · rename_i cx emit
      obtain ⟨⟨s, o⟩, hd, hy⟩ := Checked.bind_eq_ok.mp hsys
      rw [hd]
      exact (length_kept_le _ _).trans (length_send_le h.reachable hd hok h.nagle hold hle)
    · exact (length_kept_le _ _).trans hle
  · rw [heq]
    unfold next
    split
    all_goals
      simp only
      rw [kept_eq_nil hzero]
      simp

lemma ReachableFull.tidy (h : l.ReachableFull) : l.Tidy := by
  obtain ⟨l₀, ⟨h₀, hshorts⟩, hrun⟩ := h
  refine hrun.invariant (fun _ _ _ hl hok hstep => hl.step hok hstep) ⟨⟨_, h₀, .refl⟩, ?_, ?_⟩
  · obtain ⟨cfg, rx, tx, hnew, -⟩ := h₀
    unfold Socket.new at hnew
    split_ifs at hnew
    simp only [Except.ok.injEq] at hnew
    rw [← hnew]
  · simp [hshorts]

/-- Octets that were never sent keep to the rule exactly where the segment they make is full. In a
run in which Nagle's algorithm stays enabled and where its rule applies every data segment is full,
at most one short segment is in flight. -/
theorem one_short_of_run {y : Sys} (hy : y.Reachable) (hl : l.ReachableFull) :
    (∀ cx emit s' o, y.socket.dispatch cx emit = .ok (s', o) →
      ((∀ e ∈ o, y.CarriesNew e → (y.socket.due cx).Restrains →
        (y.socket.due cx).effectiveMss cx ≤ e.repr.payload.length) ↔
        (y.OffersNew cx → (y.socket.due cx).Restrains → (y.socket.due cx).OffersFull cx))) ∧
      (l.sys.socket.maySend → l.shorts.length ≤ 1) := by
  refine ⟨fun cx emit s' o hd => Sys.full_iff hy hd, fun hmay => ?_⟩
  exact hl.tidy.length_le (Socket.maySend_unclosed hmay)

/-- A check that is passed by steps that send full segments only. -/
def checkFull (l : Ledger) : Op → Bool
  | .dispatch cx _ => ¬ (l.sys.socket.due cx).Restrains ∨ (l.sys.socket.due cx).OffersFull cx
  | .set (.nagleEnabled enabled) => enabled
  | _ => true

lemma full_of_check (h : l.checkFull op = true) : l.Full op := by
  unfold checkFull at h
  unfold Full
  split at h
  · rename_i cx emit
    have h := of_decide_eq_true h
    intro _ hrestrains
    exact h.resolve_left (not_not_intro hrestrains)
  · exact h
  · simp_all

/-- A connection whose application enqueues 6 octets, of which the remote accepts 4 at once. -/
def tightRun : List Op :=
  [.listen ⟨none, 80⟩,
    Sample.process 0 { Sample.segment .syn 99 none 4096 [] with maxSegSize := some 4 },
    Sample.dispatch 0, Sample.process 0 (Sample.segment .none 100 (some 10001) 4096 []),
    .sendSlice [1, 2, 3, 4, 5, 6], Sample.dispatch 0,
    Sample.process 0 (Sample.segment .none 100 (some 10005) 4096 [])]

/-- The two octets that are left make a short segment. With that in flight, four new octets make a
full one, which is sent. -/
theorem one_short_of_run_tail : ∃ (l : Ledger) (s' : Socket) (e : Emission), l.ReachableFull ∧
    l.sys.socket.maySend ∧ l.shorts = [7] ∧
    (l.sys.socket.due (Sample.context 0)).Restrains ∧
    l.sys.socket.dispatch (Sample.context 0) (fun _ _ => true) = .ok (s', some e) ∧
    l.sys.CarriesNew e ∧
    (l.sys.socket.due (Sample.context 0)).effectiveMss (Sample.context 0) ≤
      e.repr.payload.length ∧
    l.shorts.length ≤ 1 := by
  have hrun : ((Sys.start Sample.config (Sample.buffer 16) (Sample.buffer 16)).bind fun y =>
      Transition.exec step checkFull
        (tightRun ++ [Sample.dispatch 0, .sendSlice [7, 8, 9, 10]]) ⟨y, []⟩).any
        (fun l => l.sys.socket.maySend ∧ l.shorts = [7] ∧
          (l.sys.socket.due (Sample.context 0)).Restrains ∧
          (l.sys.socket.due (Sample.context 0)).OffersFull (Sample.context 0) ∧
          (Sample.emitted 0 l.sys.socket).any fun e => l.sys.CarriesNew e) = true := by
    decide
  obtain ⟨l, hl, hP⟩ := (Option.any_eq_true _ _).mp hrun
  obtain ⟨y, hy, hexec⟩ := Option.bind_eq_some_iff.mp hl
  obtain ⟨hmay, hshorts, hrestrains, hfull, hany⟩ := of_decide_eq_true hP
  obtain ⟨e, he, hnew⟩ := (Option.any_eq_true _ _).mp hany
  obtain ⟨s', hs'⟩ := Sample.dispatch_of_emitted he
  have hnew := of_decide_eq_true hnew
  have hreach : l.ReachableFull := ⟨_, ⟨Sys.initial_of_start hy, rfl⟩,
    .of_exec (fun _ _ h => full_of_check h) hexec⟩
  obtain ⟨hsegment, hrunLength⟩ := one_short_of_run hreach.tidy.reachable hreach
  have hlength := (hsegment _ _ _ _ hs').mpr (fun _ _ => hfull) e rfl hnew hrestrains
  exact ⟨l, s', e, hreach, hmay, hshorts, hrestrains, hs', hnew, hlength, hrunLength hmay⟩

end Ledger

/-- The ring ends behind 3 octets of a segment of 4, which is sent while data is in flight. -/
theorem Sys.short_at_wrap : ∃ (y : Sys) (s' : Socket) (e : Emission), y.Reachable ∧
    y.socket.nagle = true ∧ y.socket.state = .established ∧
    y.socket.remoteLastSeq ≠ y.socket.localSeqNo ∧
    y.socket.dispatch (Sample.context 0) (fun _ _ => true) = .ok (s', some e) ∧
    y.CarriesNew e ∧ e.repr.seqNumber = y.socket.remoteLastSeq ∧ e.repr.payload = [9, 10, 11] ∧
    y.socket.effectiveMss (Sample.context 0) = 4 := by
  obtain ⟨y, hreach, hP⟩ := exists_sample (fun _ _ => True) (fun _ _ => true) 11
    (Ledger.tightRun ++ [.sendSlice [7, 8, 9, 10, 11, 12, 13, 14, 15], Sample.dispatch 0])
    (fun y => y.socket.nagle = true ∧ y.socket.state = .established ∧
      y.socket.remoteLastSeq ≠ y.socket.localSeqNo ∧
      y.socket.effectiveMss (Sample.context 0) = 4 ∧
      (Sample.emitted 0 y.socket).any fun e => y.CarriesNew e ∧
        e.repr.seqNumber = y.socket.remoteLastSeq ∧ e.repr.payload = [9, 10, 11])
    (fun _ _ _ => trivial) (by decide)
  obtain ⟨hnagle, hst, hflight, hmss, hany⟩ := of_decide_eq_true hP
  obtain ⟨e, he, hP⟩ := (Option.any_eq_true _ _).mp hany
  obtain ⟨hnew, hseq, hpay⟩ := of_decide_eq_true hP
  obtain ⟨s', hs'⟩ := Sample.dispatch_of_emitted he
  exact ⟨y, s', e, hreach, hnagle, hst, hflight, hs', hnew, hseq, hpay, hmss⟩

end Smoltcp.Tcp
