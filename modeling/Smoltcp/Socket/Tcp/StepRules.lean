import Smoltcp.Socket.Tcp.DispatchRules
import Smoltcp.Socket.Tcp.ProcessRules

/-!
# What a step can do

`StepRule` lists the outcomes of one step of a run. An invariant is kept if it is kept in each
case of the list.
-/

namespace Smoltcp.Tcp

open Serial

variable {s s' : Socket} {y y' : Sys} {op : Op}

/-! ### Calls of the application -/

namespace Socket

lemma listen_eq_ok {endpoint : IpListenEndpoint} (h : s.listen endpoint = .ok s') :
    s.isOpen ∧ s' = s ∨ ¬ s.isOpen ∧ endpoint.port ≠ 0 ∧
      s' = { s.reset with listenEndpoint := endpoint, state := .listen } := by
  unfold listen at h
  split_ifs at h with hport hopen <;> cases h
  · exact .inl ⟨hopen, rfl⟩
  · exact .inr ⟨hopen, hport, rfl⟩

lemma connect_eq_ok {cx : Context} {remote : IpEndpoint} {endpoint : IpListenEndpoint}
    (h : s.connect cx remote endpoint = .ok s') :
    ¬ s.isOpen ∧ ∃ tuple : Tuple, tuple.localEnd.addr.version = tuple.remoteEnd.addr.version ∧
      s' = { s.reset with
        tuple := some tuple, state := .synSent, localSeqNo := cx.rand, remoteLastSeq :=
        cx.rand } := by
  unfold connect at h
  split_ifs at h with hopen
  cases hfrom : connectFrom cx remote.addr endpoint with
  | error err =>
    rw [hfrom] at h
    cases h
  | ok localEnd =>
    rw [hfrom] at h
    by_cases hver : localEnd.addr.version = remote.addr.version
    · simp only [bind, Except.bind, hver, ne_eq, not_true, if_false] at h
      cases h
      exact ⟨hopen, ⟨localEnd, remote⟩, hver, rfl⟩
    · simp only [bind, Except.bind, hver, ne_eq, not_false_iff, if_true] at h
      cases h

/-- `close` only changes the state, and only where the local half is not closed yet. -/
lemma close_eq (s : Socket) : ∃ st, s.close = s.setState st ∧
    ((s.state = .listen ∨ s.state = .synSent) ∧ st = .closed ∨
      (s.state = .synReceived ∨ s.state = .established) ∧ st = .finWait1 ∨
      s.state = .closeWait ∧ st = .lastAck ∨
      ¬ (s.state = .listen ∨ s.state = .synSent ∨ s.state = .synReceived ∨
        s.state = .established ∨ s.state = .closeWait) ∧ st = s.state) := by
  unfold close
  cases hst : s.state
  case listen | synSent => exact ⟨_, rfl, by simp⟩
  case synReceived | established => exact ⟨_, rfl, by simp⟩
  case closeWait => exact ⟨_, rfl, by simp⟩
  all_goals exact ⟨s.state, rfl, by simp [hst]⟩

/-- The socket after `n` octets were enqueued. A first octet for a closed window starts the
zero-window probe timer. -/
structure Enqueues (s s' : Socket) (data : List UInt8) : Prop where
  maySend : s.maySend
  exists_eq : ∃ tx ts,
    tx.toList = s.txBuffer.toList ++ data ∧ tx.capacity = s.txBuffer.capacity ∧
    (s.txBuffer.len ≠ 0 → ts = s.remoteLastTs) ∧
    s' = { s with
      txBuffer := tx
      remoteLastTs := ts
      timer :=
        if data ≠ [] ∧ s.remoteWinLen = 0 ∧ s.timer.isIdle then
          .setForZeroWindowProbe 0 s.rtte.retransmissionTimeout
        else s.timer }

lemma noteSent_enqueues {tx : SocketBuffer} {data : List UInt8} (hmay : s.maySend)
    (htx : tx.toList = s.txBuffer.toList ++ data) (hcap : tx.capacity = s.txBuffer.capacity) :
    Enqueues s (noteSent { s with txBuffer := tx } s.txBuffer.len data.length) data := by
  refine ⟨hmay, tx, ?_⟩
  unfold noteSent
  by_cases hdata : data = []
  · subst hdata
    exact ⟨s.remoteLastTs, htx, hcap, fun _ => rfl, by simp⟩
  · have hpos : 0 < data.length := List.length_pos_iff.mpr hdata
    simp only [if_pos hpos, hdata, ne_eq, not_false_iff, true_and]
    by_cases hlen : s.txBuffer.len = 0
    · simp only [if_pos hlen]
      refine ⟨none, htx, hcap, fun h => absurd hlen h, ?_⟩
      split_ifs <;> rfl
    · simp only [if_neg hlen]
      refine ⟨s.remoteLastTs, htx, hcap, fun _ => rfl, ?_⟩
      split_ifs <;> rfl

lemma send_eq_ok {ρ : Type} {f : Callback UInt8 ρ} {r : Except SendError ρ}
    (h : s.send f = .ok (s', r)) : s' = s ∨ ∃ data, Enqueues s s' data := by
  unfold send at h
  split_ifs at h with hmay
  · obtain ⟨⟨tx, size, res⟩, htx, h⟩ := Checked.bind_eq_ok.mp h
    cases h
    obtain ⟨hsize, -, hle, hlist, hcap⟩ := s.txBuffer.enqueueManyWith_eq_ok htx
    have hlen : ((f s.txBuffer.writeSlice).buf.take size).length = size := by
      rw [List.length_take, (f s.txBuffer.writeSlice).length_buf]
      omega
    have henq := noteSent_enqueues hmay hlist hcap
    rw [hlen] at henq
    exact .inr ⟨_, henq⟩
  · cases h
    exact .inl rfl

lemma sendSlice_eq_ok {data : List UInt8} {r : Except SendError ℕ}
    (h : s.sendSlice data = .ok (s', r)) : s' = s ∨ ∃ data, Enqueues s s' data := by
  unfold sendSlice at h
  split_ifs at h with hmay
  · obtain ⟨⟨tx, size⟩, htx, h⟩ := Checked.bind_eq_ok.mp h
    cases h
    obtain ⟨tx', n, htx', hn, hlist, hcap⟩ := s.txBuffer.enqueueSlice_spec data
    rw [htx'] at htx
    cases htx
    have henq := noteSent_enqueues hmay hlist hcap
    rw [List.length_take, Nat.min_eq_left hn] at henq
    exact .inr ⟨_, henq⟩
  · cases h
    exact .inl rfl

/-- The socket after `n` octets were taken from the receive buffer. Where the application keeps
the rest as it was, that is what stays. -/
structure Dequeues (s s' : Socket) (n : ℕ) (keeps : Prop) : Prop where
  mayRecv : s.mayRecv
  exists_eq : ∃ rx, s.rxBuffer.Shrinks rx n ∧ (keeps → rx.toList = s.rxBuffer.toList.drop n) ∧
    s' = { s with rxBuffer := rx, remoteSeqNo := shift s.remoteSeqNo n }

lemma mayRecv_of_recvErrorCheck (h : s.recvErrorCheck = .ok ()) : s.mayRecv := by
  unfold recvErrorCheck at h
  split_ifs at h with hmay
  exact hmay

lemma recv_eq_ok {ρ : Type} {f : Callback UInt8 ρ} {r : Except RecvError ρ}
    (h : s.recv f = .ok (s', r)) : s' = s ∨ ∃ n, Dequeues s s' n f.KeepsRest := by
  unfold recv at h
  split at h
  · cases h
    exact .inl rfl
  · rename_i hcheck
    obtain ⟨⟨rx, size, res⟩, hrx, h⟩ := Checked.bind_eq_ok.mp h
    obtain ⟨s₁, hs₁, h⟩ := Checked.bind_eq_ok.mp h
    cases h
    obtain ⟨seq, hseq, hs₁⟩ := Checked.bind_eq_ok.mp hs₁
    obtain ⟨-, rfl⟩ := SeqNumber.add_eq_ok.mp hseq
    cases hs₁
    obtain ⟨-, -, hshrinks, hkeeps⟩ := s.rxBuffer.dequeueManyWith_eq_ok hrx
    exact .inr ⟨size, mayRecv_of_recvErrorCheck hcheck, rx, hshrinks, hkeeps, rfl⟩

lemma recvSlice_eq_ok {n : ℕ} {r : Except RecvError (List UInt8)}
    (h : s.recvSlice n = .ok (s', r)) : s' = s ∨ ∃ n, Dequeues s s' n True := by
  unfold recvSlice at h
  split at h
  · cases h
    exact .inl rfl
  · rename_i hcheck
    obtain ⟨⟨rx, data⟩, hrx, h⟩ := Checked.bind_eq_ok.mp h
    obtain ⟨s₁, hs₁, h⟩ := Checked.bind_eq_ok.mp h
    cases h
    obtain ⟨seq, hseq, hs₁⟩ := Checked.bind_eq_ok.mp hs₁
    obtain ⟨-, rfl⟩ := SeqNumber.add_eq_ok.mp hseq
    cases hs₁
    obtain ⟨rx', m, hrx', hshrinks, hlist⟩ := s.rxBuffer.dequeueSlice_spec n
    rw [hrx'] at hrx
    cases hrx
    have hlen : (s.rxBuffer.toList.take m).length = m := by
      have hle := hshrinks.le
      rw [List.length_take, RingBuffer.length_toList]
      omega
    rw [hlen]
    exact .inr ⟨m, mayRecv_of_recvErrorCheck hcheck, rx, hshrinks, fun _ => hlist, rfl⟩

lemma set_eq_ok {x : Setting} (h : s.set x = .ok s') :
    ∃ timeout ackDelay nagle keepAlive hopLimit tsval cc paused timer,
      (timer = s.timer ∨ timer = s.timer.setKeepAlive) ∧
      (cc = s.congestionController ∨ ∃ c, cc = .ofControl c) ∧
      s' = { s with
        timeout := timeout
        ackDelay := ackDelay
        nagle := nagle
        keepAlive := keepAlive
        hopLimit := hopLimit
        tsvalGenerator := tsval
        congestionController := cc
        synackPaused := paused
        timer := timer } := by
  cases x with
  | keepAlive interval =>
    cases h
    refine ⟨_, _, _, _, _, _, _, _, _, ?_, .inl rfl, rfl⟩
    split_ifs
    · exact .inr rfl
    · exact .inl rfl
  | hopLimit hl =>
    simp only [set, setHopLimit] at h
    split_ifs at h
    cases h
    exact ⟨_, _, _, _, _, _, _, _, _, .inl rfl, .inl rfl, rfl⟩
  | congestionControl c =>
    cases h
    exact ⟨_, _, _, _, _, _, _, _, _, .inl rfl, .inr ⟨c, rfl⟩, rfl⟩
  | _ =>
    cases h
    exact ⟨_, _, _, _, _, _, _, _, _, .inl rfl, .inl rfl, rfl⟩

end Socket

/-! ### Steps -/

/-- The closure of a `recv` leaves the octets it does not take as they were. -/
def Op.KeepsRest : Op → Prop
  | .recv f => f.KeepsRest
  | _ => True

/-- Everything that a step can do. -/
inductive StepRule (y : Sys) : Op → Sys → Prop where
  | same (op : Op) : StepRule y op y
  | listen (endpoint : IpListenEndpoint) (hopen : ¬ y.socket.isOpen) (hport : endpoint.port ≠ 0) :
      StepRule y (.listen endpoint)
        ⟨{ y.socket.reset with listenEndpoint := endpoint, state := .listen }, .start 0⟩
  | connect (cx : Context) (remote : IpEndpoint) (endpoint : IpListenEndpoint) (tuple : Tuple)
      (hopen : ¬ y.socket.isOpen)
      (hversion : tuple.localEnd.addr.version = tuple.remoteEnd.addr.version) :
      StepRule y (.connect cx remote endpoint)
        ⟨{ y.socket.reset with
            tuple := some tuple, state := .synSent, localSeqNo := cx.rand, remoteLastSeq :=
            cx.rand },
          .start cx.rand⟩
  | close : StepRule y .close { y with socket := y.socket.close }
  | abort : StepRule y .abort { y with socket := y.socket.abort }
  | set (x : Setting) (s' : Socket) (h : y.socket.set x = .ok s') :
      StepRule y (.set x) { y with socket := s' }
  | send (op : Op) (s' : Socket) (data : List UInt8) (h : y.socket.Enqueues s' data) :
      StepRule y op ⟨s', { y.conn with enqueued := y.conn.enqueued ++ data }⟩
  | recv (op : Op) (s' : Socket) (n : ℕ) (h : y.socket.Dequeues s' n op.KeepsRest) :
      StepRule y op ⟨s', { y.conn with
        delivered := y.conn.delivered ++ y.socket.rxBuffer.toList.take n }⟩
  | process (cx : Context) (ipRepr : IpRepr) (repr : TcpRepr) (s' : Socket)
      (h : y.socket.ProcessRule cx ipRepr repr s') :
      StepRule y (.process cx ipRepr repr) ⟨s', y.conn.process y.socket s'⟩
  | dispatch (cx : Context) (emit : IpRepr → TcpRepr → Bool) (s' : Socket) (e : Option Emission)
      (h : y.socket.DispatchRule cx s' e) :
      StepRule y (.dispatch cx emit) ⟨s', y.conn.dispatch y.socket e⟩

namespace StepRule

lemma enqueue_self (c : Conn) (s : Socket) : c.enqueue s s = c := by
  simp [Conn.enqueue, ← RingBuffer.length_toList]

lemma deliver_self (c : Conn) (s : Socket) : c.deliver s s = c := by
  simp [Conn.deliver]

lemma enqueue_eq (c : Conn) {data : List UInt8} (h : s.Enqueues s' data) :
    c.enqueue s s' = { c with enqueued := c.enqueued ++ data } := by
  obtain ⟨-, tx, ts, htx, -, -, rfl⟩ := h
  simp [Conn.enqueue, htx, ← RingBuffer.length_toList]

lemma deliver_eq (c : Conn) {n : ℕ} {keeps : Prop} (h : s.Dequeues s' n keeps) :
    c.deliver s s' = { c with delivered := c.delivered ++ s.rxBuffer.toList.take n } := by
  obtain ⟨-, rx, hshrinks, -, rfl⟩ := h
  have hle := hshrinks.le
  have hlen : s.rxBuffer.len - rx.len = n := by
    rw [hshrinks.len]
    omega
  simp only [Conn.deliver, hlen]

theorem of_step (h : y.step op = .ok y') : StepRule y op y' := by
  cases op with
  | listen endpoint =>
    simp only [Sys.step] at h
    split at h <;> cases h
    · rename_i s hs
      rcases Socket.listen_eq_ok hs with ⟨hopen, rfl⟩ | ⟨hopen, hport, rfl⟩
      · rw [if_pos hopen]
        exact .same _
      · rw [if_neg hopen]
        exact .listen endpoint hopen hport
    · exact .same _
  | connect cx remote endpoint =>
    simp only [Sys.step] at h
    split at h <;> cases h
    · rename_i s hs
      obtain ⟨hopen, tuple, hversion, rfl⟩ := Socket.connect_eq_ok hs
      exact .connect cx remote endpoint tuple hopen hversion
    · exact .same _
  | close =>
    cases h
    exact .close
  | abort =>
    cases h
    exact .abort
  | set x =>
    obtain ⟨s, hs, h⟩ := Checked.bind_eq_ok.mp h
    cases h
    exact .set x s hs
  | send f =>
    obtain ⟨⟨s, r⟩, hs, h⟩ := Checked.bind_eq_ok.mp h
    cases h
    rcases Socket.send_eq_ok hs with rfl | ⟨data, henq⟩
    · rw [enqueue_self]
      exact .same _
    · rw [enqueue_eq _ henq]
      exact .send _ s data henq
  | sendSlice data =>
    obtain ⟨⟨s, r⟩, hs, h⟩ := Checked.bind_eq_ok.mp h
    cases h
    rcases Socket.sendSlice_eq_ok hs with rfl | ⟨data, henq⟩
    · rw [enqueue_self]
      exact .same _
    · rw [enqueue_eq _ henq]
      exact .send _ s data henq
  | recv f =>
    obtain ⟨⟨s, r⟩, hs, h⟩ := Checked.bind_eq_ok.mp h
    cases h
    rcases Socket.recv_eq_ok hs with rfl | ⟨n, hdeq⟩
    · rw [deliver_self]
      exact .same _
    · rw [deliver_eq _ hdeq]
      exact .recv _ s n hdeq
  | recvSlice n =>
    obtain ⟨⟨s, r⟩, hs, h⟩ := Checked.bind_eq_ok.mp h
    cases h
    rcases Socket.recvSlice_eq_ok hs with rfl | ⟨n, hdeq⟩
    · rw [deliver_self]
      exact .same _
    · rw [deliver_eq _ hdeq]
      exact .recv _ s n hdeq
  | peek size =>
    cases h
    exact .same _
  | process cx ipRepr repr =>
    obtain ⟨⟨s, r⟩, hs, h⟩ := Checked.bind_eq_ok.mp h
    cases h
    exact .process cx ipRepr repr s (.of_process hs)
  | dispatch cx emit =>
    obtain ⟨⟨s, e⟩, hs, h⟩ := Checked.bind_eq_ok.mp h
    cases h
    exact .dispatch cx emit s e (.of_dispatch hs)

end StepRule

namespace Sys

lemma Step.process_rule {cx : Context} {ipRepr : IpRepr} {repr : TcpRepr}
    (h : Step y (.process cx ipRepr repr) y') :
    ∃ s, y.socket.ProcessRule cx ipRepr repr s ∧ y' = ⟨s, y.conn.process y.socket s⟩ := by
  obtain ⟨⟨s, p⟩, hs, h⟩ := Checked.bind_eq_ok.mp h
  cases h
  exact ⟨s, .of_process hs, rfl⟩

lemma Initial.new_eq (h : y.Initial) :
    y.socket.state = .closed ∧ y.socket.tuple = none ∧ y.conn = .start 0 := by
  obtain ⟨cfg, rx, tx, hnew, hconn⟩ := h
  unfold Socket.new at hnew
  split_ifs at hnew
  simp only [Except.ok.injEq] at hnew
  rw [← hnew]
  exact ⟨rfl, rfl, hconn⟩

/-- What holds of a new socket and is kept by every rule holds in every state reached. What is
already known of the states reached may be used. -/
theorem ReachableBy.induct {ok : Sys → Op → Prop} {I : Sys → Prop} (hinit : ∀ y, Initial y → I y)
    (hkeep : ∀ y op y', ReachableBy ok y → I y → ok y op → StepRule y op y' → I y')
    (h : ReachableBy ok y) : I y := by
  obtain ⟨y₀, h₀, hrun⟩ := h
  refine hrun.invariant_of (J := ReachableBy ok) (fun t ht => ⟨y₀, h₀, ht⟩) ?_ (hinit y₀ h₀)
  intro t op u hreach hI hok hstep
  exact hkeep t op u hreach hI hok (.of_step hstep)

end Sys

end Smoltcp.Tcp
