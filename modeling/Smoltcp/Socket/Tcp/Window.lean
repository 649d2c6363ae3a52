import Smoltcp.Socket.Tcp.Sample
import Smoltcp.Socket.Tcp.Transmits

/-!
# Advertised windows

A segment with an acknowledgement number advertises a window: so many octets from that number on
the socket is willing to take. `Watch` keeps, beside a run, every window advertised since the SYN
of the remote, with positions in the sequence space of the remote that do not wrap. No window that
was ever advertised reaches beyond the end of the receive window.
-/

namespace Smoltcp.Tcp

open Serial

namespace Socket

variable {s s' : Socket} {cx : Context} {ipRepr : IpRepr} {repr : TcpRepr}

/-! ### The window field -/

/-- The size of the window that a segment advertises. It is not scaled in a SYN. -/
def windowSize (s : Socket) (r : TcpRepr) : ℕ :=
  if r.control = .syn then r.windowLen.toNat else shl r.windowLen.toNat s.remoteWinShift

lemma shl_shr_le (x : ℕ) (k : UInt8) : shl (min (shr x k) 65535) k ≤ x := by
  unfold shl shr
  rw [Nat.shiftLeft_eq, Nat.shiftRight_eq_div_pow]
  refine (Nat.mod_le _ _).trans ?_
  refine (Nat.mul_le_mul_right _ (Nat.min_le_left _ _)).trans ?_
  exact Nat.div_mul_le_self _ _

lemma shl_scaledWindow_le (s : Socket) :
    shl s.scaledWindow.toNat s.remoteWinShift ≤ s.rxBuffer.window := by
  rw [scaledWindow, toNat_u16OrMax]
  exact shl_shr_le _ _

lemma windowSize_le_of_scaled {r : TcpRepr} (h : r.windowLen = s.scaledWindow)
    (hctl : r.control ≠ .syn) : s.windowSize r ≤ s.rxBuffer.window := by
  rw [windowSize, if_neg hctl, h]
  exact s.shl_scaledWindow_le

lemma dataControl_ne_syn (s : Socket) (offset : ℕ) (payload : List UInt8) :
    s.dataControl offset payload ≠ .syn := by
  unfold dataControl
  split
  · cases s.state <;> simp only <;> first
      | decide
      | (split <;> decide)
  · decide

lemma Builds.windowSize_le {r : TcpRepr} {zwp : Bool} (h : Builds s cx r zwp) :
    s.windowSize r ≤ s.rxBuffer.window := by
  cases h with
  | rst hstate hctl hseq hpay hack hwin => exact windowSize_le_of_scaled hwin (by simp [hctl])
  | syn hstate hctl hseq hpay hack hwin =>
    rw [windowSize, if_pos hctl, hwin, toNat_u16OrMax]
    exact Nat.min_le_left _ _
  | data offset room mss zwp hstate hmss hwinLen hroom hzwp hoff hseq hpay hctl hack hwin =>
    exact windowSize_le_of_scaled hwin (by rw [hctl]; exact s.dataControl_ne_syn _ _)
  | ack hstate hctl hseq hpay hack hwin => exact windowSize_le_of_scaled hwin (by simp [hctl])

lemma windowSize_congr {r r' : TcpRepr} (hctl : r'.control = r.control)
    (hwin : r'.windowLen = r.windowLen) : s.windowSize r' = s.windowSize r := by
  rw [windowSize, windowSize, hctl, hwin]

lemma keepAliveSegment_window (r : TcpRepr) :
    (keepAliveSegment r).control = r.control ∧ (keepAliveSegment r).windowLen = r.windowLen := by
  unfold keepAliveSegment
  exact ⟨rfl, rfl⟩

lemma Emits.windowSize_le {e : Emission} (h : Emits s cx e) :
    s.windowSize e.repr ≤ s.rxBuffer.window := by
  cases h with
  | segment r hbuilds _ _ _ hrepr =>
    obtain ⟨mss, hr⟩ := hrepr
    have heq : s.windowSize e.repr = s.windowSize r := windowSize_congr (by rw [hr]) (by rw [hr])
    rw [heq]
    exact hbuilds.windowSize_le
  | keepAlive r hbuilds _ _ _ _ hrepr =>
    obtain ⟨mss, hr⟩ := hrepr
    obtain ⟨hctl, hwin⟩ := keepAliveSegment_window r
    have heq : s.windowSize e.repr = s.windowSize r :=
      windowSize_congr (by simp only [hr, hctl]) (by simp only [hr, hwin])
    rw [heq]
    exact hbuilds.windowSize_le

lemma Timed.rx_eq (h : Timed s cx s') :
    s'.rxBuffer = s.rxBuffer ∧ s'.remoteSeqNo = s.remoteSeqNo ∧
      s'.remoteWinShift = s.remoteWinShift := by
  cases h <;> exact ⟨rfl, rfl, rfl⟩

lemma Sends.winShift_eq {e : Emission} (h : Sends s cx e s') :
    s'.remoteWinShift = s.remoteWinShift := by
  cases h <;> rfl

/-- A segment that ends inside the window, behind its start, is accepted, and nothing is cut off at
its end. -/
lemma span_fits {sp : Span} (hsp : s.span repr = .ok sp)
    (hpos : 0 < dist sp.segmentEnd sp.windowStart)
    (hle : dist sp.segmentEnd sp.windowStart ≤ s.rxBuffer.window) (hne : repr.payload ≠ []) :
    sp.segmentInWindow ∧ sp.overlapEnd = sp.segmentEnd := by
  obtain ⟨hcap, hlen, hws, hwe, hss, hse⟩ := span_eq_ok hsp
  have hwin := s.rxBuffer.len_add_window
  have hpay : 0 < repr.payload.length := List.length_pos_iff.mpr hne
  have hend := shift_dist sp.segmentEnd sp.windowStart
  have hswap := dist_swap (a := sp.segmentEnd) (b := sp.windowStart) (by omega)
  set n := dist sp.segmentEnd sp.windowStart with hn
  have hright : dist sp.segmentEnd sp.windowEnd = n - s.rxBuffer.window := by
    rw [hwe, ← hend, dist_shift_shift_of_lt _ (by omega) (by omega)]
  have hright' : dist sp.windowEnd sp.segmentEnd = s.rxBuffer.window - n := by
    rw [hwe, ← hend, dist_shift_shift_of_lt _ (by omega) (by omega)]
  have hlength : dist sp.segmentEnd sp.segmentStart = repr.payload.length := by
    rw [hse]
    exact SeqNumber.dist_shift_nat hlen
  have hsegment : sp.segmentStart ≠ sp.segmentEnd := by
    intro heq
    rw [heq, dist_self] at hlength
    omega
  have hwindow : sp.windowStart ≠ sp.windowEnd := by
    intro heq
    have hself := SeqNumber.dist_shift_nat (a := sp.windowStart) (n := s.rxBuffer.window) (by omega)
    rw [← hwe, ← heq, dist_self] at hself
    omega
  refine ⟨?_, ?_⟩
  · unfold Span.segmentInWindow
    rw [if_neg hsegment, if_neg hwindow]
    right
    rw [SeqNumber.lt, SeqNumber.le]
    omega
  · unfold Span.overlapEnd SeqNumber.min
    rw [if_neg]
    rw [SeqNumber.lt]
    omega

end Socket

namespace Sys

variable {y y' : Sys} {op : Op} {r : TcpRepr}

/-- No segment advertises more than the receive buffer has room for. -/
lemma windowSize_of_transmits (hstep : Step y op y') (ht : y.transmits op = some r)
    (hack : r.ackNumber ≠ none) : y'.socket.windowSize r ≤ y'.socket.rxBuffer.window := by
  cases Transmitted.of_step hstep ht with
  | reply hs =>
    cases Socket.process_replies hs with
    | ack h =>
      obtain ⟨-, hwin, -, hctl⟩ := Socket.ackReply_repr h
      exact Socket.windowSize_le_of_scaled hwin (by simp only at hctl; simp [hctl])
    | rst hctl h => exact absurd (Socket.rstReply_repr hctl h).1 hack
  | sent hs hsent hr =>
    subst hr
    cases Socket.DispatchRule.of_dispatch hs with
    | failed htuple htimed hsend hemits => exact hemits.windowSize_le
    | sent htuple htimed hsend hemits hsends =>
      have hle := hemits.windowSize_le
      rw [Socket.windowSize] at hle ⊢
      rw [hsends.rx_eq.1, hsends.winShift_eq]
      exact hle

/-- Within a connection the next number expected from the remote only moves forward, and neither
the size of the receive buffer nor the scale changes. -/
lemma receive_side (hbase : y.socket.Base) (hs : StepRule y op y')
    (htuple : y'.socket.tuple ≠ none) (hstate' : y'.socket.state ≠ .synSent)
    (hlisten : y.socket.state ≠ .listen) (hsynSent : y.socket.state ≠ .synSent) :
    ∃ n : ℕ, n < 2 ^ 31 ∧ y'.socket.remoteSeqNo = shift y.socket.remoteSeqNo n ∧
      y'.socket.rxBuffer.capacity = y.socket.rxBuffer.capacity ∧
      y'.socket.remoteWinShift = y.socket.remoteWinShift := by
  have hsame : ∀ {s : Socket}, s.remoteSeqNo = y.socket.remoteSeqNo →
      s.rxBuffer.capacity = y.socket.rxBuffer.capacity →
      s.remoteWinShift = y.socket.remoteWinShift →
      ∃ n : ℕ, n < 2 ^ 31 ∧ s.remoteSeqNo = shift y.socket.remoteSeqNo n ∧
        s.rxBuffer.capacity = y.socket.rxBuffer.capacity ∧
        s.remoteWinShift = y.socket.remoteWinShift :=
    fun hseq hcap hshift => ⟨0, by omega, by simpa using hseq, hcap, hshift⟩
  cases hs with
  | same => exact hsame rfl rfl rfl
  | listen => exact absurd rfl htuple
  | connect => exact absurd rfl hstate'
  | close =>
    obtain ⟨st, heq, -⟩ := y.socket.close_eq
    rw [heq]
    exact hsame rfl rfl rfl
  | abort => exact hsame rfl rfl rfl
  | set x s' hs =>
    obtain ⟨_, _, _, _, _, _, cc, _, timer, -, -, rfl⟩ := Socket.set_eq_ok hs
    exact hsame rfl rfl rfl
  | send op s' data hs =>
    obtain ⟨-, tx, ts, -, -, -, rfl⟩ := hs
    exact hsame rfl rfl rfl
  | recv op s' n hs =>
    obtain ⟨-, rx, hshrinks, -, rfl⟩ := hs
    have hle := hshrinks.le
    have hcap := hbase.capacity
    have hwin := y.socket.rxBuffer.len_add_window
    exact ⟨n, by omega, rfl, hshrinks.capacity, rfl⟩
  | process cx ipRepr repr s' hs =>
    cases hs with
    | quiet hq =>
      obtain ⟨_, _, _, _, _, s₁, -, -, -, rfl, rfl | rfl⟩ := hq <;> exact hsame rfl rfl rfl
    | reset => exact absurd rfl htuple
    | @accepted w ack payload offset s₁ s₂ s₃ _ ha =>
      have hrecv : s'.remoteSeqNo = s₃.remoteSeqNo ∧
          s'.rxBuffer.capacity = s₃.rxBuffer.capacity ∧ s'.remoteWinShift = s₃.remoteWinShift := by
        cases ha.received with
        | dropped => exact ⟨rfl, rfl, rfl⟩
        | stored asm rx n t hpayload hstore => exact ⟨rfl, hstore.capacity, rfl⟩
        | acked asm rx n t hpayload hstore => exact ⟨rfl, hstore.capacity, rfl⟩
      have hrx := ha.rx_eq.1
      obtain ⟨hseq, hcap, hshift⟩ := hrecv
      have ht := ha.transits
      have hacked := ha.acked
      have hst := ha.state_eq
      obtain ⟨_, _, _, -, -, rfl⟩ := ha.noted
      rw [hrx] at hcap
      cases hacked
      cases ht with
      | synListen _ hstate => exact absurd hstate hlisten
      | synSent _ hstate => exact absurd hstate hsynSent
      | moved st hstep =>
        refine ⟨if Socket.effectiveControl repr w = .fin then 1 else 0, by split_ifs <;> omega, ?_,
          hcap, hshift⟩
        simp only [hseq, Socket.moved]
        split_ifs <;> simp
  | dispatch cx emit s' e hs =>
    cases hs with
    | noTuple => exact hsame rfl rfl rfl
    | idle _ htimed =>
      obtain ⟨hrx, hseq, hshift⟩ := htimed.rx_eq
      exact hsame hseq (by rw [hrx]) hshift
    | reset => exact absurd rfl htuple
    | failed _ htimed =>
      obtain ⟨hrx, hseq, hshift⟩ := htimed.rx_eq
      exact hsame hseq (by rw [hrx]) hshift
    | sent _ htimed hsend hemits hsends =>
      obtain ⟨hrx, hseq, hshift⟩ := htimed.rx_eq
      obtain ⟨hrx', hseq', -⟩ := hsends.rx_eq
      exact hsame (hseq'.trans hseq) (by rw [hrx', hrx]) (hsends.winShift_eq.trans hshift)

end Sys

/-! ### The record of windows -/

/-- A window that was advertised: the segment, and the position of its acknowledgement number,
counted from the SYN of the remote on without wrapping. -/
structure Advert where
  pos : ℤ
  repr : TcpRepr

/-- A run with the windows advertised in the current connection. -/
structure Watch where
  sys : Sys
  /-- The position of `remoteSeqNo`. -/
  base : ℤ
  adverts : List Advert

namespace Watch

/-- The right edge of an advertised window. -/
def edge (w : Watch) (ad : Advert) : ℤ := ad.pos + w.sys.socket.windowSize ad.repr

/-- The right edge of the receive window, `window_end` of `process`. -/
def windowEnd (w : Watch) : ℤ := w.base + w.sys.socket.rxBuffer.capacity

/-- Note the segment that a step puts on the wire, if it acknowledges something. -/
def note (base : ℤ) (seqNo : SeqNumber) (r : Option TcpRepr) (adverts : List Advert) :
    List Advert :=
  match r with
  | some r => r.ackNumber.elim adverts fun a => ⟨base + dist a seqNo, r⟩ :: adverts
  | none => adverts

/-- The record after a step. It is empty as long as the remote has sent no SYN, and after the
connection. -/
def next (w : Watch) (op : Op) (y : Sys) : Watch :=
  if y.socket.tuple.isNone ∨ y.socket.state = .synSent then ⟨y, 0, []⟩
  else if w.sys.socket.state = .listen ∨ w.sys.socket.state = .synSent then
    ⟨y, 0, note 0 y.socket.remoteSeqNo (w.sys.transmits op) []⟩
  else
    let base := w.base + dist y.socket.remoteSeqNo w.sys.socket.remoteSeqNo
    ⟨y, base, note base y.socket.remoteSeqNo (w.sys.transmits op) w.adverts⟩

def Initial (w : Watch) : Prop := w.sys.Initial ∧ w.base = 0 ∧ w.adverts = []

def Step (w : Watch) (op : Op) (w' : Watch) : Prop :=
  Sys.Step w.sys op w'.sys ∧ w' = w.next op w'.sys

/-- The states reached from a new socket, with their records. -/
def Reachable (w : Watch) : Prop :=
  ∃ w₀ : Watch, w₀.Initial ∧ Transition.Run Step (fun _ _ => True) w₀ w

variable {w w' : Watch} {op : Op}

lemma next_sys (w : Watch) (op : Op) (y : Sys) : (w.next op y).sys = y := by
  unfold next
  split_ifs <;> rfl

lemma Reachable.sys (h : w.Reachable) : w.sys.Reachable := by
  obtain ⟨w₀, ⟨h₀, -, -⟩, hrun⟩ := h
  induction hrun with
  | refl => exact ⟨_, h₀, .refl⟩
  | tail op _ _ hstep ih => exact ih.trans (.tail op .refl trivial hstep.1)

/-- Every run of a socket has a record. -/
lemma exists_watch {y : Sys} (h : y.Reachable) : ∃ w : Watch, w.Reachable ∧ w.sys = y := by
  obtain ⟨y₀, h₀, hrun⟩ := h
  induction hrun with
  | refl => exact ⟨⟨y₀, 0, []⟩, ⟨_, ⟨h₀, rfl, rfl⟩, .refl⟩, rfl⟩
  | @tail y y' op _ _ hstep ih =>
    obtain ⟨w, ⟨w₀, hw₀, hrun⟩, rfl⟩ := ih
    refine ⟨w.next op y', ⟨w₀, hw₀, .tail op hrun trivial ⟨?_, ?_⟩⟩, w.next_sys op y'⟩
    · rw [next_sys]
      exact hstep
    · rw [next_sys]

/-! ### No window is taken back -/

/-- The windows advertised lie in front of the end of the receive window. -/
structure Honoured (w : Watch) (ad : Advert) : Prop where
  ackNumber : ad.repr.ackNumber = some (shift w.sys.socket.remoteSeqNo (ad.pos - w.base))
  edge_le : w.edge ad ≤ w.windowEnd

lemma Honoured.note {base : ℤ} {adverts : List Advert} {y y' : Sys} (hbase : y'.socket.Base)
    (hstep : Sys.Step y op y') (hold : ∀ ad ∈ adverts, Honoured ⟨y', base, adverts⟩ ad)
    (ad : Advert) (had : ad ∈ note base y'.socket.remoteSeqNo (y.transmits op) adverts) :
    Honoured ⟨y', base, note base y'.socket.remoteSeqNo (y.transmits op) adverts⟩ ad := by
  have hkeep : ad ∈ adverts →
      Honoured ⟨y', base, Watch.note base y'.socket.remoteSeqNo (y.transmits op) adverts⟩ ad :=
    fun h => ⟨(hold ad h).ackNumber, (hold ad h).edge_le⟩
  cases ht : y.transmits op with
  | none =>
    rw [ht] at had
    rw [← ht]
    exact hkeep had
  | some r =>
    rw [ht] at had
    rw [← ht]
    cases hack : r.ackNumber with
    | none =>
      simp only [Watch.note, hack] at had
      exact hkeep had
    | some a =>
      simp only [Watch.note, hack, Option.elim_some, List.mem_cons] at had
      rcases had with rfl | had
      · have ha := Sys.ackNumber_of_transmits hstep ht hack
        have hwin := Sys.windowSize_of_transmits hstep ht (by simp [hack])
        have hlen := y'.socket.rxBuffer.len_add_window
        have hcap := hbase.capacity
        have hd : dist a y'.socket.remoteSeqNo = y'.socket.rxBuffer.len := by
          rw [ha]
          exact SeqNumber.dist_shift_nat (by omega)
        refine ⟨?_, ?_⟩
        · change r.ackNumber = some (shift y'.socket.remoteSeqNo (base + dist a _ - base))
          rw [hd, hack, ha, add_sub_cancel_left]
          rfl
        · simp only [edge, windowEnd, hd]
          omega
      · exact hkeep had

lemma honoured_next (h : ∀ ad ∈ w.adverts, w.Honoured ad) (hreach : w.sys.Reachable) {y : Sys}
    (hstep : Sys.Step w.sys op y) : ∀ ad ∈ (w.next op y).adverts, (w.next op y).Honoured ad := by
  have hbase : y.socket.Base := hreach.base.step (.of_step hstep)
  unfold next
  split_ifs with hnone hsyn
  · simp
  · exact fun ad => Honoured.note hbase hstep (by simp) ad
  · simp only [not_or, Option.isNone_iff_eq_none] at hnone hsyn
    obtain ⟨n, hn, hseq, hcap, hshift⟩ := Sys.receive_side hreach.base (.of_step hstep) hnone.1
      hnone.2 hsyn.1 hsyn.2
    have hd : dist y.socket.remoteSeqNo w.sys.socket.remoteSeqNo = n := by
      rw [hseq]
      exact SeqNumber.dist_shift_nat hn
    refine fun ad => Honoured.note hbase hstep (fun ad had => ?_) ad
    obtain ⟨hack, hedge⟩ := h ad had
    refine ⟨?_, ?_⟩
    · change ad.repr.ackNumber = some (shift y.socket.remoteSeqNo (ad.pos - (w.base + dist _ _)))
      rw [hd, hack, hseq, shift_shift]
      congr 2
      omega
    · simp only [edge, windowEnd, hd, Socket.windowSize, hshift, hcap] at hedge ⊢
      omega

lemma Reachable.honoured (h : w.Reachable) : ∀ ad ∈ w.adverts, w.Honoured ad := by
  obtain ⟨w₀, hw₀, hrun⟩ := h
  refine hrun.invariant_of (I := fun w => ∀ ad ∈ w.adverts, w.Honoured ad) (J := Reachable)
    (fun t ht => ⟨w₀, hw₀, ht⟩) ?_ ?_
  · intro t op u hreach hI _ hstep
    rw [hstep.2]
    exact honoured_next hI hreach.sys hstep.1
  · rw [hw₀.2.2]
    simp

/-- In every state of a socket, there is a record of what it has advertised in the connection, and
it honours all of it. -/
theorem exists_honoured {y : Sys} (h : y.Reachable) :
    ∃ w : Watch, w.Reachable ∧ w.sys = y ∧ ∀ ad ∈ w.adverts, w.Honoured ad := by
  obtain ⟨w, hw, hsys⟩ := exists_watch h
  exact ⟨w, hw, hsys, hw.honoured⟩

/-- In every run, a window that was advertised in the connection ends at or before the end of the
receive window. An octet inside it passes the right-edge test of `process`; a segment with new
octets that ends inside it is accepted, and nothing is cut off at its end. -/
theorem advertised_honoured (h : w.Reachable) {ad : Advert} (had : ad ∈ w.adverts) :
    ad.repr.ackNumber = some (shift w.sys.socket.remoteSeqNo (ad.pos - w.base)) ∧
      w.edge ad ≤ w.windowEnd ∧
      (∀ octet : SeqNumber,
        (w.sys.socket.rxBuffer.capacity : ℤ) - 2 ^ 31 ≤ dist octet w.sys.socket.remoteSeqNo →
        w.base + dist octet w.sys.socket.remoteSeqNo < w.edge ad →
        octet.lt (shift w.sys.socket.remoteSeqNo w.sys.socket.rxBuffer.capacity)) ∧
      ∀ repr sp, w.sys.socket.span repr = .ok sp → repr.payload ≠ [] →
        0 < dist sp.segmentEnd sp.windowStart →
        w.base + w.sys.socket.rxBuffer.len + dist sp.segmentEnd sp.windowStart ≤ w.edge ad →
        sp.segmentInWindow ∧ sp.overlapEnd = sp.segmentEnd := by
  obtain ⟨hack, hedge⟩ := h.honoured ad had
  have hcap := h.sys.base.capacity
  refine ⟨hack, hedge, ?_, ?_⟩
  · intro octet hge hlt
    have hoctet := shift_dist octet w.sys.socket.remoteSeqNo
    unfold windowEnd at hedge
    set d := dist octet w.sys.socket.remoteSeqNo
    rw [SeqNumber.lt, ← hoctet, dist_shift_shift_of_lt _ (by omega) (by omega)]
    omega
  · intro repr sp hsp hne hpos hle
    have hwin := w.sys.socket.rxBuffer.len_add_window
    refine Socket.span_fits hsp hpos ?_ hne
    unfold windowEnd at hedge
    omega

/-! ### A sample -/

/-- Run the operations in order. `none` if one panics. -/
def exec (w : Watch) : List Op → Option Watch
  | [] => some w
  | op :: ops => (w.sys.step op).toOption.bind fun y => exec (w.next op y) ops

lemma run_of_exec {ops : List Op} (h : w.exec ops = some w') :
    Transition.Run Step (fun _ _ => True) w w' := by
  induction ops generalizing w with
  | nil =>
    cases h
    exact .refl
  | cons op ops ih =>
    obtain ⟨y, hy, h⟩ := Option.bind_eq_some_iff.mp h
    have hstep : Step w op (w.next op y) := by
      refine ⟨?_, ?_⟩ <;> rw [next_sys]
      exact Sys.step_of_toOption hy
    exact .head trivial hstep (ih h)

/-- The SYN|ACK advertises 8 octets. After 5 have arrived and 3 are read, the window still ends
behind what was advertised. -/
theorem advertised_honoured_read : ∃ w : Watch, w.Reachable ∧ ∃ ad ∈ w.adverts,
    ad.repr.control = .syn ∧ w.edge ad = 8 ∧ w.base = 3 ∧ w.windowEnd = 11 ∧
    w.edge ad ≤ w.windowEnd := by
  have hrun : ((Sys.start Sample.config (Sample.buffer 8) (Sample.buffer 8)).bind fun y =>
      (Watch.mk y 0 []).exec
        [.listen ⟨none, 80⟩, Sample.process 0 (Sample.segment .syn 99 none 256 []),
          Sample.dispatch 0,
          Sample.process 0 (Sample.segment .none 100 (some 10001) 256 [1, 2, 3, 4, 5]),
          .recvSlice 3]).any (fun w =>
            w.adverts.any (fun ad => ad.repr.control = .syn ∧ w.edge ad = 8) ∧
              w.base = 3 ∧ w.windowEnd = 11) = true := by
    decide
  obtain ⟨w, hw, hP⟩ := (Option.any_eq_true _ _).mp hrun
  obtain ⟨y, hy, hexec⟩ := Option.bind_eq_some_iff.mp hw
  obtain ⟨hany, hbase, hend⟩ := of_decide_eq_true hP
  obtain ⟨ad, had, hsyn⟩ := List.any_eq_true.mp hany
  obtain ⟨hctl, hedge⟩ := of_decide_eq_true hsyn
  have hreach : w.Reachable := ⟨_, ⟨Sys.initial_of_start hy, rfl, rfl⟩, run_of_exec hexec⟩
  exact ⟨w, hreach, ad, had, hctl, hedge, hbase, hend, (advertised_honoured hreach had).2.1⟩

end Watch

end Smoltcp.Tcp
