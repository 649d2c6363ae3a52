import Smoltcp.Socket.Tcp.Process

/-!
# Emitting segments

`dispatch` first acts on expired timers, decides whether there is a reason to send, builds the
segment, hands it to `emit` and, where that succeeds, updates the socket. `pollAt` repeats the
decision to tell when `dispatch` should be called next.
-/

namespace Smoltcp.Tcp

open Serial

/-- A segment handed to `emit`, and whether `emit` took it. -/
structure Emission where
  ipRepr : IpRepr
  repr : TcpRepr
  isKeepAlive : Bool
  isZeroWindowProbe : Bool
  sent : Bool

namespace Socket

variable (s : Socket) (cx : Context)

/-! ### The decision -/

def timedOut (timestamp : Instant) : Prop :=
  match s.remoteLastTs, s.timeout with
  | some remoteLastTs, some timeout => remoteLastTs.add timeout ≤ timestamp
  | _, _ => False

instance (timestamp : Instant) : Decidable (s.timedOut timestamp) :=
  match hr : s.remoteLastTs, ht : s.timeout with
  | some remoteLastTs, some timeout =>
    decidable_of_iff (remoteLastTs.add timeout ≤ timestamp) (by simp [timedOut, hr, ht])
  | none, _ => .isFalse (by simp [timedOut, hr])
  | some _, none => .isFalse (by simp [timedOut, ht])

/-- Data has been sent that is not acknowledged. -/
def dataInFlight : Prop := s.remoteLastSeq ≠ s.localSeqNo

instance : Decidable s.dataInFlight := inferInstanceAs (Decidable (_ ≠ _))

def wantFin : Prop := s.state = .finWait1 ∨ s.state = .closing ∨ s.state = .lastAck

instance : Decidable s.wantFin := inferInstanceAs (Decidable (_ ∨ _ ∨ _))

/-- The octets from the last one sent up to `edge`, none if the remote has shrunk its window. -/
def roomTo (edge : SeqNumber) : Checked ℕ :=
  if edge.ge s.remoteLastSeq then edge.sub s.remoteLastSeq else .ok 0

/-- The octets that both windows still allow to send. -/
def maxSend : Checked ℕ := do
  let maxSendSeq ← s.localSeqNo.add (min s.remoteWinLen s.txBuffer.len)
  let maxSend ← s.roomTo maxSendSeq
  return min maxSend s.congestionController.window

/-- The maximum segment size that the MTU and the IP header leave. -/
def localMss (ipHeaderLen : ℕ) : Checked ℕ := do
  let rest ← Checked.sub cx.ipMtu ipHeaderLen
  Checked.sub rest tcpHeaderLen

/-- Nothing is left to send but the FIN. -/
def canFin : Checked Bool :=
  if s.wantFin then do
    let finSeq ← s.localSeqNo.add s.txBuffer.len
    return decide (s.remoteLastSeq = finSeq)
  else return false

def seqToTransmit : Checked Bool := do
  let tuple ← Checked.unwrap s.tuple
  let localMss ← localMss cx (IpRepr.headerLenOf tuple.localEnd.addr)
  let effectiveMss := min localMss s.remoteMss
  if (s.state = .synSent ∨ s.state = .synReceived) ∧ ¬ s.dataInFlight then return true
  else
    let maxSend ← s.maxSend
    let canSendFull := effectiveMss ≤ maxSend
    let canSend :=
      if s.nagle ∧ s.dataInFlight ∧ ¬ canSendFull ∧ ¬ s.wantFin then False else maxSend ≠ 0
    let canFin ← s.canFin
    return decide (canSend ∨ canFin = true)

def delayedAckExpired (timestamp : Instant) : Prop :=
  match s.ackDelayTimer with
  | .idle => True
  | .waiting t => t ≤ timestamp
  | .immediate => True

instance (timestamp : Instant) : Decidable (s.delayedAckExpired timestamp) :=
  match h : s.ackDelayTimer with
  | .idle => .isTrue (by simp [delayedAckExpired, h])
  | .waiting t => decidable_of_iff (t ≤ timestamp) (by simp [delayedAckExpired, h])
  | .immediate => .isTrue (by simp [delayedAckExpired, h])

/-- The window has at least doubled since it was last advertised. -/
def windowToUpdate : Checked Bool :=
  match s.state with
  | .synSent | .synReceived | .established | .finWait1 | .finWait2 => do
    match ← s.lastScaledWindow with
    | some lastWin => return decide (0 < s.scaledWindow ∧ lastWin ≤ s.scaledWindow / 2)
    | none => return false
  | _ => .ok false

/-! ### Timers -/

/-- The first calls of `dispatch`: start counting the timeout, and inform the congestion
controller. -/
def touch : Socket :=
  { s with
    remoteLastTs := some (s.remoteLastTs.getD cx.now)
    congestionController := s.congestionController.preTransmit cx.now }

/-- Resend from the last acknowledgement on. -/
def rewind : Socket :=
  { s with
    remoteLastSeq := s.localSeqNo
    timer := .setForIdle cx.now s.keepAlive
    rtte := s.rtte.onRetransmit
    congestionController := s.congestionController.onRetransmit cx.now }

/-- Change the state because of a timer. -/
def checkTimers : Checked Socket :=
  if s.timedOut cx.now then .ok (s.setState .closed)
  else do
    let seqToTransmit ← s.seqToTransmit cx
    if ¬ seqToTransmit ∧ s.timer.shouldRetransmit cx.now then return s.rewind cx else return s

/-- What a call of `dispatch` comes to. -/
inductive Decision where
  | send
  | close
  | nothing
  deriving DecidableEq, Repr

/-- Decide whether a packet is sent. -/
def decision : Checked Decision := do
  if ← s.seqToTransmit cx then return .send
  else
    if (← s.ackToTransmit) ∧ s.delayedAckExpired cx.now then return .send
    else
      if ← s.windowToUpdate then return .send
      else if s.state = .closed then return .send
      else if s.timer.shouldKeepAlive cx.now then return .send
      else if s.timer.shouldZeroWindowProbe cx.now then return .send
      else if s.timer.shouldClose cx.now then return .close
      else return .nothing

/-! ### The segment -/

/-- The empty ACK every segment is made from. -/
def emptyAck (tuple : Tuple) (ackNumber : SeqNumber) : TcpRepr where
  srcPort := tuple.localEnd.port
  dstPort := tuple.remoteEnd.port
  control := .none
  seqNumber := s.remoteLastSeq
  ackNumber := some ackNumber
  windowLen := s.scaledWindow
  windowScale := none
  maxSegSize := none
  sackPermitted := false
  sackRanges := .replicate 3 none
  timestamp := TcpTimestampRepr.generateReplyWithTsval cx.clock s.tsvalGenerator s.lastRemoteTsval
  payload := []

/-- A SYN in SYN-SENT and a SYN|ACK in SYN-RECEIVED. The window is not scaled. -/
def synSegment (repr : TcpRepr) : TcpRepr :=
  let repr := { repr with
    control := .syn
    seqNumber := s.localSeqNo
    windowLen := u16OrMax s.rxBuffer.window }
  if s.state = .synSent then
    { repr with ackNumber := none, windowScale := some s.remoteWinShift, sackPermitted := true }
  else
    { repr with
      sackPermitted := s.remoteHasSack
      windowScale := s.remoteWinScale.map fun _ => s.remoteWinShift }

/-- The flag of a segment that carries `size` octets from `offset` on: it is set on the last. -/
def dataControl (offset : ℕ) (payload : List UInt8) : TcpControl :=
  if offset + payload.length = s.txBuffer.len then
    match s.state with
    | .finWait1 | .lastAck | .closing => .fin
    | .established | .closeWait => if payload = [] then .none else .psh
    | _ => .none
  else .none

/-- A segment with as much data as fits. A zero-window probe is given one octet. -/
def dataSegment (mss : Checked ℕ) (repr : TcpRepr) : Checked (TcpRepr × Bool) := do
  let winRightEdge ← s.localSeqNo.add s.remoteWinLen
  let winLimit ← s.roomTo winRightEdge
  let isZeroWindowProbe := winLimit = 0 ∧ s.timer.shouldZeroWindowProbe cx.now
  let winLimit := if isZeroWindowProbe then 1 else winLimit
  let size := min (min winLimit s.remoteMss) (← mss)
  let offset ← s.remoteLastSeq.sub s.localSeqNo
  let payload := s.txBuffer.getAllocated offset size
  return ({ repr with payload := payload, control := s.dataControl offset payload },
    decide isZeroWindowProbe)

/-- The segment for the state, `none` in LISTEN, and whether it is a zero-window probe. -/
def stateSegment (mss : Checked ℕ) (repr : TcpRepr) : Checked (Option (TcpRepr × Bool)) :=
  match s.state with
  | .closed => .ok (some ({ repr with control := .rst }, false))
  | .listen => .ok none
  | .synSent | .synReceived => .ok (some (s.synSegment repr, false))
  | .established | .finWait1 | .closing | .closeWait | .lastAck => do
    return some (← s.dataSegment cx mss repr)
  | .finWait2 | .timeWait => .ok (some (repr, false))

/-- A keep-alive repeats the octet before the next one, with a dummy value. -/
def keepAliveSegment (repr : TcpRepr) : TcpRepr :=
  { repr with seqNumber := shift repr.seqNumber (-1), payload := [0] }

/-- The maximum segment size option, which a SYN carries. -/
def synMss (mss : Checked ℕ) (repr : TcpRepr) : Checked (Option UInt16) :=
  if repr.control = .syn then do return some (.ofNat (← mss)) else .ok repr.maxSegSize

/-- The packet to emit. `none` in LISTEN. -/
def segment : Checked (Option Emission) := do
  let tuple ← Checked.unwrap s.tuple
  let ipRepr ← IpRepr.new tuple.localEnd.addr tuple.remoteEnd.addr .tcp 0 (s.hopLimit.getD 64)
  let ackNumber ← s.remoteSeqNo.add s.rxBuffer.len
  let mss := localMss cx ipRepr.headerLen
  match ← s.stateSegment cx mss (s.emptyAck cx tuple ackNumber) with
  | none => return none
  | some (repr, isZeroWindowProbe) =>
    let isKeepAlive := s.timer.shouldKeepAlive cx.now ∧ repr.isEmpty
    let repr := if isKeepAlive then keepAliveSegment repr else repr
    let repr := { repr with maxSegSize := ← synMss mss repr }
    return some {
      ipRepr := ipRepr.setPayloadLen repr.bufferLen
      repr := repr
      isKeepAlive := decide isKeepAlive
      isZeroWindowProbe := isZeroWindowProbe
      sent := false }

/-! ### After the emission -/

/-- A packet was sent: rewind the keep-alive timer and stop the delayed-ACK timer. -/
def noteEmit : Socket :=
  { s with timer := s.timer.rewindKeepAlive cx.now s.keepAlive, ackDelayTimer := .idle }

/-- Every segment that occupies sequence space is timed, and starts the retransmission timer if
that is not running. -/
def noteData (repr : TcpRepr) (endSeq : SeqNumber) : Socket :=
  let rtte := if 0 < repr.segmentLen then s.rtte.onSend cx.now endSeq else s.rtte
  { s with
    rtte := rtte
    timer :=
      if 0 < repr.segmentLen ∧ ¬ s.timer.isRetransmit then
        s.timer.setForRetransmit cx.now rtte.retransmissionTimeout
      else s.timer }

/-- After an RST the connection is forgotten. -/
def forget : Socket := { s with tuple := if s.state = .closed then none else s.tuple }

def afterEmit (e : Emission) : Checked Socket :=
  let s := s.noteEmit cx
  if e.isZeroWindowProbe then .ok { s with timer := s.timer.rewindZeroWindowProbe cx.now }
  else if e.isKeepAlive then .ok s
  else do
    let endSeq ← e.repr.seqNumber.add e.repr.segmentLen
    let s := { s with
      remoteLastSeq := endSeq
      remoteLastAck := e.repr.ackNumber
      remoteLastWin := e.repr.windowLen }
    return (s.noteData cx e.repr endSeq).forget

/-! ### The whole -/

/-- Build a packet, hand it to `emit`, and update the socket if that succeeds. -/
def emitSegment (emit : IpRepr → TcpRepr → Bool) : Checked (Socket × Option Emission) := do
  match ← s.segment cx with
  | none => return (s, none)
  | some e =>
    if emit e.ipRepr e.repr then return (← s.afterEmit cx e, some { e with sent := true })
    else return (s, some e)

def dispatch (emit : IpRepr → TcpRepr → Bool) : Checked (Socket × Option Emission) :=
  if s.tuple = none then .ok (s, none)
  else do
    let s ← (s.touch cx).checkTimers cx
    if s.state = .synReceived ∧ s.synackPaused then return (s, none)
    else
      match ← s.decision cx with
      | .send => s.emitSegment cx emit
      | .close => return (s.reset, none)
      | .nothing => return (s, none)

/-- When the delayed acknowledgement is due. -/
def delayedAckPollAt (wantAck : Bool) : PollAt :=
  match wantAck, s.ackDelayTimer with
  | false, _ => .ingress
  | true, .idle => .now
  | true, .waiting t => .time t
  | true, .immediate => .now

/-- When the connection times out. -/
def timeoutPollAt : PollAt :=
  match s.remoteLastTs, s.timeout with
  | some remoteLastTs, some timeout => .time (remoteLastTs.add timeout)
  | _, _ => .ingress

def pollAt : Checked PollAt :=
  if s.tuple = none then .ok .ingress
  else if s.remoteLastTs = none then .ok .now
  else if s.state = .closed then .ok .now
  else do
    if ← s.seqToTransmit cx then return .now
    else
      if ← s.windowToUpdate then return .now
      else
        let wantAck ← s.ackToTransmit
        return (s.timer.pollAt.min s.timeoutPollAt).min (s.delayedAckPollAt wantAck)

end Socket

end Smoltcp.Tcp
