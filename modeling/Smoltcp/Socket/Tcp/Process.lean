import Smoltcp.Socket.Tcp.Api

/-!
# Processing a segment

`process` is cut into the stages of the source, in its order: the acknowledgement number is
checked, the payload is cut to the receive window, the acknowledged octets are counted, the state
changes, the send side and its timers follow, and the payload goes to the assembler and the
receive buffer. A stage that may return early yields a `Flow`.
-/

namespace Smoltcp.Tcp

open Serial

/-- A segment with its IP header. -/
abbrev Packet := IpRepr × TcpRepr

/-- The outcome of a stage: `process` returns here, or goes on with a value. -/
inductive Flow (α : Type) where
  | ret (s : Socket) (reply : Option Packet)
  | next (s : Socket) (a : α)

namespace Socket

/-! ### Replies -/

def reply (ipRepr : IpRepr) (repr : TcpRepr) : Checked Packet := do
  let replyRepr : TcpRepr :=
    { srcPort := repr.dstPort
      dstPort := repr.srcPort
      control := .none
      seqNumber := 0
      ackNumber := none
      windowLen := 0
      windowScale := none
      maxSegSize := none
      sackPermitted := false
      sackRanges := .replicate 3 none
      timestamp := none
      payload := [] }
  let ipReplyRepr ← IpRepr.new ipRepr.dstAddr ipRepr.srcAddr .tcp replyRepr.bufferLen 64
  return (ipReplyRepr, replyRepr)

/-- An RST acknowledges a SYN that carries no acknowledgement itself. -/
def rstAckNumber (repr : TcpRepr) : Checked (Option SeqNumber) :=
  if repr.control = .syn ∧ repr.ackNumber = none then do
    return some (← repr.seqNumber.add repr.segmentLen)
  else .ok none

def rstReply (ipRepr : IpRepr) (repr : TcpRepr) : Checked Packet := do
  Checked.assert (repr.control ≠ .rst)
  let (ipReplyRepr, replyRepr) ← reply ipRepr repr
  let ackNumber ← rstAckNumber repr
  return (ipReplyRepr,
    { replyRepr with control := .rst, seqNumber := repr.ackNumber.getD 0, ackNumber := ackNumber })

variable (s : Socket) (cx : Context) (ipRepr : IpRepr) (repr : TcpRepr)

/-- The selective acknowledgement for the segment that arrived last, or else the first range. -/
def sackRange (ackNumber : SeqNumber) : Option (UInt32 × UInt32) :=
  let ranges := (s.assembler.iterData (ackNumber.signExtend 64).toNat).map fun r =>
    (UInt32.ofNat r.1, UInt32.ofNat r.2)
  let found := s.localRxLastSeq.bind fun lastSegSeq =>
    ranges.find? fun r => r.1 ≤ .ofBitVec lastSegSeq ∧ .ofBitVec lastSegSeq ≤ r.2
  found.or ranges.head?

def ackReply : Checked (Socket × Packet) := do
  let (ipReplyRepr, replyRepr) ← reply ipRepr repr
  let ackNumber ← s.remoteSeqNo.add s.rxBuffer.len
  let replyRepr := { replyRepr with
    timestamp := repr.timestamp.bind fun ts => ts.generateReply cx.clock s.tsvalGenerator
    seqNumber := s.remoteLastSeq
    ackNumber := some ackNumber
    windowLen := s.scaledWindow
    sackRanges :=
      if s.remoteHasSack then replyRepr.sackRanges.set 0 (s.sackRange ackNumber) (Nat.succ_pos 2)
      else replyRepr.sackRanges }
  let s := { s with remoteLastAck := some ackNumber, remoteLastWin := s.scaledWindow }
  return (s, ipReplyRepr.setPayloadLen replyRepr.bufferLen, replyRepr)

/-- An acknowledgement at most once a second. -/
def challengeAckReply : Checked (Socket × Option Packet) :=
  if cx.now < s.challengeAckTimer then .ok (s, none)
  else do
    let s := { s with challengeAckTimer := cx.now.add (.fromSecs 1) }
    let (s, packet) ← s.ackReply cx ipRepr repr
    return (s, some packet)

/-- The segment is addressed to this socket: it matches the 4-tuple, or else the endpoint the
socket listens on. -/
def addressed (endpoint : IpListenEndpoint) : Option Tuple → Prop
  | some tuple =>
    ipRepr.dstAddr = tuple.localEnd.addr ∧ repr.dstPort = tuple.localEnd.port ∧
      ipRepr.srcAddr = tuple.remoteEnd.addr ∧ repr.srcPort = tuple.remoteEnd.port
  | none =>
    endpoint.addr.all (fun addr => ipRepr.dstAddr = addr) ∧
      repr.dstPort ≠ 0 ∧ repr.dstPort = endpoint.port

instance (endpoint : IpListenEndpoint) :
    (tuple : Option Tuple) → Decidable (addressed ipRepr repr endpoint tuple)
  | some _ => inferInstanceAs (Decidable (_ ∧ _ ∧ _ ∧ _))
  | none => inferInstanceAs (Decidable (_ ∧ _ ∧ _))

def accepts : Prop :=
  s.state ≠ .closed ∧
  ¬ (s.state = .listen ∧ (repr.ackNumber.isSome ∨ repr.control = .rst)) ∧
  addressed ipRepr repr s.listenEndpoint s.tuple

instance : Decidable (s.accepts ipRepr repr) := inferInstanceAs (Decidable (_ ∧ _ ∧ _))

/-! ### Acknowledgement number -/

def sentSyn : Bool := s.state = .synSent ∨ s.state = .synReceived

def sentFin : Bool := s.state = .finWait1 ∨ s.state = .lastAck ∨ s.state = .closing

def controlLen : ℕ := s.sentSyn.toNat + s.sentFin.toNat

/-- The check of an acknowledgement against the octets that are unacknowledged. -/
def checkAckRange (ackNumber : SeqNumber) : Checked (Flow Unit) := do
  let unacknowledged := s.txBuffer.len + s.controlLen
  let ackMin := if s.sentSyn then shift s.localSeqNo 1 else s.localSeqNo
  let ackMax ← s.localSeqNo.add unacknowledged
  if ackNumber.lt ackMin then return .ret s none
  else if ackNumber.gt ackMax then
    let (s, packet) ← s.challengeAckReply cx ipRepr repr
    return .ret s packet
  else return .next s ()

/-- The check for the exact acknowledgement of our SYN. Any other is answered with an RST. -/
def checkAckOfSyn (ackNumber : SeqNumber) : Checked (Flow Unit) :=
  if ackNumber ≠ shift s.localSeqNo 1 then do return .ret s (some (← rstReply ipRepr repr))
  else .ok (.next s ())

/-- The check in SYN-SENT of a segment that is no RST. An ACK without a SYN is ignored if its
number is right. -/
def checkAckSynSent : Checked (Flow Unit) :=
  match repr.control with
  | .syn => repr.ackNumber.elim (.ok (.next s ())) (s.checkAckOfSyn ipRepr repr)
  | .none =>
    if repr.ackNumber.all (· = shift s.localSeqNo 1) then .ok (.ret s none)
    else do return .ret s (some (← rstReply ipRepr repr))
  | _ => .ok (.ret s none)

/-- The check of a segment that is no RST. -/
def checkAckNumber : Checked (Flow Unit) :=
  match s.state with
  | .listen => if repr.ackNumber.isSome then .error .unreachable else .ok (.next s ())
  | .synSent => s.checkAckSynSent ipRepr repr
  | .synReceived => repr.ackNumber.elim (.ok (.ret s none)) (s.checkAckOfSyn ipRepr repr)
  | _ => repr.ackNumber.elim (.ok (.ret s none)) (s.checkAckRange cx ipRepr repr)

/-- Reject unacceptable acknowledgements. An RST need only acknowledge our SYN in SYN-SENT. -/
def checkAck : Checked (Flow Unit) :=
  if repr.control = .rst then
    if s.state = .synSent ∧ repr.ackNumber ≠ some (shift s.localSeqNo 1) then .ok (.ret s none)
    else .ok (.next s ())
  else s.checkAckNumber cx ipRepr repr

/-! ### Receive window -/

/-- The receive window and the payload of a segment, as ranges of sequence numbers. -/
structure Span where
  windowStart : SeqNumber
  windowEnd : SeqNumber
  segmentStart : SeqNumber
  segmentEnd : SeqNumber

def span : Checked Span := do
  return {
    windowStart := ← s.remoteSeqNo.add s.rxBuffer.len
    windowEnd := ← s.remoteSeqNo.add s.rxBuffer.capacity
    segmentStart := repr.seqNumber
    segmentEnd := ← repr.seqNumber.add repr.payload.length }

namespace Span

/-- The segment acceptability test. -/
def segmentInWindow (w : Span) : Prop :=
  if w.segmentStart = w.segmentEnd then
    if w.segmentEnd = shift w.windowStart (-1) then False
    else if w.windowStart = w.windowEnd then w.windowStart = w.segmentStart
    else w.windowStart.le w.segmentStart ∧ w.segmentStart.lt w.windowEnd
  else if w.windowStart = w.windowEnd then False
  else
    (w.windowStart.le w.segmentStart ∧ w.segmentStart.lt w.windowEnd) ∨
      (w.windowStart.lt w.segmentEnd ∧ w.segmentEnd.le w.windowEnd)

instance (w : Span) : Decidable w.segmentInWindow := inferInstanceAs (Decidable (ite _ _ _))

def overlapStart (w : Span) : SeqNumber := w.windowStart.max w.segmentStart

def overlapEnd (w : Span) : SeqNumber := w.windowEnd.min w.segmentEnd

end Span

/-- A segment outside the window is answered with an acknowledgement. In TIME-WAIT the timeout
starts again, since the remote may not have realized that the connection is closed. -/
def rejectSegment : Checked (Socket × Option Packet) :=
  let s := if s.state = .timeWait then { s with timer := .setForClose cx.now } else s
  s.challengeAckReply cx ipRepr repr

/-- The part of the payload inside the window, with its offset from the window's start. -/
def trimPayload (w : Span) : Checked (Flow (List UInt8 × ℕ)) :=
  match s.state with
  | .listen | .synSent => .ok (.next s ([], 0))
  | _ =>
    if w.segmentInWindow then do
      Checked.assert (w.overlapStart.le w.overlapEnd)
      let a ← w.overlapStart.sub w.segmentStart
      let b ← w.overlapEnd.sub w.segmentStart
      let payload ← Checked.slice repr.payload a b
      let payloadOffset ← w.overlapStart.sub w.windowStart
      return .next { s with localRxLastSeq := some repr.seqNumber } (payload, payloadOffset)
    else do
      let (s, packet) ← s.rejectSegment cx ipRepr repr
      return .ret s packet

/-! ### Acknowledged octets -/

/-- What a segment acknowledges: the octets of the transmit buffer, whether our FIN, and whether
all that was sent. -/
structure AckInfo where
  ackLen : ℕ := 0
  ackOfFin : Bool := false
  ackAll : Bool := false

/-- The acknowledged octets, with SYN and FIN removed from the sequence space. -/
def ackInfo : Checked AckInfo :=
  if repr.control = .rst then .ok {}
  else
    match repr.ackNumber with
    | none => .ok {}
    | some ackNumber => do
      let txBufferStartSeq := if s.sentSyn then shift s.localSeqNo 1 else s.localSeqNo
      if ackNumber.ge txBufferStartSeq then
        let ackLen ← ackNumber.sub txBufferStartSeq
        let ackOfFin := s.sentFin ∧ s.txBuffer.len + 1 = ackLen
        return {
          ackLen := if ackOfFin then ackLen - 1 else ackLen
          ackOfFin := ackOfFin
          ackAll := s.remoteLastSeq.le ackNumber }
      else return {}

/-- Inform the estimator and the congestion controller of an acknowledgement. -/
def noteAck (ackLen : ℕ) : Socket :=
  if repr.control = .rst then s
  else
    match repr.ackNumber with
    | none => s
    | some ackNumber =>
      { s with
        rtte := s.rtte.onAck cx.now ackNumber
        congestionController := s.congestionController.onAck ackLen }

/-! ### State -/

/-- The control flag that is acted on: PSH is none, and so is a FIN behind a hole. -/
def effectiveControl (w : Span) : TcpControl :=
  let control := repr.control.quashPsh
  if control = .fin ∧ w.windowStart.lt w.segmentStart then .none else control

/-- An RST. -/
def processRst : Flow Unit :=
  if s.state = .listen then .ret s none
  else if s.state = .synReceived ∧ s.listenEndpoint.port ≠ 0 then
    .ret { s with tuple := none, state := .listen } none
  else .ret { s with tuple := none, state := .closed } none

/-- The options of a SYN: the maximum segment size, if given, and what the remote supports. What it
does not is switched off. -/
def setRemoteOptions : Socket :=
  { s with
    remoteMss := repr.maxSegSize.elim s.remoteMss UInt16.toNat
    congestionController := repr.maxSegSize.elim s.congestionController fun mss =>
      s.congestionController.setMss mss.toNat
    remoteHasSack := repr.sackPermitted
    remoteWinScale := repr.windowScale
    remoteWinShift := if repr.windowScale.isNone then 0 else s.remoteWinShift
    tsvalGenerator := if repr.timestamp.isNone then none else s.tsvalGenerator }

/-- A SYN in LISTEN. -/
def synListen : Socket :=
  { s.setRemoteOptions repr with
    tuple := some ⟨⟨ipRepr.dstAddr, repr.dstPort⟩, ⟨ipRepr.srcAddr, repr.srcPort⟩⟩
    localSeqNo := cx.rand
    remoteSeqNo := shift repr.seqNumber 1
    remoteLastSeq := cx.rand
    state := .synReceived
    timer := .setForIdle cx.now s.keepAlive }

/-- A SYN in SYN-SENT, with an acknowledgement or, in a simultaneous open, without. -/
def synSynSent : Socket :=
  { s.setRemoteOptions repr with
    remoteSeqNo := shift repr.seqNumber 1
    remoteLastSeq := shift s.localSeqNo 1
    remoteLastAck := some repr.seqNumber
    state := if repr.ackNumber.isSome then .established else .synReceived }

/-- A SYN. One with a zero maximum segment size is ignored. -/
def processSyn : Flow Unit :=
  if repr.maxSegSize = some 0 then .ret s none
  else
    match s.state with
    | .listen => .next (s.synListen cx ipRepr repr) ()
    | .synSent => .next (s.synSynSent repr) ()
    | _ => .ret s none

/-- The remote has closed its half. -/
def finReceived (state : State) : Socket :=
  { s with remoteSeqNo := shift s.remoteSeqNo 1, rxFinReceived := true, state := state }

/-- Enter TIME-WAIT. -/
def enterTimeWait : Socket := { s with state := .timeWait, timer := .setForClose cx.now }

def processFin (ackOfFin : Bool) : Flow Unit :=
  match s.state with
  | .synReceived | .established => .next (s.finReceived .closeWait) ()
  | .finWait1 =>
    if ackOfFin then .next ((s.finReceived .finWait1).enterTimeWait cx) ()
    else .next (s.finReceived .closing) ()
  | .finWait2 => .next ((s.finReceived .finWait2).enterTimeWait cx) ()
  | _ => .ret s none

/-- A segment without a control flag. -/
def processNone (ackOfFin : Bool) : Flow Unit :=
  match s.state with
  | .synReceived => .next (s.setState .established) ()
  | .established | .finWait2 | .closeWait => .next s ()
  | .finWait1 => if ackOfFin then .next (s.setState .finWait2) () else .next s ()
  | .closing => if ackOfFin then .next (s.enterTimeWait cx) () else .next s ()
  | .lastAck =>
    if ackOfFin then .next { s with state := .closed, tuple := none } () else .next s ()
  | _ => .ret s none

/-- Validate and update the state. -/
def transition (control : TcpControl) (ackOfFin : Bool) : Flow Unit :=
  match control with
  | .rst => s.processRst
  | .syn => s.processSyn cx ipRepr repr
  | .fin => s.processFin cx ackOfFin
  | .none => s.processNone cx ackOfFin
  | .psh => .ret s none

/-! ### Send side -/

/-- The window the segment advertises. The field of a SYN is not scaled. -/
def newRemoteWinLen : ℕ :=
  let scale := if repr.control = .syn then 0 else s.remoteWinScale.getD 0
  shl repr.windowLen.toNat scale

def updateWindow (newRemoteWinLen : ℕ) : Socket :=
  { s with
    remoteLastTs := some cx.now
    remoteWinLen := newRemoteWinLen
    congestionController := s.congestionController.setRemoteWindow newRemoteWinLen }

/-- Drop acknowledged octets from the transmit buffer. -/
def dequeueAcked (ackLen : ℕ) : Checked Socket :=
  if 0 < ackLen then do
    Checked.assert (ackLen ≤ s.txBuffer.len)
    return { s with txBuffer := ← s.txBuffer.dequeueAllocated ackLen }
  else .ok s

/-- The acknowledgement repeats the last one and carries nothing else. -/
def isDuplicateAck (ackNumber : SeqNumber) (isWindowUpdate : Bool) : Prop :=
  s.localRxLastAck = some ackNumber ∧ repr.payload = [] ∧ ackNumber.lt s.remoteLastSeq ∧
    ¬ isWindowUpdate

instance (ackNumber : SeqNumber) (isWindowUpdate : Bool) :
    Decidable (s.isDuplicateAck repr ackNumber isWindowUpdate) :=
  inferInstanceAs (Decidable (_ ∧ _ ∧ _ ∧ _))

/-- Count duplicate acknowledgements. The third one starts a fast retransmission. -/
def countDuplicateAck (ackNumber : SeqNumber) (isWindowUpdate : Bool) : Socket :=
  if s.isDuplicateAck repr ackNumber isWindowUpdate then
    let dupAcks := if s.localRxDupAcks = 255 then 255 else s.localRxDupAcks + 1
    { s with
      localRxDupAcks := dupAcks
      congestionController := s.congestionController.onDuplicateAck cx.now
      timer := if dupAcks = 3 then .fastRetransmit else s.timer }
  else { s with localRxDupAcks := 0, localRxLastAck := some ackNumber }

/-- Advance the local sequence number to the acknowledgement. Segments sent before it are not
retransmitted. -/
def advance (ackNumber : SeqNumber) : Socket :=
  { s with
    localSeqNo := ackNumber
    remoteLastSeq := if s.remoteLastSeq.lt ackNumber then ackNumber else s.remoteLastSeq }

def updateAck (isWindowUpdate : Bool) : Socket :=
  match repr.ackNumber with
  | some ackNumber => (s.countDuplicateAck cx repr ackNumber isWindowUpdate).advance ackNumber
  | none => s

def updateTsval : Socket :=
  { s with lastRemoteTsval := repr.timestamp.elim s.lastRemoteTsval (·.tsval) }

/-! ### Timers -/

/-- The retransmission timer stops when all is acknowledged and restarts when something is. Any
segment refreshes the keep-alive timer. -/
def updateTimer (ack : AckInfo) : Socket :=
  { s with
    timer :=
      match s.timer with
      | .retransmit _ | .fastRetransmit =>
        if ack.ackAll then .setForIdle cx.now s.keepAlive
        else if 0 < ack.ackLen then
          s.timer.setForRetransmit cx.now s.rtte.retransmissionTimeout
        else s.timer
      | .idle _ => .setForIdle cx.now s.keepAlive
      | _ => s.timer }

/-- Start the zero-window probe timer. -/
def startZeroWindowProbe (ack : AckInfo) : Socket :=
  { s with
    timer :=
      if s.remoteWinLen = 0 ∧ ¬ s.txBuffer.isEmpty ∧ (s.timer.isIdle ∨ 0 < ack.ackLen) then
        .setForZeroWindowProbe cx.now s.rtte.retransmissionTimeout
      else s.timer }

/-- Stop the zero-window probe timer. -/
def stopZeroWindowProbe : Socket :=
  { s with
    timer :=
      if s.remoteWinLen ≠ 0 ∧ s.timer.isZeroWindowProbe then .setForIdle cx.now s.keepAlive
      else s.timer }

/-! ### Receive side -/

def ackToTransmit : Checked Bool :=
  match s.remoteLastAck with
  | none => .ok false
  | some remoteLastAck => do
    let nextAck ← s.remoteSeqNo.add s.rxBuffer.len
    return decide (remoteLastAck.lt nextAck)

def immediateAckToTransmit : Checked Bool :=
  match s.remoteLastAck with
  | none => .ok false
  | some remoteLastAck => do
    let ack ← remoteLastAck.add s.remoteMss
    let nextAck ← s.remoteSeqNo.add s.rxBuffer.len
    return decide (ack.lt nextAck)

/-- Start the delayed-ACK timer, or force its expiry. -/
def delayAck : Checked Socket :=
  match s.ackDelay with
  | none => .ok s
  | some ackDelay => do
    if ← s.ackToTransmit then
      match s.ackDelayTimer with
      | .idle => return { s with ackDelayTimer := .waiting (cx.now.add ackDelay) }
      | .waiting t =>
        if ← s.immediateAckToTransmit then return { s with ackDelayTimer := .immediate }
        else return { s with ackDelayTimer := .waiting t }
      | .immediate => return { s with ackDelayTimer := .immediate }
    else return s

/-- Enqueue the contiguous octets in front. -/
def enqueueContig (rxBuffer : SocketBuffer) (contigLen : ℕ) : Checked SocketBuffer :=
  if contigLen ≠ 0 then rxBuffer.enqueueUnallocated contigLen else .ok rxBuffer

/-- Put the payload into the receive buffer. `none` if the assembler has too many holes. -/
def storePayload (payload : List UInt8) (payloadOffset : ℕ) : Checked (Option Socket) :=
  match s.assembler.addThenRemoveFront payloadOffset payload.length with
  | .error _ => .ok none
  | .ok (assembler, contigLen) => do
    let (rxBuffer, lenWritten) := s.rxBuffer.writeUnallocated payloadOffset payload
    Checked.assert (lenWritten = payload.length)
    let rxBuffer ← enqueueContig rxBuffer contigLen
    return some { s with assembler, rxBuffer }

def receivePayload (payload : List UInt8) (payloadOffset : ℕ) :
    Checked (Socket × Option Packet) :=
  if payload.length = 0 then .ok (s, none)
  else do
    match ← s.storePayload payload payloadOffset with
    | none => return (s, none)
    | some s' =>
      let s₁ ← s'.delayAck cx
      if ¬ s₁.assembler.isEmpty ∨ ¬ s.assembler.isEmpty then
        let (s₂, packet) ← s₁.ackReply cx ipRepr repr
        return (s₂, some packet)
      else return (s₁, none)

/-! ### The whole -/

/-- The stages after the state has changed. -/
def finishProcess (ack : AckInfo) (payload : List UInt8) (payloadOffset : ℕ) :
    Checked (Socket × Option Packet) := do
  let winLen := s.newRemoteWinLen repr
  let isWindowUpdate : Bool := winLen ≠ s.remoteWinLen
  let s ← (s.updateWindow cx winLen).dequeueAcked ack.ackLen
  let s := (s.updateAck cx repr isWindowUpdate).updateTsval repr
  let s := ((s.updateTimer cx ack).startZeroWindowProbe cx ack).stopZeroWindowProbe cx
  s.receivePayload cx ipRepr repr payload payloadOffset

def process : Checked (Socket × Option Packet) := do
  Checked.assert (s.accepts ipRepr repr)
  match ← s.checkAck cx ipRepr repr with
  | .ret s reply => return (s, reply)
  | .next s () =>
    let w ← s.span repr
    match ← s.trimPayload cx ipRepr repr w with
    | .ret s reply => return (s, reply)
    | .next s (payload, payloadOffset) =>
      let ack ← s.ackInfo repr
      let s := s.noteAck cx repr ack.ackLen
      match s.transition cx ipRepr repr (effectiveControl repr w) ack.ackOfFin with
      | .ret s reply => return (s, reply)
      | .next s () => s.finishProcess cx ipRepr repr ack payload payloadOffset

end Socket

end Smoltcp.Tcp
