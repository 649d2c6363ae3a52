import Smoltcp.Socket.Tcp.Basic

/-!
# Calls of the application
-/

namespace Smoltcp.Tcp

open Serial

inductive ListenError where
  | invalidState
  | unaddressable
  deriving DecidableEq, Repr

inductive ConnectError where
  | invalidState
  | unaddressable
  deriving DecidableEq, Repr

inductive SendError where
  | invalidState
  deriving DecidableEq, Repr

inductive RecvError where
  | invalidState
  | finished
  deriving DecidableEq, Repr

namespace Socket

variable (s : Socket) {ρ : Type}

/-! ### Opening and closing -/

def listen (localEndpoint : IpListenEndpoint) : Except ListenError Socket :=
  if localEndpoint.port = 0 then .error .unaddressable
  else if s.isOpen then
    if s.state = .listen ∧ s.listenEndpoint = localEndpoint then .ok s else .error .invalidState
  else .ok { s.reset with listenEndpoint := localEndpoint, tuple := none, state := .listen }

/-- The local endpoint of a connection to `remote`, chosen by the interface if left open. -/
def connectFrom (cx : Context) (remote : IpAddress) (localEndpoint : IpListenEndpoint) :
    Except ConnectError IpEndpoint :=
  match localEndpoint.addr with
  | some addr =>
    if addr.isUnspecified then .error .unaddressable else .ok ⟨addr, localEndpoint.port⟩
  | none =>
    match cx.getSourceAddress remote with
    | some addr => .ok ⟨addr, localEndpoint.port⟩
    | none => .error .unaddressable

def connect (cx : Context) (remoteEndpoint : IpEndpoint) (localEndpoint : IpListenEndpoint) :
    Except ConnectError Socket :=
  if s.isOpen then .error .invalidState
  else if remoteEndpoint.port = 0 ∨ remoteEndpoint.addr.isUnspecified then .error .unaddressable
  else if localEndpoint.port = 0 then .error .unaddressable
  else do
    let localEndpoint ← connectFrom cx remoteEndpoint.addr localEndpoint
    if localEndpoint.addr.version ≠ remoteEndpoint.addr.version then
      throw .unaddressable
    return { s.reset with
      tuple := some ⟨localEndpoint, remoteEndpoint⟩
      state := .synSent
      localSeqNo := cx.rand
      remoteLastSeq := cx.rand }

def close : Socket :=
  match s.state with
  | .listen => s.setState .closed
  | .synSent => s.setState .closed
  | .synReceived | .established => s.setState .finWait1
  | .closeWait => s.setState .lastAck
  | .finWait1 | .finWait2 | .closing | .timeWait | .lastAck | .closed => s

def abort : Socket := s.setState .closed

/-! ### Settings -/

def setTimeout (duration : Option Duration) : Socket := { s with timeout := duration }

def setAckDelay (duration : Option Duration) : Socket := { s with ackDelay := duration }

def setNagleEnabled (enabled : Bool) : Socket := { s with nagle := enabled }

def setKeepAlive (interval : Option Duration) : Socket :=
  { s with
    keepAlive := interval
    timer := if interval.isSome then s.timer.setKeepAlive else s.timer }

def setHopLimit (hopLimit : Option UInt8) : Checked Socket :=
  if hopLimit = some 0 then .error .zeroHopLimit else .ok { s with hopLimit := hopLimit }

def setTsvalGenerator (generator : Option TcpTimestampGenerator) : Socket :=
  { s with tsvalGenerator := generator }

def setCongestionControl (control : CongestionControl) : Socket :=
  { s with congestionController := .ofControl control }

def pauseSynack (pause : Bool) : Socket := { s with synackPaused := pause }

/-! ### Sending -/

/-- What `send_impl` does after the octets are in the transmit buffer. -/
def noteSent (oldLength size : ℕ) : Socket :=
  if 0 < size then
    let s := if oldLength = 0 then { s with remoteLastTs := none } else s
    if s.remoteWinLen = 0 ∧ s.timer.isIdle then
      { s with timer := .setForZeroWindowProbe 0 s.rtte.retransmissionTimeout }
    else s
  else s

def send (f : Callback UInt8 ρ) : Checked (Socket × Except SendError ρ) :=
  if s.maySend then do
    let (txBuffer, size, result) ← s.txBuffer.enqueueManyWith f
    return ({ s with txBuffer }.noteSent s.txBuffer.len size, .ok result)
  else .ok (s, .error .invalidState)

def sendSlice (data : List UInt8) : Checked (Socket × Except SendError ℕ) :=
  if s.maySend then do
    let (txBuffer, size) ← s.txBuffer.enqueueSlice data
    return ({ s with txBuffer }.noteSent s.txBuffer.len size, .ok size)
  else .ok (s, .error .invalidState)

/-! ### Receiving -/

def recvErrorCheck : Except RecvError Unit :=
  if s.mayRecv then .ok ()
  else if s.rxFinReceived then .error .finished
  else .error .invalidState

/-- What `recv_impl` does after the octets are out of the receive buffer. -/
def noteReceived (size : ℕ) : Checked Socket := do
  return { s with remoteSeqNo := ← s.remoteSeqNo.add size }

def recv (f : Callback UInt8 ρ) : Checked (Socket × Except RecvError ρ) :=
  match s.recvErrorCheck with
  | .error e => .ok (s, .error e)
  | .ok () => do
    let (rxBuffer, size, result) ← s.rxBuffer.dequeueManyWith f
    return (← { s with rxBuffer }.noteReceived size, .ok result)

/-- `recv_slice` into a slice of `n` octets. The octets read are returned. -/
def recvSlice (n : ℕ) : Checked (Socket × Except RecvError (List UInt8)) :=
  match s.recvErrorCheck with
  | .error e => .ok (s, .error e)
  | .ok () => do
    let (rxBuffer, data) ← s.rxBuffer.dequeueSlice n
    return (← { s with rxBuffer }.noteReceived data.length, .ok data)

def peek (size : ℕ) : Except RecvError (List UInt8) := do
  s.recvErrorCheck
  return s.rxBuffer.getAllocated 0 size

end Socket

end Smoltcp.Tcp
