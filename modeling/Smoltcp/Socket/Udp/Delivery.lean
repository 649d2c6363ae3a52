import Smoltcp.Socket.Udp

/-!
# What becomes of the datagrams that a UDP socket accepts

The ledger of a socket holds its endpoint, its hop limit and the datagrams that were accepted and
are still to be dispatched, oldest first. Every run is one of the ledger (`Ledger.Step`). The source
address is the one given with the datagram, else the one that the socket is bound to, else one of
the interface. Only the last has the version of the destination by construction; dispatching panics
where one of the others has not (`dispatch_iff_sameVersion`).
-/

namespace Smoltcp

namespace Udp

open Machine

/-! ### The ledger -/

structure Ledger where
  endpoint : IpListenEndpoint := {}
  hopLimit : Option UInt8 := none
  pending : List (UdpMetadata × List UInt8) := []

namespace Ledger

variable (t : Ledger)

/-- What a datagram needs to be accepted. -/
structure Addressable (packetMeta : UdpMetadata) : Prop where
  srcPort : t.endpoint.port ≠ 0
  dstAddr : ¬ packetMeta.endpoint.addr.isUnspecified
  dstPort : packetMeta.endpoint.port ≠ 0

/-- The source address that is settled before dispatching. -/
def givenAddr (packetMeta : UdpMetadata) : Option IpAddress :=
  packetMeta.localAddress <|> t.endpoint.addr

/-- A source address that is settled before dispatching has the version of the destination. -/
def SameVersion (packetMeta : UdpMetadata) : Prop :=
  ∀ addr ∈ t.givenAddr packetMeta, addr.version = packetMeta.endpoint.addr.version

def sourceAddr {cfg : IfaceConfig} (iface : InterfaceInner cfg) (packetMeta : UdpMetadata) :
    Checked (Option IpAddress) :=
  match t.givenAddr packetMeta with
  | some addr => .ok (some addr)
  | none => iface.getSourceAddress packetMeta.endpoint.addr

end Ledger

/-- What is done with the oldest datagram: it is handed over with its ports, its payload and their
length, and stays if it is refused; it is dropped if there is no source address. -/
inductive Handled {cfg : IfaceConfig} (iface : InterfaceInner cfg) (emit : Datagram → Bool)
    (t : Ledger) : Ledger → Option Datagram → Prop where
  | empty (h : t.pending = []) : Handled iface emit t t none
  | dropped {packetMeta : UdpMetadata} {payload : List UInt8}
      {rest : List (UdpMetadata × List UInt8)} (h : t.pending = (packetMeta, payload) :: rest)
      (hgiven : t.givenAddr packetMeta = none)
      (hnone : iface.getSourceAddress packetMeta.endpoint.addr = .ok none) :
      Handled iface emit t { t with pending := rest } none
  | passed {packetMeta : UdpMetadata} {payload : List UInt8}
      {rest : List (UdpMetadata × List UInt8)} {srcAddr : IpAddress} {ipRepr : IpRepr}
      (h : t.pending = (packetMeta, payload) :: rest)
      (hsrc : t.sourceAddr iface packetMeta = .ok (some srcAddr))
      (hnew : IpRepr.new srcAddr packetMeta.endpoint.addr .udp (8 + payload.length)
        (t.hopLimit.getD 64) = .ok ipRepr)
      (hemit : emit ⟨ipRepr, ⟨t.endpoint.port, packetMeta.endpoint.port⟩, payload⟩ = true) :
      Handled iface emit t { t with pending := rest }
        (some ⟨ipRepr, ⟨t.endpoint.port, packetMeta.endpoint.port⟩, payload⟩)
  | refused {packetMeta : UdpMetadata} {payload : List UInt8}
      {rest : List (UdpMetadata × List UInt8)} {srcAddr : IpAddress} {ipRepr : IpRepr}
      (h : t.pending = (packetMeta, payload) :: rest)
      (hsrc : t.sourceAddr iface packetMeta = .ok (some srcAddr))
      (hnew : IpRepr.new srcAddr packetMeta.endpoint.addr .udp (8 + payload.length)
        (t.hopLimit.getD 64) = .ok ipRepr)
      (hemit : emit ⟨ipRepr, ⟨t.endpoint.port, packetMeta.endpoint.port⟩, payload⟩ = false) :
      Handled iface emit t t
        (some ⟨ipRepr, ⟨t.endpoint.port, packetMeta.endpoint.port⟩, payload⟩)

/-! ### Runs -/

/-- What a socket is used for. The interface, and what it accepts, may differ from one time to the
next. -/
inductive Op where
  | bind (endpoint : IpListenEndpoint)
  | close
  | setHopLimit (hopLimit : Option UInt8)
  | send (size : ℕ) (packetMeta : UdpMetadata) (write : Writer UInt8)
  | sendWith (maxSize : ℕ) (packetMeta : UdpMetadata) (f : Callback UInt8 Unit)
  | sendSlice (data : List UInt8) (packetMeta : UdpMetadata)
  | recv
  | peek
  | process {cfg : IfaceConfig} (iface : InterfaceInner cfg) (packetMeta : PacketMeta)
      (ipRepr : IpRepr) (repr : UdpRepr) (payload : List UInt8)
  | dispatch {cfg : IfaceConfig} (iface : InterfaceInner cfg) (emit : Datagram → Bool)

/-- What an operation does to the datagrams that are sent. -/
inductive Event where
  | unchanged
  | bound
  | closed
  | hopLimitSet
  | sent (size : ℕ)
  | dispatched (offer : Option Datagram)

def Event.ofSend : Except SendError ℕ → Event
  | .ok size => .sent size
  | .error _ => .unchanged

def step (s : Socket) : Op → Checked (Socket × Event)
  | .bind endpoint =>
    match s.bind endpoint with
    | .ok s => .ok (s, .bound)
    | .error _ => .ok (s, .unchanged)
  | .close => .ok (s.close, .closed)
  | .setHopLimit hopLimit => do return (← s.setHopLimit hopLimit, .hopLimitSet)
  | .send size packetMeta write => do
    let (s, r) ← s.send size packetMeta write
    return (s, .ofSend (r.map fun _ => size))
  | .sendWith maxSize packetMeta f => do
    let (s, r) ← s.sendWith maxSize packetMeta f
    return (s, .ofSend r)
  | .sendSlice data packetMeta => do
    let (s, r) ← s.sendSlice data packetMeta
    return (s, .ofSend (r.map fun _ => data.length))
  | .recv => do return ((← s.recv).1, .unchanged)
  | .peek => do return ((← s.peek).1, .unchanged)
  | .process iface packetMeta ipRepr repr payload => do
    return (← s.process iface packetMeta ipRepr repr payload, .unchanged)
  | .dispatch iface emit => do
    let (s, offer) ← s.dispatch iface emit
    return (s, .dispatched offer)

/-- The operation sends `payload`. What the caller or the closure writes may depend on the octets
that it is given. -/
inductive Sends : Op → UdpMetadata → List UInt8 → Prop where
  | send {size : ℕ} (packetMeta : UdpMetadata) (write : Writer UInt8) {buf : List UInt8}
      (hbuf : buf.length = size) : Sends (.send size packetMeta write) packetMeta (write buf).1
  | sendWith {maxSize : ℕ} (packetMeta : UdpMetadata) (f : Callback UInt8 Unit) {buf : List UInt8}
      (hbuf : buf.length = maxSize) :
      Sends (.sendWith maxSize packetMeta f) packetMeta ((f buf).buf.take (f buf).size)
  | sendSlice (data : List UInt8) (packetMeta : UdpMetadata) :
      Sends (.sendSlice data packetMeta) packetMeta data

/-- What an operation does to the ledger. The endpoint changes only while nothing is pending. -/
inductive Ledger.Step : Ledger → Op → Checked (Ledger × Event) → Prop where
  | unchanged (t : Ledger) (op : Op) : Step t op (.ok (t, .unchanged))
  | bound (t : Ledger) {endpoint : IpListenEndpoint} (hport : endpoint.port ≠ 0)
      (hclosed : t.endpoint.port = 0) (hpending : t.pending = []) :
      Step t (.bind endpoint) (.ok ({ t with endpoint }, .bound))
  | closed (t : Ledger) :
      Step t .close (.ok ({ t with endpoint := {}, pending := [] }, .closed))
  | hopLimitSet (t : Ledger) {hopLimit : Option UInt8} (h : hopLimit ≠ some 0) :
      Step t (.setHopLimit hopLimit) (.ok ({ t with hopLimit }, .hopLimitSet))
  | sent (t : Ledger) {op : Op} {packetMeta : UdpMetadata} {payload : List UInt8} {size : ℕ}
      (h : Sends op packetMeta payload) (hmeta : t.Addressable packetMeta)
      (hsize : payload.length = size) :
      Step t op (.ok ({ t with pending := t.pending ++ [(packetMeta, payload)] }, .sent size))
  | dispatched {cfg : IfaceConfig} (iface : InterfaceInner cfg) (emit : Datagram → Bool)
      {t u : Ledger} {offer : Option Datagram} (h : Handled iface emit t u offer) :
      Step t (.dispatch iface emit) (.ok (u, .dispatched offer))

namespace Socket

variable {s s' : Socket}

def ledger (s : Socket) : Ledger := ⟨s.endpoint, s.hopLimit, s.txBuffer.queue⟩

/-- The packet buffer is a queue, and the datagrams in it were addressable when they were sent. -/
structure Inv (s : Socket) : Prop where
  wf : s.txBuffer.Wf
  addressable : ∀ d ∈ s.txBuffer.queue, s.ledger.Addressable d.1

/-- `send_with` may be used as the packet buffer needs it: its closure reports no more octets than
it got, and a padding does not take the last entry. -/
def Keeps (s : Socket) : Op → Prop
  | .sendWith maxSize packetMeta f => s.ledger.Addressable packetMeta →
    PacketBuffer.Admissible s.txBuffer
      (.enqueueWithInfallible maxSize packetMeta f : PacketBuffer.Op UdpMetadata Unit Unit)
  | _ => True

/-! ### What the operations do -/

lemma sendSlice_eq (data : List UInt8) (packetMeta : UdpMetadata) :
    s.sendSlice data packetMeta = s.send data.length packetMeta (Writer.ofLength data) := rfl

lemma sourceAddr_eq {cfg : IfaceConfig} (iface : InterfaceInner cfg) (packetMeta : UdpMetadata) :
    s.sourceAddr iface packetMeta = s.ledger.sourceAddr iface packetMeta := by
  unfold sourceAddr Ledger.sourceAddr Ledger.givenAddr ledger
  cases packetMeta.localAddress with
  | some addr => rfl
  | none => cases s.endpoint.addr <;> rfl

/-- Nothing is pending on a socket that is not bound. -/
lemma Inv.pending_of_closed (h : s.Inv) (hport : s.endpoint.port = 0) : s.txBuffer.queue = [] := by
  rw [List.eq_nil_iff_forall_not_mem]
  exact fun d hd => (h.addressable d hd).srcPort hport

/-- Another packet buffer with some of the datagrams, and perhaps one more. -/
lemma Inv.of_subset (h : s.Inv) {txBuffer : PacketBuffer UdpMetadata} (hwf : txBuffer.Wf)
    (hqueue : ∀ d ∈ txBuffer.queue, d ∈ s.txBuffer.queue ∨ s.ledger.Addressable d.1) :
    Inv { s with txBuffer } := by
  refine ⟨hwf, fun d hd => ?_⟩
  rcases hqueue d hd with hmem | haddr
  · exact ⟨(h.addressable d hmem).srcPort, (h.addressable d hmem).dstAddr,
      (h.addressable d hmem).dstPort⟩
  · exact ⟨haddr.srcPort, haddr.dstAddr, haddr.dstPort⟩

/-- A socket after a send: as before, or with one more datagram. -/
inductive Sent (s : Socket) (packetMeta : UdpMetadata) (p : List UInt8 → Prop) :
    Socket → Bool → Prop where
  | refused {s' : Socket} (hinv : s'.Inv) (hledger : s'.ledger = s.ledger) :
      Sent s packetMeta p s' false
  | accepted {s' : Socket} {payload : List UInt8} (hinv : s'.Inv)
      (haddr : s.ledger.Addressable packetMeta) (hpayload : p payload)
      (hledger : s'.ledger =
        { s.ledger with pending := s.ledger.pending ++ [(packetMeta, payload)] }) :
      Sent s packetMeta p s' true

lemma Inv.send (h : s.Inv) {size : ℕ} {packetMeta : UdpMetadata} {write : Writer UInt8}
    {r : Except SendError Unit} (hsend : s.send size packetMeta write = .ok (s', r)) :
    Sent s packetMeta (fun payload => ∃ buf : List UInt8, buf.length = size ∧
      (write buf).1 = payload) s' r.isOk := by
  unfold Socket.send at hsend
  split_ifs at hsend with hport hdst hdstPort
  · cases hsend
    exact .refused h rfl
  · cases hsend
    exact .refused h rfl
  · cases hsend
    exact .refused h rfl
  obtain ⟨txBuffer, r₁, henqueue, hwf, hqueue⟩ :=
    PacketBuffer.enqueue_refines (ε := Unit) (ρ := Unit) h.wf size packetMeta write
  obtain ⟨⟨tx, r₂⟩, hop, heq⟩ := Checked.bind_eq_ok.mp henqueue
  cases heq
  rw [hop, Checked.ok_bind] at hsend
  generalize hq : s.txBuffer.queue = q at hqueue
  generalize hq' : txBuffer.queue = q' at hqueue
  cases hqueue with
  | enqueueFull =>
    cases hsend
    refine .refused (h.of_subset hwf fun d hd => .inl ?_) ?_
    · rwa [hq, ← hq']
    · rw [ledger, ledger, hq, hq']
  | @enqueue _ _ _ _ buf hbuf =>
    cases hsend
    have haddr : s.ledger.Addressable packetMeta := ⟨hport, hdst, hdstPort⟩
    refine .accepted (h.of_subset hwf fun d hd => ?_) haddr ⟨buf, hbuf, rfl⟩ ?_
    · rw [hq'] at hd
      rcases List.mem_append.mp hd with hd | hd
      · exact .inl (hq ▸ hd)
      · rw [List.mem_singleton.mp hd]
        exact .inr haddr
    · rw [ledger, ledger, hq, hq']

lemma Inv.sendWith (h : s.Inv) {maxSize : ℕ} {packetMeta : UdpMetadata} {f : Callback UInt8 Unit}
    {r : Except SendError ℕ} (hkeeps : s.Keeps (.sendWith maxSize packetMeta f))
    (hsend : s.sendWith maxSize packetMeta f = .ok (s', r)) :
    Sent s packetMeta (fun payload => r = .ok payload.length ∧ ∃ buf : List UInt8,
      buf.length = maxSize ∧ (f buf).buf.take (f buf).size = payload) s' r.isOk := by
  unfold Socket.sendWith at hsend
  split_ifs at hsend with hport hdst hdstPort
  · cases hsend
    exact .refused h rfl
  · cases hsend
    exact .refused h rfl
  · cases hsend
    exact .refused h rfl
  have haddr : s.ledger.Addressable packetMeta := ⟨hport, hdst, hdstPort⟩
  have hok := hkeeps haddr
  obtain ⟨txBuffer, r₁, henqueue, hwf, hqueue⟩ :=
    PacketBuffer.enqueueWithInfallible_refines h.wf hok
  obtain ⟨⟨tx, r₂⟩, hop, heq⟩ := Checked.bind_eq_ok.mp henqueue
  cases heq
  rw [hop, Checked.ok_bind] at hsend
  generalize hq : s.txBuffer.queue = q at hqueue
  generalize hq' : txBuffer.queue = q' at hqueue
  cases hqueue with
  | enqueueWithFull =>
    cases hsend
    refine .refused (h.of_subset hwf fun d hd => .inl ?_) ?_
    · rwa [hq, ← hq']
    · rw [ledger, ledger, hq, hq']
  | @enqueueWith _ _ _ _ buf hbuf =>
    cases hsend
    have hlen : ((f buf).buf.take (f buf).size).length = (f buf).size := by
      have hsize := hok.1 buf hbuf
      rw [List.length_take, (f buf).length_buf]
      omega
    refine .accepted (h.of_subset hwf fun d hd => ?_) haddr ⟨?_, buf, hbuf, rfl⟩ ?_
    · rw [hq'] at hd
      rcases List.mem_append.mp hd with hd | hd
      · exact .inl (hq ▸ hd)
      · rw [List.mem_singleton.mp hd]
        exact .inr haddr
    · rw [hlen]
    · rw [ledger, ledger, hq, hq']

/-- What is made of a datagram leaves its octets alone. -/
lemma payload_of_build {cfg : IfaceConfig} {iface : InterfaceInner cfg} {packetMeta : UdpMetadata}
    {payload : List UInt8} {handed : Handed Datagram payload.length}
    (h : s.build iface packetMeta payload = .ok handed) : handed.payload = payload := by
  obtain ⟨srcAddr, -, h⟩ := Checked.bind_eq_ok.mp h
  cases srcAddr with
  | none =>
    cases h
    rfl
  | some srcAddr =>
    obtain ⟨ipRepr, -, h⟩ := Checked.bind_eq_ok.mp h
    cases h
    rfl

lemma build_none {cfg : IfaceConfig} {iface : InterfaceInner cfg} {packetMeta : UdpMetadata}
    {payload : List UInt8} {handed : Handed Datagram payload.length}
    (h : s.build iface packetMeta payload = .ok handed) (hoffer : handed.offer = none) :
    s.ledger.givenAddr packetMeta = none ∧
      iface.getSourceAddress packetMeta.endpoint.addr = .ok none := by
  obtain ⟨srcAddr, hsrc, h⟩ := Checked.bind_eq_ok.mp h
  rw [sourceAddr_eq, Ledger.sourceAddr] at hsrc
  cases srcAddr with
  | none =>
    cases hgiven : s.ledger.givenAddr packetMeta with
    | none =>
      rw [hgiven] at hsrc
      exact ⟨rfl, hsrc⟩
    | some addr =>
      rw [hgiven] at hsrc
      cases hsrc
  | some srcAddr =>
    obtain ⟨ipRepr, -, h⟩ := Checked.bind_eq_ok.mp h
    cases h
    cases hoffer

lemma build_some {cfg : IfaceConfig} {iface : InterfaceInner cfg} {packetMeta : UdpMetadata}
    {payload : List UInt8} {handed : Handed Datagram payload.length} {d : Datagram}
    (h : s.build iface packetMeta payload = .ok handed) (hoffer : handed.offer = some d) :
    ∃ srcAddr ipRepr, s.ledger.sourceAddr iface packetMeta = .ok (some srcAddr) ∧
      IpRepr.new srcAddr packetMeta.endpoint.addr .udp (8 + payload.length)
        (s.hopLimit.getD 64) = .ok ipRepr ∧
      d = ⟨ipRepr, ⟨s.endpoint.port, packetMeta.endpoint.port⟩, payload⟩ := by
  obtain ⟨srcAddr, hsrc, h⟩ := Checked.bind_eq_ok.mp h
  cases srcAddr with
  | none =>
    cases h
    cases hoffer
  | some srcAddr =>
    obtain ⟨ipRepr, hnew, h⟩ := Checked.bind_eq_ok.mp h
    cases h
    cases hoffer
    exact ⟨srcAddr, ipRepr, sourceAddr_eq iface packetMeta ▸ hsrc, hnew, rfl⟩

lemma Inv.offerFront (h : s.Inv) {cfg : IfaceConfig} (iface : InterfaceInner cfg)
    (emit : Datagram → Bool) :
    (∃ p, s.txBuffer.offerFront (s.build iface) emit = .error p ∧
      PacketBuffer.Offered (s.build iface) emit s.txBuffer.queue (.error p)) ∨
    ∃ txBuffer offer, s.txBuffer.offerFront (s.build iface) emit = .ok (txBuffer, offer) ∧
      txBuffer.Wf ∧ PacketBuffer.Offered (s.build iface) emit s.txBuffer.queue
        (.ok (txBuffer.queue, offer)) :=
  PacketBuffer.offerFront_refines h.wf fun _ _ _ hbuild => payload_of_build hbuild

/-- A dispatch that does not panic handles the oldest datagram. -/
lemma Inv.dispatch (h : s.Inv) {cfg : IfaceConfig} {iface : InterfaceInner cfg}
    {emit : Datagram → Bool} {offer : Option Datagram}
    (hdispatch : s.dispatch iface emit = .ok (s', offer)) :
    s'.Inv ∧ Handled iface emit s.ledger s'.ledger offer := by
  obtain ⟨⟨txBuffer, offer⟩, hoffer, heq⟩ := Checked.bind_eq_ok.mp hdispatch
  cases heq
  rcases h.offerFront iface emit with ⟨p, herror, -⟩ | ⟨tx, x, hok, hwf, hqueue⟩
  · rw [hoffer] at herror
    cases herror
  rw [hoffer] at hok
  cases hok
  generalize hq : s.txBuffer.queue = q at hqueue
  generalize hq' : txBuffer.queue = q' at hqueue
  cases hqueue with
  | empty =>
    refine ⟨h.of_subset hwf fun d hd => ?_, ?_⟩
    · rw [hq'] at hd
      cases hd
    · rw [show ledger { s with txBuffer } = s.ledger by rw [ledger, ledger, hq, hq']]
      exact .empty hq
  | dropped _ hbuild hnone =>
    obtain ⟨hgiven, hsrc⟩ := build_none hbuild hnone
    refine ⟨h.of_subset hwf fun d hd => .inl ?_, ?_⟩
    · rw [hq, ← hq']
      exact List.mem_cons_of_mem _ hd
    · rw [show ledger { s with txBuffer } = { s.ledger with pending := q' } by
        rw [ledger, ledger, hq']]
      exact .dropped hq hgiven hsrc
  | passed _ hbuild hsome hemit =>
    obtain ⟨srcAddr, ipRepr, hsrc, hnew, rfl⟩ := build_some hbuild hsome
    refine ⟨h.of_subset hwf fun d hd => .inl ?_, ?_⟩
    · rw [hq, ← hq']
      exact List.mem_cons_of_mem _ hd
    · rw [show ledger { s with txBuffer } = { s.ledger with pending := q' } by
        rw [ledger, ledger, hq']]
      exact .passed hq hsrc hnew hemit
  | refused _ hbuild hsome hemit =>
    obtain ⟨srcAddr, ipRepr, hsrc, hnew, rfl⟩ := build_some hbuild hsome
    refine ⟨h.of_subset hwf fun d hd => .inl ?_, ?_⟩
    · rwa [hq, ← hq']
    · rw [show ledger { s with txBuffer } = s.ledger by rw [ledger, ledger, hq, hq']]
      exact .refused hq hsrc hnew hemit

/-- With a source address of the right version there is something to hand over or to drop. -/
lemma exists_build {cfg : IfaceConfig} (iface : InterfaceInner cfg) {packetMeta : UdpMetadata}
    (hdst : ¬ packetMeta.endpoint.addr.isUnspecified) (hsame : s.ledger.SameVersion packetMeta)
    (payload : List UInt8) : ∃ handed, s.build iface packetMeta payload = .ok handed := by
  have hsrc : ∃ srcAddr, s.sourceAddr iface packetMeta = .ok srcAddr ∧
      ∀ addr ∈ srcAddr, addr.version = packetMeta.endpoint.addr.version := by
    rw [sourceAddr_eq, Ledger.sourceAddr]
    cases hgiven : s.ledger.givenAddr packetMeta with
    | some addr => exact ⟨some addr, rfl, fun a ha => hsame a (hgiven.trans ha)⟩
    | none => exact InterfaceInner.exists_getSourceAddress hdst
  obtain ⟨srcAddr, hsrc, hversion⟩ := hsrc
  unfold build
  rw [hsrc, Checked.ok_bind]
  cases srcAddr with
  | none => exact ⟨_, rfl⟩
  | some srcAddr =>
    dsimp only
    obtain ⟨ipRepr, hnew⟩ := IpRepr.new_of_version_eq (hversion srcAddr rfl) .udp
      (UdpRepr.headerLen ⟨s.endpoint.port, packetMeta.endpoint.port⟩ + payload.length)
      (s.hopLimit.getD 64)
    rw [hnew]
    exact ⟨_, rfl⟩

/-- The oldest datagram can be handled exactly if its source address, where it is settled, has the
version of the destination. -/
lemma Inv.dispatches_iff (h : s.Inv) {cfg : IfaceConfig} (iface : InterfaceInner cfg)
    (emit : Datagram → Bool) :
    (∃ s' offer, s.dispatch iface emit = .ok (s', offer) ∧
      Handled iface emit s.ledger s'.ledger offer) ↔
    ∀ d ∈ s.ledger.pending.head?, s.ledger.SameVersion d.1 := by
  constructor
  · rintro ⟨s', offer, -, hhandled⟩ d hd addr haddr
    have hfront : ∀ {packetMeta payload rest}, s.ledger.pending = (packetMeta, payload) :: rest →
        d.1 = packetMeta := by
      intro packetMeta payload rest hpending
      rw [hpending] at hd
      cases hd
      rfl
    have hversion : ∀ {srcAddr ipRepr len hop}, s.ledger.sourceAddr iface d.1 = .ok (some srcAddr) →
        IpRepr.new srcAddr d.1.endpoint.addr .udp len hop = .ok ipRepr →
        addr.version = d.1.endpoint.addr.version := by
      intro srcAddr ipRepr len hop hsrc hnew
      rw [Ledger.sourceAddr, haddr] at hsrc
      cases hsrc
      exact (IpRepr.new_eq_ok hnew).1
    generalize s'.ledger = u at hhandled
    cases hhandled with
    | empty hpending =>
      rw [hpending] at hd
      cases hd
    | dropped hpending hgiven =>
      rw [hfront hpending, hgiven] at haddr
      cases haddr
    | passed hpending hsrc hnew =>
      rw [← hfront hpending] at hsrc hnew
      exact hversion hsrc hnew
    | refused hpending hsrc hnew =>
      rw [← hfront hpending] at hsrc hnew
      exact hversion hsrc hnew
  · intro hsame
    rcases h.offerFront iface emit with ⟨p, -, hoffered⟩ | ⟨txBuffer, offer, hoffer, -⟩
    · generalize hq : s.txBuffer.queue = q at hoffered
      cases hoffered with
      | panicked q hbuild =>
        rename_i packetMeta payload
        have hmem : (packetMeta, payload) ∈ s.txBuffer.queue := hq ▸ List.mem_cons_self
        have hhead : (packetMeta, payload) ∈ s.ledger.pending.head? := by
          rw [ledger, hq]
          rfl
        obtain ⟨handed, hok⟩ := exists_build iface (h.addressable _ hmem).dstAddr
          (hsame _ hhead) payload
        rw [hbuild] at hok
        cases hok
    · have hdispatch : s.dispatch iface emit = .ok ({ s with txBuffer }, offer) := by
        unfold Socket.dispatch
        rw [hoffer]
        rfl
      exact ⟨_, offer, hdispatch, (h.dispatch hdispatch).2⟩

/-! ### Whole runs -/

lemma Sent.step {packetMeta : UdpMetadata} {p : List UInt8 → Prop} {sent : Bool} {op : Op}
    {event : Event} (h : Sent s packetMeta p s' sent)
    (hsent : ∀ payload, sent = true → p payload →
      Sends op packetMeta payload ∧ event = .sent payload.length)
    (hrefused : sent = false → event = .unchanged) :
    s'.Inv ∧ Ledger.Step s.ledger op (.ok (s'.ledger, event)) := by
  cases h with
  | refused hinv hledger =>
    rw [hrefused rfl, hledger]
    exact ⟨hinv, .unchanged _ _⟩
  | accepted hinv haddr hpayload hledger =>
    obtain ⟨hsends, rfl⟩ := hsent _ rfl hpayload
    rw [hledger]
    exact ⟨hinv, .sent _ hsends haddr rfl⟩

/-- Every operation that does not panic is a step of the ledger. -/
lemma Inv.step (h : s.Inv) {op : Op} {event : Event} (hkeeps : s.Keeps op)
    (hstep : Udp.step s op = .ok (s', event)) :
    s'.Inv ∧ Ledger.Step s.ledger op (.ok (s'.ledger, event)) := by
  cases op with
  | bind endpoint =>
    unfold Udp.step Socket.bind at hstep
    dsimp only at hstep
    by_cases hport : endpoint.port = 0
    · rw [if_pos hport] at hstep
      cases hstep
      exact ⟨h, .unchanged _ _⟩
    rw [if_neg hport] at hstep
    by_cases hopen : s.isOpen
    · rw [if_pos hopen] at hstep
      cases hstep
      exact ⟨h, .unchanged _ _⟩
    rw [if_neg hopen] at hstep
    cases hstep
    have hclosed : s.endpoint.port = 0 := not_not.mp hopen
    have hpending := h.pending_of_closed hclosed
    refine ⟨⟨h.wf, fun d hd => ?_⟩, .bound _ hport hclosed hpending⟩
    dsimp only at hd
    rw [hpending] at hd
    cases hd
  | close =>
    cases hstep
    have hempty : s.close.txBuffer.queue = [] :=
      PacketBuffer.queue_new s.txBuffer.metadataRing.storage s.txBuffer.payloadRing.storage
    refine ⟨⟨PacketBuffer.wf_new _ _, fun d hd => ?_⟩, ?_⟩
    · rw [hempty] at hd
      cases hd
    · rw [show s.close.ledger = { s.ledger with endpoint := {}, pending := [] } by
        rw [ledger, hempty]; rfl]
      exact .closed _
  | setHopLimit hopLimit =>
    obtain ⟨s₁, hset, heq⟩ := Checked.bind_eq_ok.mp hstep
    cases heq
    unfold Socket.setHopLimit at hset
    split_ifs at hset with hzero
    cases hset
    refine ⟨⟨h.wf, fun d hd => ?_⟩, .hopLimitSet _ hzero⟩
    exact ⟨(h.addressable d hd).srcPort, (h.addressable d hd).dstAddr,
      (h.addressable d hd).dstPort⟩
  | send size packetMeta write =>
    obtain ⟨⟨s₁, r⟩, hsend, heq⟩ := Checked.bind_eq_ok.mp hstep
    cases heq
    refine (h.send hsend).step ?_ ?_
    · rintro payload hok ⟨buf, hbuf, rfl⟩
      refine ⟨.send packetMeta write hbuf, ?_⟩
      cases r with
      | error e => cases hok
      | ok u => rw [(write buf).2, hbuf]; rfl
    · intro hfailed
      cases r with
      | error e => rfl
      | ok u => cases hfailed
  | sendWith maxSize packetMeta f =>
    obtain ⟨⟨s₁, r⟩, hsend, heq⟩ := Checked.bind_eq_ok.mp hstep
    cases heq
    refine (h.sendWith hkeeps hsend).step ?_ ?_
    · rintro payload - ⟨rfl, buf, hbuf, rfl⟩
      exact ⟨.sendWith packetMeta f hbuf, rfl⟩
    · intro hfailed
      cases r with
      | error e => rfl
      | ok u => cases hfailed
  | sendSlice data packetMeta =>
    obtain ⟨⟨s₁, r⟩, hsend, heq⟩ := Checked.bind_eq_ok.mp hstep
    cases heq
    rw [sendSlice_eq] at hsend
    refine (h.send hsend).step ?_ ?_
    · rintro payload hok ⟨buf, hbuf, rfl⟩
      have hdata : (Writer.ofLength data buf).1 = data := by
        unfold Writer.ofLength
        rw [dif_pos hbuf.symm]
      rw [hdata]
      refine ⟨.sendSlice data packetMeta, ?_⟩
      cases r with
      | error e => cases hok
      | ok u => rfl
    · intro hfailed
      cases r with
      | error e => rfl
      | ok u => cases hfailed
  | recv =>
    obtain ⟨⟨s₁, r⟩, hrecv, heq⟩ := Checked.bind_eq_ok.mp hstep
    obtain ⟨x, -, hs₁⟩ := Checked.bind_eq_ok.mp hrecv
    cases hs₁
    cases heq
    exact ⟨⟨h.wf, h.addressable⟩, .unchanged _ _⟩
  | peek =>
    obtain ⟨⟨s₁, r⟩, hpeek, heq⟩ := Checked.bind_eq_ok.mp hstep
    obtain ⟨x, -, hs₁⟩ := Checked.bind_eq_ok.mp hpeek
    cases hs₁
    cases heq
    exact ⟨⟨h.wf, h.addressable⟩, .unchanged _ _⟩
  | process iface packetMeta ipRepr repr payload =>
    obtain ⟨s₁, hprocess, heq⟩ := Checked.bind_eq_ok.mp hstep
    cases heq
    obtain ⟨u, -, hprocess⟩ := Checked.bind_eq_ok.mp hprocess
    obtain ⟨x, -, hs₁⟩ := Checked.bind_eq_ok.mp hprocess
    cases hs₁
    exact ⟨⟨h.wf, h.addressable⟩, .unchanged _ _⟩
  | dispatch iface emit =>
    obtain ⟨⟨s₁, offer⟩, hdispatch, heq⟩ := Checked.bind_eq_ok.mp hstep
    cases heq
    obtain ⟨hinv, hhandled⟩ := h.dispatch hdispatch
    exact ⟨hinv, .dispatched iface emit hhandled⟩

end Socket

/-- In every run the datagrams that were accepted are dispatched in order, unchanged, or dropped for
want of a source address; the next one exactly if its source address, where it was settled before,
has the version of its destination. -/
theorem dispatch_iff_sameVersion {rxMetadata txMetadata : List (PacketMetadata UdpMetadata)}
    {rxPayload txPayload : List UInt8} {ops : List Op} {s : Socket} {events : List Event}
    (h : Guarded step Socket.Keeps
      (.new (.new rxMetadata rxPayload) (.new txMetadata txPayload)) ops)
    (hrun : run step (.new (.new rxMetadata rxPayload) (.new txMetadata txPayload)) ops =
      .ok (s, events)) :
    Runs Ledger.Step {} ops (.ok (s.ledger, events)) ∧
      ∀ {cfg : IfaceConfig} (iface : InterfaceInner cfg) (emit : Datagram → Bool),
        (∃ s' offer, s.dispatch iface emit = .ok (s', offer) ∧
          Handled iface emit s.ledger s'.ledger offer) ↔
        ∀ d ∈ s.ledger.pending.head?, s.ledger.SameVersion d.1 := by
  have hempty := PacketBuffer.queue_new txMetadata txPayload
  have hinv : (Socket.new (.new rxMetadata rxPayload) (.new txMetadata txPayload)).Inv := by
    refine ⟨PacketBuffer.wf_new _ _, fun d hd => ?_⟩
    rw [Socket.new, hempty] at hd
    cases hd
  have hsteps : ∀ s o s' r, s.Inv → Socket.Keeps s o → step s o = .ok (s', r) →
      s'.Inv ∧ Ledger.Step s.ledger o (.ok (s'.ledger, r)) :=
    fun _ _ _ _ hinv hkeeps hstep => Socket.Inv.step hinv hkeeps hstep
  obtain ⟨hinv', hruns⟩ := h.refines hsteps hinv hrun
  refine ⟨?_, fun iface emit => hinv'.dispatches_iff iface emit⟩
  rw [Socket.ledger, Socket.new, hempty] at hruns
  exact hruns

/-- A datagram to an IPv6 address is sent from a socket that is bound to a port only. -/
theorem dispatch_iff_sameVersion_unbound : ∃ s events,
    run step (.new (.new [] []) (.new [.padding 0] [0, 0]))
      [.bind ⟨none, 53⟩, .sendSlice [1, 2] ⟨⟨.ipv6 2, 49500⟩, none, 0⟩] =
      .ok (s, events) ∧
    Runs Ledger.Step {}
      [.bind ⟨none, 53⟩, .sendSlice [1, 2] ⟨⟨.ipv6 2, 49500⟩, none, 0⟩]
      (.ok (s.ledger, events)) ∧
    ∀ {cfg : IfaceConfig} (iface : InterfaceInner cfg) (emit : Datagram → Bool),
      (∃ s' offer, s.dispatch iface emit = .ok (s', offer) ∧
        Handled iface emit s.ledger s'.ledger offer) ↔
      ∀ d ∈ s.ledger.pending.head?, s.ledger.SameVersion d.1 := by
  refine ⟨_, _, rfl, @dispatch_iff_sameVersion [] [.padding 0] [] [0, 0] _ _ _ ?_ rfl⟩
  exact ⟨trivial, fun _ _ _ => ⟨trivial, fun _ _ _ => trivial⟩⟩

/-- A datagram from an IPv4 address to an IPv6 address is accepted, and dispatching it panics: the
socket is bound to the IPv4 address, or the address is given with the datagram. -/
theorem not_dispatches :
    (∃ s, run step (.new (.new [] []) (.new [.padding 0] [0]))
        [.bind ⟨some (.ipv4 0x0a000001), 53⟩, .sendSlice [1] ⟨⟨.ipv6 1, 49500⟩, none, 0⟩] =
        .ok (s, [.bound, .sent 1]) ∧
      ∀ {cfg : IfaceConfig} (iface : InterfaceInner cfg) (emit : Datagram → Bool),
        s.dispatch iface emit = .error .ipVersionMismatch) ∧
    ∃ s, run step (.new (.new [] []) (.new [.padding 0] [0]))
        [.bind ⟨none, 53⟩, .sendSlice [1] ⟨⟨.ipv6 1, 49500⟩, some (.ipv4 0x0a000001), 0⟩] =
        .ok (s, [.bound, .sent 1]) ∧
      ∀ {cfg : IfaceConfig} (iface : InterfaceInner cfg) (emit : Datagram → Bool),
        s.dispatch iface emit = .error .ipVersionMismatch :=
  ⟨⟨_, rfl, fun _ _ => rfl⟩, _, rfl, fun _ _ => rfl⟩

end Udp

end Smoltcp
