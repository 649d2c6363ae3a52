import Smoltcp.Iface.Discovery
import Smoltcp.Iface.StackRules
import Smoltcp.Socket.Tcp.Sample

/-!
# Segments and sockets

Every packet that an interface receives leaves its TCP sockets alone, but for one: the first that
accepts the segment in the packet processes it, and its reply is what the interface answers.
-/

namespace Smoltcp

def AnySocket.tcp? : AnySocket → Option Tcp.Socket
  | .tcp s => some s
  | _ => none

namespace SocketSet

variable {α β : Type} {f : AnySocket → α} {sockets sockets' : SocketSet}
  {take : AnySocket → Checked (Option (AnySocket × β))}
  {takeAll : AnySocket → Checked (Option AnySocket)}

/-- The TCP sockets of a set, at their places. -/
def tcps (sockets : SocketSet) : List (Option Tcp.Socket) := sockets.map (·.socket.tcp?)

/-- What a socket keeps when it takes a packet is the same for all sockets. -/
lemma offerAll_map {handled : Bool}
    (hf : ∀ socket socket', takeAll socket = .ok (some socket') → f socket' = f socket)
    (h : offerAll takeAll sockets = .ok (sockets', handled)) :
    sockets'.map (f ·.socket) = sockets.map (f ·.socket) := by
  induction sockets generalizing sockets' handled with
  | nil =>
    cases h
    rfl
  | cons item rest ih =>
    obtain ⟨taken, htake, h⟩ := Checked.bind_eq_ok.mp h
    obtain ⟨⟨rest', handled'⟩, hrest, h⟩ := Checked.bind_eq_ok.mp h
    have hmap := ih hrest
    cases taken with
    | some socket =>
      cases h
      rw [List.map_cons, List.map_cons, hmap, hf _ _ htake]
    | none =>
      cases h
      rw [List.map_cons, List.map_cons, hmap]

/-- The place of the socket that takes a packet. -/
lemma offerFirst_eq_some' {b : β} (h : offerFirst take sockets = .ok (sockets', some b)) :
    ∃ before item after socket, sockets = before ++ item :: after ∧
      (∀ item ∈ before, take item.socket = .ok none) ∧
      take item.socket = .ok (some (socket, b)) ∧
      sockets' = before ++ { item with socket } :: after := by
  induction sockets generalizing sockets' with
  | nil => cases h
  | cons item rest ih =>
    obtain ⟨taken, htake, h⟩ := Checked.bind_eq_ok.mp h
    cases taken with
    | some r =>
      cases h
      exact ⟨[], item, rest, r.1, rfl, by simp, htake, rfl⟩
    | none =>
      obtain ⟨⟨rest', r⟩, hrest, h⟩ := Checked.bind_eq_ok.mp h
      cases h
      obtain ⟨before, found, after, socket, rfl, hbefore, hfound, rfl⟩ := ih hrest
      exact ⟨item :: before, found, after, socket, rfl,
        List.forall_mem_cons.mpr ⟨htake, hbefore⟩, hfound, rfl⟩

lemma offerFirst_map {r : Option β}
    (hf : ∀ socket socket' b, take socket = .ok (some (socket', b)) → f socket' = f socket)
    (h : offerFirst take sockets = .ok (sockets', r)) :
    sockets'.map (f ·.socket) = sockets.map (f ·.socket) := by
  cases r with
  | none =>
    obtain ⟨rfl, -⟩ := offerFirst_eq_none.mp h
    rfl
  | some b =>
    obtain ⟨before, item, after, socket, rfl, htake, rfl⟩ := offerFirst_eq_some h
    simp only [List.map_append, List.map_cons, hf _ _ _ htake]

/-- The socket with a handle is the first one that accepts a segment. -/
structure Takes (sockets : SocketSet) (handle : ℕ) (s : Tcp.Socket) (packet : Tcp.Packet) :
    Prop where
  get : sockets.tcps[handle]? = some (some s)
  accepts : s.accepts packet.1 packet.2
  first : ∀ i < handle, ∀ t, sockets.tcps[i]? = some (some t) → ¬ t.accepts packet.1 packet.2

/-- The handle of the first socket that accepts a segment. -/
def taker (sockets : SocketSet) (packet : Tcp.Packet) : Option ℕ :=
  sockets.tcps.findIdx? fun o => o.any fun s => decide (s.accepts packet.1 packet.2)

section Taker

variable {packet : Tcp.Packet} {handle handle' : ℕ} {s s' : Tcp.Socket}

lemma taker_eq_some_iff :
    sockets.taker packet = some handle ↔ ∃ s, sockets.Takes handle s packet := by
  rw [taker, List.findIdx?_eq_some_iff_getElem]
  constructor
  · rintro ⟨hlt, haccepts, hfirst⟩
    obtain ⟨s, hs, haccepts⟩ := (Option.any_eq_true _ _).mp haccepts
    refine ⟨s, List.getElem?_eq_some_iff.mpr ⟨hlt, hs⟩, of_decide_eq_true haccepts, ?_⟩
    intro i hi t ht haccepts'
    obtain ⟨hlt', ht⟩ := List.getElem?_eq_some_iff.mp ht
    refine hfirst i hi ((Option.any_eq_true _ _).mpr ⟨t, ht, decide_eq_true haccepts'⟩)
  · rintro ⟨s, hget, haccepts, hfirst⟩
    obtain ⟨hlt, hs⟩ := List.getElem?_eq_some_iff.mp hget
    refine ⟨hlt, (Option.any_eq_true _ _).mpr ⟨s, hs, decide_eq_true haccepts⟩, ?_⟩
    intro i hi hany
    obtain ⟨t, ht, haccepts'⟩ := (Option.any_eq_true _ _).mp hany
    exact hfirst i hi t (List.getElem?_eq_some_iff.mpr ⟨_, ht⟩) (of_decide_eq_true haccepts')

lemma taker_eq_none_iff : sockets.taker packet = none ↔
    ∀ s, some s ∈ sockets.tcps → ¬ s.accepts packet.1 packet.2 := by
  rw [taker, List.findIdx?_eq_none_iff]
  constructor
  · intro h s hs haccepts
    have hs := h (some s) hs
    rw [Option.any_some, decide_eq_false_iff_not] at hs
    exact hs haccepts
  · rintro h (_ | s) hs
    · rfl
    · exact decide_eq_false (h s hs)

/-- Only one socket takes a segment. -/
lemma Takes.unique (h : sockets.Takes handle s packet) (h' : sockets.Takes handle' s' packet) :
    handle = handle' ∧ s = s' := by
  have hhandle : some handle = some handle' :=
    (taker_eq_some_iff.mpr ⟨s, h⟩).symm.trans (taker_eq_some_iff.mpr ⟨s', h'⟩)
  cases hhandle
  have hs := h.get.symm.trans h'.get
  cases hs
  exact ⟨rfl, rfl⟩

end Taker

end SocketSet

/-- The segment in what is given to a handler. -/
def Delivery.segment (d : Delivery) (checksum : ChecksumCapabilities) : Option Tcp.Packet :=
  if d.nextHeader = .tcp then
    (TcpRepr.parse checksum.tcp.verifies d.payload d.ipRepr.srcAddr
      d.ipRepr.dstAddr).toOption.map (d.ipRepr, ·)
  else none

namespace Stack

variable {cfg : StackConfig} {st st' : Stack cfg} {chance : Chance} {packetMeta : PacketMeta}
  {hw : HardwareAddress} {buf ipPayload : List UInt8} {reply : Option Packet}

/-- The segment that a received packet brings to the sockets. -/
def segment (st : Stack cfg) (buf : List UInt8) : Option Tcp.Packet :=
  match IpVersion.ofPacket buf with
  | .ok .ipv4 =>
    match st.receiveIpv4 .ip buf with
    | .ok (_, some d) => d.segment st.inner.checksum
    | _ => none
  | .ok .ipv6 =>
    match st.receiveIpv6 .ip buf with
    | .ok (_, .ok d) => d.segment st.inner.checksum
    | _ => none
  | .error _ => none

/-- What becomes of the TCP sockets when a segment arrives, or another packet. -/
inductive Serves (st : Stack cfg) (chance : Chance) :
    Option Tcp.Packet → Stack cfg → Option Packet → Prop where
  | passed {segment : Option Tcp.Packet} {st' : Stack cfg} {reply : Option Packet}
      (hnone : segment.bind st.sockets.taker = none)
      (h : st'.sockets.tcps = st.sockets.tcps) : Serves st chance segment st' reply
  | taken {packet : Tcp.Packet} {handle : ℕ} {s s' : Tcp.Socket} {reply : Option Tcp.Packet}
      {st' : Stack cfg} (htakes : st.sockets.Takes handle s packet)
      (hprocess : s.process (st.tcpContext chance) packet.1 packet.2 = .ok (s', reply))
      (h : st'.sockets.tcps = st.sockets.tcps.set handle (some s')) :
      Serves st chance (some packet) st' (reply.map tcpPacket)

lemma check_eq_ok {σ α β : Type} {s s' : σ} {x : Outcome α} {k : α → Checked (σ × Option β)}
    {r : Option β} (h : check s x k = .ok (s', r)) :
    (∃ a, x = .ok a ∧ k a = .ok (s', r)) ∨ x.toOption = none ∧ s' = s ∧ r = none := by
  match x with
  | .ok a => exact .inl ⟨a, rfl, h⟩
  | .error .malformed =>
    cases h
    exact .inr ⟨rfl, rfl, rfl⟩
  | .error (.panic p) => cases h

/-- What a socket takes behind a test is made of what its function returned. -/
lemma taken_eq {α β : Type} {p : Prop} [Decidable p] {x : Checked α} {f : α → β} {b : β}
    (h : (if p then do return some (f (← x)) else return none : Checked (Option β)) =
      .ok (some b)) : ∃ a, b = f a := by
  split_ifs at h
  · obtain ⟨a, -, h⟩ := Checked.bind_eq_ok.mp h
    cases h
    exact ⟨a, rfl⟩
  · cases h

/-! ### Before the handlers -/

/-- Of what the handlers of segments look at, nothing has changed. -/
structure Keeps (st st' : Stack cfg) : Prop where
  tcps : st'.sockets.tcps = st.sockets.tcps
  refreshed : Refreshed st.inner st'.inner

lemma Keeps.refl (st : Stack cfg) : Keeps st st := ⟨rfl, _, rfl⟩

lemma Keeps.tcpContext (h : Keeps st st') (chance : Chance) :
    st'.tcpContext chance = st.tcpContext chance := by
  obtain ⟨cache, hinner⟩ := h.refreshed
  unfold Stack.tcpContext
  rw [hinner]
  rfl

lemma Keeps.checksum (h : Keeps st st') : st'.inner.checksum = st.inner.checksum := by
  obtain ⟨cache, hinner⟩ := h.refreshed
  rw [hinner]

lemma rawSocketFilter_tcps {ipRepr : IpRepr} {sockets : SocketSet} {handled : Bool}
    (h : st.rawSocketFilter ipRepr ipPayload = .ok (sockets, handled)) :
    sockets.tcps = st.sockets.tcps := by
  refine SocketSet.offerAll_map (f := AnySocket.tcp?) ?_ h
  intro socket socket' htake
  cases socket with
  | raw s =>
    obtain ⟨s', heq⟩ := taken_eq htake
    cases heq
    rfl
  | _ => cases htake

lemma offerDhcpv4_tcps {ipv4Repr : Ipv4.Repr} {srcPort dstPort : UInt16} {payload : List UInt8}
    {sockets : SocketSet} {done : Option Bool}
    (h : st.offerDhcpv4 ipv4Repr ipPayload srcPort dstPort payload = .ok (sockets, done)) :
    sockets.tcps = st.sockets.tcps := by
  refine SocketSet.offerFirst_map (f := AnySocket.tcp?) ?_ h
  intro socket socket' b htake
  cases socket with
  | dhcpv4 s =>
    simp only at htake
    split_ifs at htake
    · split at htake
      · cases htake
        rfl
      · cases htake
      · obtain ⟨s', -, htake⟩ := Checked.bind_eq_ok.mp htake
        cases htake
        rfl
    · cases htake
      rfl
  | _ => cases htake

lemma filterDhcpv4_keeps {ipv4Repr : Ipv4.Repr} {done : Bool}
    (h : st.filterDhcpv4 ipv4Repr ipPayload = .ok (st', done)) : Keeps st st' := by
  unfold filterDhcpv4 at h
  split_ifs at h
  · split at h
    · cases h
      exact .refl st
    · cases h
    · obtain ⟨⟨sockets, done'⟩, hoffer, h⟩ := Checked.bind_eq_ok.mp h
      cases h
      exact ⟨offerDhcpv4_tcps hoffer, _, rfl⟩
  · cases h
    exact .refl st

lemma receiveIpv4_keeps {r : Option Delivery} (h : st.receiveIpv4 hw buf = .ok (st', r)) :
    Keeps st st' := by
  rcases check_eq_ok h with ⟨ipv4Repr, -, h⟩ | ⟨-, rfl, -⟩
  swap
  · exact .refl _
  split_ifs at h
  · cases h
    exact .refl st
  obtain ⟨⟨st₁, r₁⟩, hreassemble, h⟩ := Checked.bind_eq_ok.mp h
  obtain ⟨hinner, hsockets, -⟩ := reassemble_eq_ok hreassemble
  have h₁ : Keeps st st₁ := ⟨congrArg SocketSet.tcps hsockets, _, hinner⟩
  cases r₁ with
  | none =>
    cases h
    exact h₁
  | some ipPayload =>
    obtain ⟨⟨sockets, handled⟩, hraw, h⟩ := Checked.bind_eq_ok.mp h
    obtain ⟨⟨st₂, done⟩, hdhcp, h⟩ := Checked.bind_eq_ok.mp h
    have hkeeps := filterDhcpv4_keeps hdhcp
    obtain ⟨sockets₂, rfl⟩ := filterDhcpv4_eq_ok hdhcp
    have htcps : sockets₂.tcps = st.sockets.tcps :=
      hkeeps.tcps.trans ((rawSocketFilter_tcps hraw).trans h₁.tcps)
    dsimp only at h
    split_ifs at h
    · cases h
      exact ⟨htcps, _, hinner⟩
    · obtain ⟨takes, -, h⟩ := Checked.bind_eq_ok.mp h
      split_ifs at h
      · cases h
        exact ⟨htcps, hinner ▸ refreshed_ipv4 _ _ _⟩
      · cases h
        exact ⟨htcps, _, hinner⟩

lemma checkReceived_eq {α : Type} {x : Outcome α} {k : α → Checked (Stack cfg × Received)}
    {r : Received} (h : st.checkReceived x k = .ok (st', r)) :
    (∃ a, x = .ok a ∧ k a = .ok (st', r)) ∨ st' = st ∧ r = .error none := by
  match x with
  | .ok a => exact .inl ⟨a, rfl, h⟩
  | .error .malformed =>
    cases h
    exact .inr ⟨rfl, rfl⟩
  | .error (.panic p) => cases h

lemma receiveIpv6_keeps {r : Received} (h : st.receiveIpv6 hw buf = .ok (st', r)) :
    Keeps st st' := by
  cases r with
  | ok d =>
    obtain ⟨ipv6Repr, payload, hr⟩ := receivedIpv6 h
    refine ⟨rawSocketFilter_tcps hr.raw, ?_⟩
    rw [hr.inner]
    exact refreshed_ipv6 _ _ _
  | error answer =>
    suffices heq : st' = st by
      rw [heq]
      exact .refl st
    rcases checkReceived_eq h with ⟨ipv6Repr, -, h⟩ | ⟨rfl, -⟩
    swap
    · rfl
    split_ifs at h
    swap
    · cases h
      rfl
    rcases checkReceived_eq h with ⟨payload, -, h⟩ | ⟨rfl, -⟩
    swap
    · rfl
    obtain ⟨response, -, h⟩ := Checked.bind_eq_ok.mp h
    cases response with
    | discard answer' =>
      cases h
      rfl
    | next nextHeader ipPayload =>
      obtain ⟨takes, -, h⟩ := Checked.bind_eq_ok.mp h
      split_ifs at h
      · obtain ⟨⟨sockets, handled⟩, hraw, h⟩ := Checked.bind_eq_ok.mp h
        obtain ⟨-, hd⟩ := Prod.mk.inj (Except.ok.inj h)
        cases hd
      · cases h
        rfl

/-! ### Handlers -/

lemma offerUdp_tcps {ipRepr : IpRepr} {udpRepr : UdpRepr} {payload : List UInt8}
    {sockets : SocketSet} {r : Option Unit}
    (h : st.offerUdp packetMeta ipRepr udpRepr payload = .ok (sockets, r)) :
    sockets.tcps = st.sockets.tcps := by
  refine SocketSet.offerFirst_map (f := AnySocket.tcp?) ?_ h
  intro socket socket' b htake
  cases socket with
  | udp s =>
    obtain ⟨s', heq⟩ := taken_eq htake
    cases heq
    rfl
  | _ => cases htake

lemma offerDns_tcps {ipRepr : IpRepr} {udpRepr : UdpRepr} {payload : List UInt8}
    {sockets : SocketSet} {r : Option Unit}
    (h : st.offerDns ipRepr udpRepr payload = .ok (sockets, r)) :
    sockets.tcps = st.sockets.tcps := by
  refine SocketSet.offerFirst_map (f := AnySocket.tcp?) ?_ h
  intro socket socket' b htake
  cases socket with
  | dns s =>
    obtain ⟨s', heq⟩ := taken_eq htake
    cases heq
    rfl
  | _ => cases htake

lemma processUdp_tcps {handled : Bool} {ipRepr : IpRepr}
    (h : st.processUdp packetMeta handled ipRepr ipPayload = .ok (st', reply)) :
    st'.sockets.tcps = st.sockets.tcps := by
  rcases check_eq_ok h with ⟨udpRepr, -, h⟩ | ⟨-, rfl, -⟩
  swap
  · rfl
  rcases check_eq_ok h with ⟨payload, -, h⟩ | ⟨-, rfl, -⟩
  swap
  · rfl
  obtain ⟨⟨sockets, r⟩, hudp, h⟩ := Checked.bind_eq_ok.mp h
  cases r with
  | some u =>
    cases h
    exact offerUdp_tcps hudp
  | none =>
    obtain ⟨⟨sockets, r⟩, hdns, h⟩ := Checked.bind_eq_ok.mp h
    cases r with
    | some u =>
      cases h
      exact offerDns_tcps hdns
    | none =>
      dsimp only at h
      split_ifs at h
      · cases h
        rfl
      · obtain ⟨answer, -, h⟩ := Checked.bind_eq_ok.mp h
        cases h
        rfl

lemma offerIcmpv4_tcps {ipRepr : Ipv4.Repr} {icmpRepr : Icmpv4Repr} {sockets : SocketSet}
    {handled : Bool} (h : st.offerIcmpv4 ipRepr icmpRepr = .ok (sockets, handled)) :
    sockets.tcps = st.sockets.tcps := by
  refine SocketSet.offerAll_map (f := AnySocket.tcp?) ?_ h
  intro socket socket' htake
  cases socket with
  | icmp s =>
    obtain ⟨accepts, -, htake⟩ := Checked.bind_eq_ok.mp htake
    obtain ⟨s', heq⟩ := taken_eq htake
    cases heq
    rfl
  | _ => cases htake

lemma offerIcmpv6_tcps {ipRepr : Ipv6Repr} {icmpRepr : Icmpv6Repr} {sockets : SocketSet}
    {handled : Bool} (h : st.offerIcmpv6 ipRepr icmpRepr = .ok (sockets, handled)) :
    sockets.tcps = st.sockets.tcps := by
  refine SocketSet.offerAll_map (f := AnySocket.tcp?) ?_ h
  intro socket socket' htake
  cases socket with
  | icmp s =>
    obtain ⟨accepts, -, htake⟩ := Checked.bind_eq_ok.mp htake
    obtain ⟨s', heq⟩ := taken_eq htake
    cases heq
    rfl
  | _ => cases htake

lemma processIcmpv4_tcps {ipRepr : Ipv4.Repr}
    (h : st.processIcmpv4 ipRepr ipPayload = .ok (st', reply)) :
    st'.sockets.tcps = st.sockets.tcps := by
  rcases check_eq_ok h with ⟨icmpRepr, -, h⟩ | ⟨-, rfl, -⟩
  swap
  · rfl
  obtain ⟨⟨sockets, handled⟩, hoffer, h⟩ := Checked.bind_eq_ok.mp h
  cases icmpRepr <;> cases h <;> exact offerIcmpv4_tcps hoffer

lemma answerIcmpv6_sockets {ipRepr : Ipv6Repr} {icmpRepr : Icmpv6Repr}
    (h : st.answerIcmpv6 chance ipRepr icmpRepr = .ok (st', reply)) :
    st'.sockets = st.sockets := by
  unfold answerIcmpv6 at h
  split at h
  · obtain ⟨answer, -, h⟩ := Checked.bind_eq_ok.mp h
    cases h
    rfl
  · split_ifs at h
    · obtain ⟨⟨inner, answer⟩, -, h⟩ := Checked.bind_eq_ok.mp h
      cases h
      rfl
    · cases h
      rfl
  · split_ifs at h <;> cases h <;> rfl
  · cases h
    rfl

lemma processIcmpv6_tcps {ipRepr : Ipv6Repr}
    (h : st.processIcmpv6 chance ipRepr ipPayload = .ok (st', reply)) :
    st'.sockets.tcps = st.sockets.tcps := by
  rcases check_eq_ok h with ⟨icmpRepr, -, h⟩ | ⟨-, rfl, -⟩
  swap
  · rfl
  obtain ⟨⟨sockets, handled⟩, hoffer, h⟩ := Checked.bind_eq_ok.mp h
  rw [answerIcmpv6_sockets h]
  exact offerIcmpv6_tcps hoffer

/-- What a socket makes of a segment that it is offered. -/
def takeTcp (st : Stack cfg) (chance : Chance) (ipRepr : IpRepr) (tcpRepr : TcpRepr) :
    AnySocket → Checked (Option (AnySocket × Option Tcp.Packet))
  | .tcp s => do
    if s.accepts ipRepr tcpRepr then
      let (s, reply) ← s.process (st.tcpContext chance) ipRepr tcpRepr
      return some (.tcp s, reply)
    else return none
  | _ => .ok none

section Offer

variable {ipRepr : IpRepr} {tcpRepr : TcpRepr} {socket socket' : AnySocket}

lemma offerTcp_eq_offerFirst : st.offerTcp chance ipRepr tcpRepr =
    st.sockets.offerFirst (st.takeTcp chance ipRepr tcpRepr) := rfl

lemma not_accepts_of_takeTcp (h : st.takeTcp chance ipRepr tcpRepr socket = .ok none)
    {s : Tcp.Socket} (hs : socket.tcp? = some s) : ¬ s.accepts ipRepr tcpRepr := by
  cases socket with
  | tcp t =>
    cases hs
    intro haccepts
    rw [takeTcp, if_pos haccepts] at h
    obtain ⟨_, -, h⟩ := Checked.bind_eq_ok.mp h
    cases h
  | _ => cases hs

lemma takeTcp_eq_some {reply : Option Tcp.Packet}
    (h : st.takeTcp chance ipRepr tcpRepr socket = .ok (some (socket', reply))) :
    ∃ s s', socket = .tcp s ∧ socket' = .tcp s' ∧ s.accepts ipRepr tcpRepr ∧
      s.process (st.tcpContext chance) ipRepr tcpRepr = .ok (s', reply) := by
  cases socket with
  | tcp s =>
    simp only [takeTcp] at h
    split_ifs at h with haccepts
    · obtain ⟨⟨s', reply'⟩, hprocess, h⟩ := Checked.bind_eq_ok.mp h
      cases h
      exact ⟨s, s', rfl, rfl, haccepts, hprocess⟩
    · cases h
  | _ => cases h

/-- The loop over the sockets passes a segment on to no one that accepts it. -/
lemma offerTcp_eq_none {sockets : SocketSet}
    (h : st.offerTcp chance ipRepr tcpRepr = .ok (sockets, none)) :
    sockets = st.sockets ∧ ∀ s, some s ∈ st.sockets.tcps → ¬ s.accepts ipRepr tcpRepr := by
  rw [offerTcp_eq_offerFirst] at h
  obtain ⟨rfl, hall⟩ := SocketSet.offerFirst_eq_none.mp h
  refine ⟨rfl, fun s hs => ?_⟩
  obtain ⟨item, hitem, htcp⟩ := List.mem_map.mp hs
  exact not_accepts_of_takeTcp (hall item hitem) htcp

/-- The loop over the sockets ends with the first one that accepts a segment. -/
lemma offerTcp_eq_some {sockets : SocketSet} {reply : Option Tcp.Packet}
    (h : st.offerTcp chance ipRepr tcpRepr = .ok (sockets, some reply)) :
    ∃ handle s s', st.sockets.Takes handle s (ipRepr, tcpRepr) ∧
      s.process (st.tcpContext chance) ipRepr tcpRepr = .ok (s', reply) ∧
      sockets.tcps = st.sockets.tcps.set handle (some s') := by
  rw [offerTcp_eq_offerFirst] at h
  obtain ⟨before, item, after, socket, hsockets, hbefore, htake, rfl⟩ :=
    SocketSet.offerFirst_eq_some' h
  obtain ⟨s, s', hitem, rfl, haccepts, hprocess⟩ := takeTcp_eq_some htake
  refine ⟨before.length, s, s', ⟨?_, haccepts, ?_⟩, hprocess, ?_⟩
  · simp [SocketSet.tcps, hsockets, hitem, AnySocket.tcp?]
  · intro i hi t ht
    rw [SocketSet.tcps, List.getElem?_map, hsockets, List.getElem?_append_left hi] at ht
    obtain ⟨item', hitem', htcp⟩ := Option.map_eq_some_iff.mp ht
    exact not_accepts_of_takeTcp (hbefore item' (List.mem_of_getElem? hitem')) htcp
  · simp [SocketSet.tcps, hsockets, AnySocket.tcp?]

end Offer

lemma processTcp_serves {ipRepr : IpRepr}
    (h : st.processTcp chance ipRepr ipPayload = .ok (st', reply)) :
    Serves st chance ((TcpRepr.parse st.inner.checksum.tcp.verifies ipPayload ipRepr.srcAddr
      ipRepr.dstAddr).toOption.map (ipRepr, ·)) st' reply := by
  rcases check_eq_ok h with ⟨tcpRepr, hparse, h⟩ | ⟨hparse, rfl, -⟩
  swap
  · rw [hparse]
    exact .passed rfl rfl
  rw [hparse]
  obtain ⟨⟨sockets, r⟩, hoffer, h⟩ := Checked.bind_eq_ok.mp h
  cases r with
  | some reply' =>
    cases h
    obtain ⟨handle, s, s', htakes, hprocess, htcps⟩ := offerTcp_eq_some hoffer
    exact .taken htakes hprocess htcps
  | none =>
    obtain ⟨rfl, hnone⟩ := offerTcp_eq_none hoffer
    refine .passed (SocketSet.taker_eq_none_iff.mpr hnone) ?_
    · dsimp only at h
      split_ifs at h
      · cases h
        rfl
      · obtain ⟨answer, -, h⟩ := Checked.bind_eq_ok.mp h
        cases h
        rfl

/-- A packet that has passed everything before the handlers. -/
lemma deliver_serves {d : Delivery}
    (hnext : ∀ header, d.ipRepr = .ipv4 header → d.nextHeader = header.nextHeader)
    (h : st.deliver chance packetMeta d = .ok (st', reply)) :
    Serves st chance (d.segment st.inner.checksum) st' reply := by
  have hother : d.nextHeader ≠ .tcp → st'.sockets.tcps = st.sockets.tcps →
      Serves st chance (d.segment st.inner.checksum) st' reply := by
    intro hne htcps
    rw [Delivery.segment, if_neg hne]
    exact .passed rfl htcps
  unfold deliver at h
  cases hip : d.ipRepr with
  | ipv4 header =>
    rw [hip] at h
    have hnext := hnext header hip
    cases hproto : header.nextHeader <;> simp only [deliverIpv4, hproto] at h
    case tcp =>
      rw [Delivery.segment, if_pos (hnext.trans hproto), hip]
      exact processTcp_serves h
    case icmp => exact hother (by simp [hnext, hproto]) (processIcmpv4_tcps h)
    case udp => exact hother (by simp [hnext, hproto]) (processUdp_tcps h)
    case igmp =>
      cases h
      exact hother (by simp [hnext, hproto]) rfl
    all_goals
      split_ifs at h <;> cases h <;> exact hother (by simp [hnext, hproto]) rfl
  | ipv6 header =>
    rw [hip] at h
    cases hproto : d.nextHeader <;> simp only [processNxtHdr, hproto] at h
    case tcp =>
      rw [Delivery.segment, if_pos hproto, hip]
      exact processTcp_serves h
    case icmpv6 => exact hother (by simp [hproto]) (processIcmpv6_tcps h)
    case udp => exact hother (by simp [hproto]) (processUdp_tcps h)
    all_goals
      split_ifs at h
      · cases h
        exact hother (by simp [hproto]) rfl
      · obtain ⟨answer, -, h⟩ := Checked.bind_eq_ok.mp h
        cases h
        exact hother (by simp [hproto]) rfl

lemma Keeps.taker (h : Keeps st st') : st'.sockets.taker = st.sockets.taker := by
  funext packet
  rw [SocketSet.taker, SocketSet.taker, h.tcps]

lemma Serves.of_keeps {st₁ : Stack cfg} {segment : Option Tcp.Packet} (hkeeps : Keeps st st₁)
    (h : Serves st₁ chance segment st' reply) : Serves st chance segment st' reply := by
  cases h with
  | passed hnone h =>
    rw [hkeeps.taker] at hnone
    exact .passed hnone (h.trans hkeeps.tcps)
  | taken htakes hprocess h =>
    rw [hkeeps.tcpContext] at hprocess
    rw [hkeeps.tcps] at h
    obtain ⟨hget, haccepts, hfirst⟩ := htakes
    rw [hkeeps.tcps] at hget hfirst
    exact .taken ⟨hget, haccepts, hfirst⟩ hprocess h

lemma processIp_serves (h : st.processIp chance packetMeta buf = .ok (st', reply)) :
    Serves st chance (st.segment buf) st' reply := by
  unfold processIp at h
  unfold segment
  cases hversion : IpVersion.ofPacket buf with
  | error e =>
    rw [hversion] at h
    cases h
    exact .passed rfl rfl
  | ok version =>
    rw [hversion] at h
    cases version with
    | ipv4 =>
      obtain ⟨⟨st₁, r⟩, hreceive, h⟩ := Checked.bind_eq_ok.mp h
      have hkeeps := receiveIpv4_keeps hreceive
      simp only [hreceive]
      cases r with
      | none =>
        cases h
        exact .passed rfl hkeeps.tcps
      | some d =>
        obtain ⟨ipv4Repr, hr⟩ := receivedIpv4 hreceive
        rw [← hkeeps.checksum]
        refine (deliver_serves ?_ h).of_keeps hkeeps
        intro header hip
        rw [hr.ipRepr] at hip
        cases hip
        exact hr.nextHeader
    | ipv6 =>
      obtain ⟨⟨st₁, r⟩, hreceive, h⟩ := Checked.bind_eq_ok.mp h
      have hkeeps := receiveIpv6_keeps hreceive
      simp only [hreceive]
      cases r with
      | error answer =>
        cases h
        exact .passed rfl hkeeps.tcps
      | ok d =>
        obtain ⟨ipv6Repr, payload, hr⟩ := receivedIpv6 hreceive
        rw [← hkeeps.checksum]
        refine (deliver_serves ?_ h).of_keeps hkeeps
        intro header hip
        rw [hr.ipRepr] at hip
        cases hip

/-- Whatever packet arrives, a TCP socket is changed by it only if it is the first one that accepts
the segment in it. That one processes the segment, and what it replies is the answer. -/
theorem processIp_tcps (h : st.processIp chance packetMeta buf = .ok (st', reply)) :
    (∀ packet handle s, st.segment buf = some packet → st.sockets.Takes handle s packet →
      ∃ s' p, s.process (st.tcpContext chance) packet.1 packet.2 = .ok (s', p) ∧
        st'.sockets.tcps = st.sockets.tcps.set handle (some s') ∧ reply = p.map tcpPacket) ∧
    ((st.segment buf).bind st.sockets.taker = none → st'.sockets.tcps = st.sockets.tcps) := by
  have hserves := processIp_serves h
  generalize st.segment buf = segment at hserves ⊢
  cases hserves with
  | passed hnone htcps =>
    refine ⟨fun packet handle s hsegment htakes => ?_, fun _ => htcps⟩
    rw [hsegment, Option.bind_some, SocketSet.taker_eq_some_iff.mpr ⟨s, htakes⟩] at hnone
    cases hnone
  | taken htakes hprocess htcps =>
    constructor
    · intro packet handle s hsegment htakes'
      cases hsegment
      obtain ⟨rfl, rfl⟩ := htakes.unique htakes'
      exact ⟨_, _, hprocess, htcps, rfl⟩
    · intro hnone
      rw [Option.bind_some, SocketSet.taker_eq_some_iff.mpr ⟨_, htakes⟩] at hnone
      cases hnone

open InterfaceInner (exampleIface)

/-- A SYN from 10.0.0.2 to port 80 of 10.0.0.1. -/
def exampleSyn : List UInt8 :=
  Ipv4.Repr.emit true ⟨0x0a000002, 0x0a000001, .tcp, 20, 64⟩ (List.replicate 20 0) ++
    ((Tcp.Sample.segment .syn 100 none 1000 []).emit true (List.replicate 20 0)
      (.ipv4 0x0a000002) (.ipv4 0x0a000001)).toOption.getD []

/-- A stack with two sockets that listen on port 80. -/
def exampleListeners : Option (Stack .default) := do
  let y ← Tcp.Sys.start Tcp.Sample.config (Tcp.Sample.buffer 4) (Tcp.Sample.buffer 4)
  let y ← (y.step (.listen ⟨none, 80⟩)).toOption
  return ⟨exampleIface, .new StackConfig.default.reassembly, .new 0,
    SocketSet.add (SocketSet.add [] (.tcp y.socket)) (.tcp y.socket)⟩

/-- Of two sockets that listen on the port of a SYN, the first takes it. -/
theorem processIp_tcps_syn : ∃ st st' reply packet s s', exampleListeners = some st ∧
    st.processIp ⟨10000, 0, 0⟩ 0 exampleSyn = .ok (st', reply) ∧
    st.segment exampleSyn = some packet ∧ st.sockets.Takes 0 s packet ∧
    s.state = .listen ∧ s'.state = .synReceived ∧
    st'.sockets.tcps = st.sockets.tcps.set 0 (some s') := by
  have hany : exampleListeners.any (fun st =>
      (st.processIp ⟨10000, 0, 0⟩ 0 exampleSyn).toOption.any fun r =>
        (st.segment exampleSyn).any fun packet => st.sockets.taker packet = some 0 ∧
          st.sockets.tcps.map (·.map Tcp.Socket.state) = [some .listen, some .listen] ∧
          r.1.sockets.tcps.map (·.map Tcp.Socket.state) = [some .synReceived, some .listen]) =
      true := by decide +kernel
  obtain ⟨st, hst, hany⟩ := (Option.any_eq_true _ _).mp hany
  obtain ⟨⟨st', reply⟩, hprocess, hany⟩ := Checked.exists_of_any hany
  obtain ⟨packet, hsegment, hany⟩ := (Option.any_eq_true _ _).mp hany
  obtain ⟨htaker, hbefore, hafter⟩ := of_decide_eq_true hany
  obtain ⟨s, htakes⟩ := SocketSet.taker_eq_some_iff.mp htaker
  obtain ⟨s', p, -, htcps, -⟩ := (processIp_tcps hprocess).1 packet 0 s hsegment htakes
  refine ⟨st, st', reply, packet, s, s', hst, hprocess, hsegment, htakes, ?_, ?_, htcps⟩
  · have hget := congrArg (·[0]?) hbefore
    simp only [List.getElem?_map, htakes.get] at hget
    simpa using hget
  · have hget := congrArg (·[0]?) hafter
    obtain ⟨hlt, -⟩ := List.getElem?_eq_some_iff.mp htakes.get
    simp only [htcps, List.getElem?_map, List.getElem?_set_self hlt] at hget
    simpa using hget

end Stack

end Smoltcp
