import Smoltcp.Iface.Stack

/-!
# Rules for received packets

What has happened to a packet that gets as far as the handlers: every check was passed, and of the
interface only the neighbor cache may have changed.
-/

namespace Smoltcp

lemma check_eq_some {σ α β : Type} {s s' : σ} {x : Outcome α} {k : α → Checked (σ × Option β)}
    {b : β} : check s x k = .ok (s', some b) ↔ ∃ a, x = .ok a ∧ k a = .ok (s', some b) := by
  match x with
  | .ok a => simp [check]
  | .error .malformed => simp [check]
  | .error (.panic p) => simp [check]

lemma Outcome.ofResult_eq_ok {α : Type} {x : Except WireError α} {a : α} :
    Outcome.ofResult x = .ok a ↔ x = .ok a := by
  cases x with
  | error e => simp [Outcome.ofResult, Outcome.fail]
  | ok b => simp [Outcome.ofResult]

namespace Stack

variable {cfg : StackConfig} {st st' : Stack cfg} {buf ipPayload : List UInt8}
  {hw : HardwareAddress} {d : Delivery}

lemma checkReceived_eq_ok {α : Type} {x : Outcome α} {k : α → Checked (Stack cfg × Received)} :
    st.checkReceived x k = .ok (st', .ok d) ↔ ∃ a, x = .ok a ∧ k a = .ok (st', .ok d) := by
  match x with
  | .ok a => simp [checkReceived]
  | .error .malformed => simp [checkReceived]
  | .error (.panic p) => simp [checkReceived]

/-- Of the stack only the fragments change. -/
lemma reassemble_eq_ok {r : Option (List UInt8)} (h : st.reassemble buf = .ok (st', r)) :
    st'.inner = st.inner ∧ st'.sockets = st.sockets ∧ st'.fragmenter = st.fragmenter := by
  unfold reassemble at h
  split_ifs at h
  · obtain ⟨frag, -, h⟩ := Checked.bind_eq_ok.mp h
    obtain ⟨⟨assembler, r'⟩, -, h⟩ := Checked.bind_eq_ok.mp h
    cases r' <;> cases h <;> exact ⟨rfl, rfl, rfl⟩
  · cases h
    exact ⟨rfl, rfl, rfl⟩

/-- Of the stack only the sockets change. -/
lemma filterDhcpv4_eq_ok {ipv4Repr : Ipv4.Repr} {done : Bool}
    (h : st.filterDhcpv4 ipv4Repr ipPayload = .ok (st', done)) :
    ∃ sockets, st' = { st with sockets } := by
  unfold filterDhcpv4 at h
  split_ifs at h
  · cases hfields : udpFields ipPayload with
    | error e =>
      rw [hfields] at h
      cases e with
      | malformed =>
        cases h
        exact ⟨_, rfl⟩
      | panic p => cases h
    | ok fields =>
      rw [hfields] at h
      obtain ⟨⟨sockets, done'⟩, -, h⟩ := Checked.bind_eq_ok.mp h
      cases h
      exact ⟨_, rfl⟩
  · cases h
    exact ⟨_, rfl⟩

/-- What the expiry of a neighbor does to an interface. -/
def Refreshed (inner inner' : InterfaceInner cfg.iface) : Prop :=
  ∃ neighborCache, inner' = { inner with neighborCache }

lemma refreshed_ipv4 (inner : InterfaceInner cfg.iface) (hw : HardwareAddress)
    (ipv4Repr : Ipv4.Repr) : Refreshed inner (inner.refreshIpv4 hw ipv4Repr) := by
  unfold InterfaceInner.refreshIpv4
  split_ifs
  · exact ⟨_, rfl⟩
  · exact ⟨_, rfl⟩

lemma refreshed_ipv6 (inner : InterfaceInner cfg.iface) (hw : HardwareAddress)
    (ipv6Repr : Ipv6Repr) : Refreshed inner (inner.refreshIpv6 hw ipv6Repr) := by
  unfold InterfaceInner.refreshIpv6
  split_ifs
  · exact ⟨_, rfl⟩
  · exact ⟨_, rfl⟩

/-- An IPv4 packet that is given to a handler. -/
structure ReceivedIpv4 (st : Stack cfg) (buf : List UInt8) (st' : Stack cfg) (d : Delivery)
    (ipv4Repr : Ipv4.Repr) : Prop where
  parse : Ipv4.Repr.parse st.inner.checksum.ipv4.verifies buf = .ok ipv4Repr
  source : st.inner.isUnicastV4 ipv4Repr.srcAddr ∨ Ipv4.isUnspecified ipv4Repr.srcAddr
  reassemble : ∃ st₁, st.reassemble buf = .ok (st₁, some d.payload) ∧
    ∃ sockets, st₁.rawSocketFilter (.ipv4 ipv4Repr) d.payload = .ok (sockets, d.handledByRawSocket)
  takesFor : st.inner.takesFor (.ipv4 ipv4Repr.dstAddr) = .ok true
  ipRepr : d.ipRepr = .ipv4 ipv4Repr
  nextHeader : d.nextHeader = ipv4Repr.nextHeader
  refreshed : Refreshed st.inner st'.inner

lemma receivedIpv4 (h : st.receiveIpv4 hw buf = .ok (st', some d)) :
    ∃ ipv4Repr, ReceivedIpv4 st buf st' d ipv4Repr := by
  obtain ⟨ipv4Repr, hparse, h⟩ := check_eq_some.mp h
  split_ifs at h with hsrc
  · cases h
  obtain ⟨⟨st₁, r⟩, hreassemble, h⟩ := Checked.bind_eq_ok.mp h
  cases r with
  | none => cases h
  | some ipPayload =>
    obtain ⟨⟨sockets, handled⟩, hraw, h⟩ := Checked.bind_eq_ok.mp h
    obtain ⟨⟨st₂, done⟩, hdhcp, h⟩ := Checked.bind_eq_ok.mp h
    obtain ⟨sockets₂, rfl⟩ := filterDhcpv4_eq_ok hdhcp
    dsimp only at h
    split_ifs at h
    · cases h
    obtain ⟨takes, htakes, h⟩ := Checked.bind_eq_ok.mp h
    obtain ⟨hinner, -, -⟩ := reassemble_eq_ok hreassemble
    split_ifs at h with ht
    · cases h
      refine ⟨ipv4Repr, Outcome.ofResult_eq_ok.mp hparse, ?_, ⟨st₁, hreassemble, sockets, hraw⟩, ?_,
        rfl, rfl, ?_⟩
      · tauto
      · rw [← hinner]
        exact ht ▸ htakes
      · rw [← hinner]
        exact refreshed_ipv4 _ _ _
    · cases h

/-- An IPv6 packet that is given to a handler. -/
structure ReceivedIpv6 (st : Stack cfg) (hw : HardwareAddress) (buf : List UInt8) (st' : Stack cfg)
    (d : Delivery) (ipv6Repr : Ipv6Repr) (payload : List UInt8) : Prop where
  parse : Ipv6Repr.parse buf = .ok ipv6Repr
  source : Ipv6.isUnicast ipv6Repr.srcAddr
  payload_eq : Ipv6Packet.payload buf = .ok payload
  skip : st.skipHopbyhop ipv6Repr payload = .ok (.next d.nextHeader d.payload)
  raw : st.rawSocketFilter (.ipv6 ipv6Repr.toHeader) d.payload =
    .ok (st'.sockets, d.handledByRawSocket)
  takesFor : st.inner.takesFor (.ipv6 ipv6Repr.dstAddr) = .ok true
  ipRepr : d.ipRepr = .ipv6 ipv6Repr.toHeader
  inner : st'.inner = st.inner.refreshIpv6 hw ipv6Repr

lemma receivedIpv6 (h : st.receiveIpv6 hw buf = .ok (st', .ok d)) :
    ∃ ipv6Repr payload, ReceivedIpv6 st hw buf st' d ipv6Repr payload := by
  obtain ⟨ipv6Repr, hparse, h⟩ := checkReceived_eq_ok.mp h
  split_ifs at h with hsrc
  swap
  · cases h
  obtain ⟨payload, hpayload, h⟩ := checkReceived_eq_ok.mp h
  obtain ⟨response, hskip, h⟩ := Checked.bind_eq_ok.mp h
  cases response with
  | discard answer => cases h
  | next nextHeader ipPayload =>
    obtain ⟨takes, htakes, h⟩ := Checked.bind_eq_ok.mp h
    split_ifs at h with ht
    · obtain ⟨⟨sockets, handled⟩, hraw, h⟩ := Checked.bind_eq_ok.mp h
      obtain ⟨rfl, hd⟩ := Prod.mk.inj (Except.ok.inj h)
      obtain rfl := Except.ok.inj hd
      subst ht
      exact ⟨ipv6Repr, payload, {
        parse := hparse
        source := hsrc
        payload_eq := hpayload
        skip := hskip
        raw := hraw
        takesFor := htakes
        ipRepr := rfl
        inner := by dsimp only }⟩
    · cases h

end Stack

end Smoltcp
