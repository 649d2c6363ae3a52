import Smoltcp.Iface.StackRules
import Smoltcp.Wire.IpRoundTrip

/-!
# Which packets are for the host

Packets should reach the handlers of the transport protocols only if they are addressed to the host.
For IPv4 this is so. For IPv6, the solicited-node addresses of the host are recognised by their last
two octets alone, so other addresses pass, too.
-/

namespace Smoltcp

/-! ### Addresses of the host -/

namespace InterfaceInner

variable {cfg : IfaceConfig} (iface : InterfaceInner cfg)

/-- The solicited-node address of one of the addresses of the host, other than the loopback
address. -/
def isOwnSolicitedNode (addr : Ipv6.Address) : Prop :=
  ∃ cidr ∈ iface.ipv6Cidrs, cidr.address ≠ Ipv6.localhost ∧
    Ipv6.octets addr = Ipv6.solicitedNodePrefix ++ (Ipv6.octets cidr.address).drop 13

/-- The addresses of packets for the host. -/
def isAddressed : IpAddress → Prop
  | .ipv4 addr =>
    iface.hasIpAddr (.ipv4 addr) ∨
      Ipv4.isBroadcast addr ∨ (∃ cidr ∈ iface.ipv4Cidrs, cidr.broadcast = some addr) ∨
      addr = Ipv4.multicastAllSystems ∨ iface.multicast.hasMulticastGroup (.ipv4 addr)
  | .ipv6 addr =>
    iface.hasIpAddr (.ipv6 addr) ∨
      Ipv6.isLoopback addr ∨ addr = Ipv6.linkLocalAllNodes ∨
      (cfg.protoRpl ∧ addr = Ipv6.linkLocalAllRplNodes) ∨
      iface.multicast.hasMulticastGroup (.ipv6 addr) ∨ iface.isOwnSolicitedNode addr

instance (addr : Ipv6.Address) : Decidable (iface.isOwnSolicitedNode addr) :=
  inferInstanceAs (Decidable (∃ _ ∈ _, _))

instance : (addr : IpAddress) → Decidable (iface.isAddressed addr)
  | .ipv4 _ => inferInstanceAs (Decidable (_ ∨ _ ∨ _ ∨ _ ∨ _))
  | .ipv6 _ => inferInstanceAs (Decidable (_ ∨ _ ∨ _ ∨ (_ ∧ _) ∨ _ ∨ _))

/-- The address of another host that has the last two octets of an address of this host, which is
not the loopback address. -/
def isNearMiss : IpAddress → Prop
  | .ipv4 _ => False
  | .ipv6 addr =>
    (∃ cidr ∈ iface.ipv6Cidrs, cidr.address ≠ Ipv6.localhost ∧
      (Ipv6.octets addr).drop 14 = (Ipv6.octets cidr.address).drop 14) ∧
    ¬ iface.isAddressed (.ipv6 addr)

instance : (addr : IpAddress) → Decidable (iface.isNearMiss addr)
  | .ipv4 _ => inferInstanceAs (Decidable False)
  | .ipv6 _ => inferInstanceAs (Decidable ((∃ _ ∈ _, _ ∧ _) ∧ ¬ _))

variable {iface}

lemma isDestination_iff (addr : IpAddress) :
    iface.isDestination addr ↔ iface.isAddressed addr ∨ iface.isNearMiss addr := by
  cases addr with
  | ipv4 addr =>
    simp only [isDestination, isAddressed, isNearMiss, hasMulticastGroup, isBroadcastV4]
    rw [or_false]
    constructor
    · rintro (hown | (hgroup | hall) | hlimited | hsubnet)
      · exact .inl hown
      · exact .inr (.inr (.inr (.inr hgroup)))
      · exact .inr (.inr (.inr (.inl hall)))
      · exact .inr (.inl hlimited)
      · exact .inr (.inr (.inl hsubnet))
    · rintro (hown | hlimited | hsubnet | hall | hgroup)
      · exact .inl hown
      · exact .inr (.inr (.inl hlimited))
      · exact .inr (.inr (.inr hsubnet))
      · exact .inr (.inl (.inr hall))
      · exact .inr (.inl (.inl hgroup))
  | ipv6 addr =>
    -- the exact group has the last octets of the address, too
    have hexact : iface.isOwnSolicitedNode addr → iface.hasSolicitedNode addr := by
      rintro ⟨cidr, hcidr, hne, haddr⟩
      refine ⟨cidr, hcidr, hne, ?_⟩
      have htail : ((Ipv6.octets cidr.address).drop 13).drop 1 =
          (Ipv6.octets cidr.address).drop 14 := List.drop_drop
      rw [haddr, ← htail]
      rfl
    have hnear : iface.isNearMiss (.ipv6 addr) ↔
        iface.hasSolicitedNode addr ∧ ¬ iface.isAddressed (.ipv6 addr) := .rfl
    rw [hnear]
    constructor
    · intro hdest
      by_cases haddr : iface.isAddressed (.ipv6 addr)
      · exact .inl haddr
      · refine .inr ⟨?_, haddr⟩
        obtain hown | (hgroup | hrpl | hall | hnode) | hloop := hdest
        · exact absurd (.inl hown) haddr
        · exact absurd (.inr (.inr (.inr (.inr (.inl hgroup))))) haddr
        · exact absurd (.inr (.inr (.inr (.inl hrpl)))) haddr
        · exact absurd (.inr (.inr (.inl hall))) haddr
        · exact hnode
        · exact absurd (.inr (.inl hloop)) haddr
    · rintro ((hown | hloop | hall | hrpl | hgroup | hnode) | ⟨hnode, -⟩)
      · exact .inl hown
      · exact .inr (.inr hloop)
      · exact .inr (.inl (.inr (.inr (.inl hall))))
      · exact .inr (.inl (.inr (.inl hrpl)))
      · exact .inr (.inl (.inl hgroup))
      · exact .inr (.inl (.inr (.inr (.inr (hexact hnode)))))
      · exact .inr (.inl (.inr (.inr (.inr hnode))))

end InterfaceInner

/-! ### Packets that reach a handler -/

/-- The handlers of the transport protocols, of ICMP and of group management. -/
def Delivery.hasHandler (d : Delivery) : Prop :=
  match d.ipRepr with
  | .ipv4 _ => d.nextHeader ∈ [.icmp, .igmp, .udp, .tcp]
  | .ipv6 _ => d.nextHeader ∈ [.icmpv6, .udp, .tcp]

namespace Stack

variable {cfg : StackConfig} {st : Stack cfg} {buf : List UInt8} {hw : HardwareAddress}
  {d : Delivery}

/-- A received packet gets as far as one of the handlers. -/
def Reaches (st : Stack cfg) (hw : HardwareAddress) (buf : List UInt8) (d : Delivery) : Prop :=
  ((∃ st', st.receiveIpv4 hw buf = .ok (st', some d)) ∨
    ∃ st', st.receiveIpv6 hw buf = .ok (st', .ok d)) ∧ d.hasHandler

/-- Without AnyIP, every packet that is processed has passed the check of its destination. -/
lemma Reaches.isDestination (h : st.Reaches hw buf d) (hany : st.inner.anyIp = false) :
    st.inner.isDestination d.ipRepr.dstAddr := by
  have htakes : ∀ dst, st.inner.takesFor dst = .ok true → st.inner.isDestination dst := by
    intro dst htakes
    by_contra hnot
    rw [InterfaceInner.takesFor, if_neg hnot, InterfaceInner.routedLocally, hany] at htakes
    cases htakes
  obtain ⟨⟨st', hrecv⟩ | ⟨st', hrecv⟩, -⟩ := h
  · obtain ⟨ipv4Repr, hreceived⟩ := receivedIpv4 hrecv
    rw [hreceived.ipRepr]
    exact htakes _ hreceived.takesFor
  · obtain ⟨ipv6Repr, payload, hreceived⟩ := receivedIpv6 hrecv
    rw [hreceived.ipRepr]
    exact htakes _ hreceived.takesFor

/-- A datagram for any IPv6 address that the check lets pass. -/
lemma exists_reaches {iface : InterfaceInner cfg.iface} {dst : Ipv6.Address}
    (h : iface.isDestination (.ipv6 dst)) (fragments : FragmentsBuffer) (fragmenter : Fragmenter)
    (hw : HardwareAddress) :
    ∃ buf d, Reaches ⟨iface, fragments, fragmenter, []⟩ hw buf d ∧
      d.ipRepr.dstAddr = .ipv6 dst := by
  let repr : Ipv6Repr := ⟨Ipv6.localhost, dst, .udp, 0, 64⟩
  have hparse : Ipv6Repr.parse (repr.octets ++ []) = .ok repr :=
    repr.parse_octets [] (Nat.two_pow_pos 16) le_rfl
  have hpayload : Ipv6Packet.payload (repr.octets ++ []) = .ok [] :=
    repr.payload_octets [] (Nat.two_pow_pos 16) le_rfl
  have hunicast : Ipv6.isUnicast repr.srcAddr := by
    change Ipv6.isUnicast Ipv6.localhost
    decide
  have htakes : iface.takesFor (.ipv6 repr.dstAddr) = .ok true := if_pos h
  refine ⟨repr.octets ++ [], ⟨.ipv6 repr.toHeader, .udp, false, []⟩,
    ⟨.inr ⟨⟨iface.refreshIpv6 hw repr, fragments, fragmenter, []⟩, ?_⟩, ?_⟩, rfl⟩
  · rw [receiveIpv6, hparse]
    dsimp only [checkReceived]
    rw [if_neg (not_not.mpr hunicast), hpayload]
    dsimp only
    rw [skipHopbyhop, if_neg nofun]
    dsimp only [Checked.ok_bind]
    rw [filterIpv6, htakes]
    rfl
  · exact List.mem_cons_of_mem _ List.mem_cons_self

/-- All packets to a destination that reach a handler are addressed to the host, if and only if the
destination is no near miss of one of its addresses. -/
theorem reaches_isAddressed_iff {iface : InterfaceInner cfg.iface} (hany : iface.anyIp = false)
    (dst : IpAddress) :
    (∀ (st : Stack cfg) (hw : HardwareAddress) (buf : List UInt8) (d : Delivery),
      st.inner = iface → st.Reaches hw buf d → d.ipRepr.dstAddr = dst → iface.isAddressed dst) ↔
    ¬ iface.isNearMiss dst := by
  constructor
  · intro hall hnear
    match dst, hnear with
    | .ipv6 addr, hnear =>
      obtain ⟨buf, d, hreaches, hdst⟩ := exists_reaches
        ((InterfaceInner.isDestination_iff _).mpr (.inr hnear)) (.new cfg.reassembly) (.new 0) .ip
      exact hnear.2 (hall _ _ buf d rfl hreaches hdst)
  · rintro hnear st hw buf d rfl hreaches rfl
    exact ((InterfaceInner.isDestination_iff _).mp (hreaches.isDestination hany)).resolve_right
      hnear

open InterfaceInner (exampleIface)

/-- Packets to the solicited-node address of fe80::1. -/
theorem reaches_isAddressed_example :
    ¬ exampleIface.isNearMiss (.ipv6 (0xff02 <<< 112 ||| 0x1ff000001)) ∧
      ∀ (st : Stack .default) (hw : HardwareAddress) (buf : List UInt8) (d : Delivery),
        st.inner = exampleIface → st.Reaches hw buf d →
        d.ipRepr.dstAddr = .ipv6 (0xff02 <<< 112 ||| 0x1ff000001) →
        exampleIface.isAddressed (.ipv6 (0xff02 <<< 112 ||| 0x1ff000001)) :=
  have hnear : ¬ exampleIface.isNearMiss (.ipv6 (0xff02 <<< 112 ||| 0x1ff000001)) := by
    decide
  ⟨hnear, (reaches_isAddressed_iff rfl _).mpr hnear⟩

/-- A segment for 2001:db8::1 is given to the handler of TCP of an interface with the address
fe80::1. -/
theorem near_miss_reaches :
    ∃ (st : Stack .default) (buf : List UInt8) (d : Delivery),
      st.inner = exampleIface ∧ st.Reaches .ip buf d ∧ d.nextHeader = .tcp ∧
      d.ipRepr.dstAddr = .ipv6 (0x20010db8 <<< 96 ||| 1) ∧
      ¬ exampleIface.isAddressed d.ipRepr.dstAddr := by
  let st : Stack .default := ⟨exampleIface, .new StackConfig.default.reassembly, .new 0, []⟩
  let repr : Ipv6Repr := ⟨0xfe80 <<< 112 ||| 2, 0x20010db8 <<< 96 ||| 1, .tcp, 20, 64⟩
  let buf := repr.octets ++ List.replicate 20 0
  obtain ⟨⟨st', r⟩, hrecv, hr⟩ := Checked.exists_of_any (x := st.receiveIpv6 .ip buf)
    (p := fun r => match r.2 with
      | .ok d => d.ipRepr = .ipv6 repr.toHeader ∧ d.nextHeader = .tcp
      | .error _ => False) (by decide)
  cases r with
  | error answer => cases hr
  | ok d =>
    obtain ⟨hipRepr, hnext⟩ := of_decide_eq_true hr
    refine ⟨st, buf, d, rfl, ⟨.inr ⟨st', hrecv⟩, ?_⟩, hnext, ?_, ?_⟩
    · simp [Delivery.hasHandler, hipRepr, hnext]
    · rw [hipRepr]
      rfl
    · rw [hipRepr]
      decide

end Stack

end Smoltcp
