import Smoltcp.Iface.Lookup
import Smoltcp.Iface.Routing
import Smoltcp.Iface.Sixlowpan.Process

/-!
# Neighbor discovery

A request for the hardware address of a next hop is answered by an ARP reply or a neighbor
advertisement. Processing the answer should fill the neighbor cache, so that the next packet for the
next hop can be sent.
-/

namespace Smoltcp

namespace InterfaceInner

variable {cfg : IfaceConfig} (iface : InterfaceInner cfg)

/-- `neighbor_cache.fill`. -/
def fillNeighbor (protocolAddr : IpAddress) (hardwareAddr : HardwareAddress)
    (timestamp : Instant) : Checked (InterfaceInner cfg) := do
  return { iface with neighborCache :=
    ← iface.neighborCache.fill protocolAddr hardwareAddr timestamp }

/-- The packet is for us, and it can be learnt from. -/
def acceptsArp (repr : ArpRepr) : Prop :=
  -- Only process ARP packets for us.
  (iface.hasIpAddr (.ipv4 repr.targetProtocolAddr) ∨ iface.anyIp) ∧
    -- Only process REQUEST and RESPONSE.
    (repr.operation = .request ∨ repr.operation = .reply) ∧
    -- Discard packets with non-unicast source addresses.
    Ipv4.isUnicast repr.sourceProtocolAddr ∧ EthernetAddress.isUnicast repr.sourceHardwareAddr ∧
    iface.inSameNetwork (.ipv4 repr.sourceProtocolAddr)

instance (repr : ArpRepr) : Decidable (iface.acceptsArp repr) :=
  inferInstanceAs (Decidable ((_ ∨ _ = true) ∧ (_ ∨ _) ∧ _ ∧ _ ∧ _))

/-- Process an ARP packet, and answer a request. -/
def processArp (timestamp : Instant) (payload : List UInt8) :
    Checked (InterfaceInner cfg × Option ArpRepr) :=
  check iface (ArpRepr.parse payload) fun repr =>
    if ¬ iface.acceptsArp repr then .ok (iface, none)
    else do
      -- Fill the ARP cache from any ARP packet aimed at us (both request or response).
      let iface ← iface.fillNeighbor (.ipv4 repr.sourceProtocolAddr)
        (.ethernet repr.sourceHardwareAddr) timestamp
      if repr.operation = .request then
        let srcHardwareAddr ← iface.hardwareAddr.ethernetOrPanic
        return (iface, some {
          operation := .reply
          sourceHardwareAddr := srcHardwareAddr
          sourceProtocolAddr := repr.targetProtocolAddr
          targetHardwareAddr := repr.sourceHardwareAddr
          targetProtocolAddr := repr.sourceProtocolAddr })
      else return (iface, none)

/-- Whether an advertisement replaces what is known of a neighbor. -/
def replacesNeighbor (flags : NeighborFlags) (ipAddr : IpAddress) : Checked Bool :=
  if flags.override then .ok true
  else do return !(← iface.neighborCache.lookup ipAddr iface.now).isFound

/-- The neighbor that an advertisement is taken for has the source address of the packet. -/
def processNeighborAdvert (ipRepr : Ipv6Repr) (flags : NeighborFlags) (targetAddr : Ipv6.Address)
    (lladdr : Option RawHardwareAddress) : Checked (InterfaceInner cfg × Option Packet) :=
  let ipAddr : IpAddress := .ipv6 ipRepr.srcAddr
  match lladdr with
  | none => .ok (iface, none)
  | some lladdr =>
    check iface (lladdr.parse iface.medium) fun lladdr => do
      if (← lladdr.isUnicast) = false ∨ ¬ Ipv6.isUnicast targetAddr then return (iface, none)
      else if ← iface.replacesNeighbor flags ipAddr then
        return (← iface.fillNeighbor ipAddr lladdr iface.now, none)
      else return (iface, none)

/-- The answer to a solicitation of one of our addresses. -/
def neighborAdvert (ipRepr : Ipv6Repr) (targetAddr : Ipv6.Address) : Checked (Option Packet) := do
  if iface.hasSolicitedNode ipRepr.dstAddr ∧ iface.hasIpAddr (.ipv6 targetAddr) then
    let repr : NdiscRepr :=
      .neighborAdvert ⟨false, true, false⟩ targetAddr (some ⟨← iface.hardwareAddr.asBytes⟩)
    return some (.ipv6 {
      srcAddr := targetAddr
      dstAddr := ipRepr.srcAddr
      nextHeader := .icmpv6
      payloadLen := repr.bufferLen
      hopLimit := 0xff } (.icmpv6 (.ndisc repr)))
  else return none

def processNeighborSolicit (ipRepr : Ipv6Repr) (targetAddr : Ipv6.Address)
    (lladdr : Option RawHardwareAddress) : Checked (InterfaceInner cfg × Option Packet) :=
  match lladdr with
  | none => do return (iface, ← iface.neighborAdvert ipRepr targetAddr)
  | some lladdr =>
    check iface (lladdr.parse iface.medium) fun lladdr => do
      if (← lladdr.isUnicast) = false ∨ ¬ Ipv6.isUnicast targetAddr then return (iface, none)
      else
        let iface ← iface.fillNeighbor (.ipv6 ipRepr.srcAddr) lladdr iface.now
        return (iface, ← iface.neighborAdvert ipRepr targetAddr)

def processNdisc (ipRepr : Ipv6Repr) : NdiscRepr → Checked (InterfaceInner cfg × Option Packet)
  | .neighborAdvert flags targetAddr lladdr =>
    iface.processNeighborAdvert ipRepr flags targetAddr lladdr
  | .neighborSolicit targetAddr lladdr => iface.processNeighborSolicit ipRepr targetAddr lladdr
  | _ => .ok (iface, none)

/-! ### Answers -/

section Answers

variable {iface} {later : InterfaceInner cfg} {emit : Packet → Emission} {frag : Fragmenter}
  {dst n : IpAddress} {d : Dispatched cfg}

/-- To send to the destination, the next hop is asked for. -/
structure Asks (iface : InterfaceInner cfg) (emit : Packet → Emission) (frag : Fragmenter)
    (dst n : IpAddress) (d : Dispatched cfg) : Prop where
  lookup : iface.lookupHardwareAddr emit dst frag = .ok (.error d)
  route : iface.route dst iface.now = .ok (some n)
  sent : d.sent ≠ []

/-- The interface later on, while the next hop is not known yet. -/
structure Awaits (iface later : InterfaceInner cfg) (n : IpAddress) : Prop where
  medium : later.medium = .ethernet
  ipAddrs : later.ipAddrs = iface.ipAddrs
  unresolved : ∀ hw, later.neighborCache.lookup n later.now ≠ .ok (.found hw)
  lt_add : later.now < later.now.add NeighborCache.entryLifetime

/-- Only unicast addresses are asked for. -/
lemma Asks.isUnicast (h : iface.Asks emit frag dst n d) : n.isUnicast := by
  have hlookup := h.lookup
  unfold lookupHardwareAddr at hlookup
  split_ifs at hlookup
  · obtain ⟨hw, -, hlookup⟩ := Checked.bind_eq_ok.mp hlookup
    cases hlookup
  · obtain ⟨hw, -, hlookup⟩ := Checked.bind_eq_ok.mp hlookup
    cases hlookup
  · rw [h.route, Checked.ok_bind] at hlookup
    obtain ⟨answer, hanswer, -⟩ := Checked.bind_eq_ok.mp hlookup
    obtain ⟨u, hassert, -⟩ := Checked.bind_eq_ok.mp hanswer
    exact Checked.assert_eq_ok.mp hassert

/-- What is filled in is found. -/
lemma fillNeighbor_found {hw : HardwareAddress} (hn : n.isUnicast) (hhw : hw.isUnicast = .ok true)
    (hnow : later.now < later.now.add NeighborCache.entryLifetime) :
    ∃ after, later.fillNeighbor n hw later.now = .ok after ∧
      after.hardwareAddr = later.hardwareAddr ∧
      after.neighborCache.lookup n later.now = .ok (.found hw) := by
  obtain ⟨cache, hfill, hfound⟩ : ∃ cache, later.neighborCache.fill n hw later.now = .ok cache ∧
      cache.lookup n later.now = .ok (.found hw) :=
    NeighborCache.lookup_fill cfg.neighborCacheCount_pos hn hhw hnow
  refine ⟨{ later with neighborCache := cache }, ?_, rfl, hfound⟩
  rw [fillNeighbor, hfill]
  rfl

lemma processArp_of_not {payload : List UInt8} {repr : ArpRepr} {timestamp : Instant}
    (hparse : ArpRepr.parse payload = .ok repr) (h : ¬ later.acceptsArp repr) :
    later.processArp timestamp payload = .ok (later, none) := by
  rw [processArp, hparse]
  exact if_pos h

/-- An answer to an ARP request resolves the next hop if and only if it is on the link. -/
lemma Awaits.lookup_processArp {payload : List UInt8} {repr : ArpRepr} (h : iface.Awaits later n)
    (hn : n.isUnicast) (hparse : ArpRepr.parse payload = .ok repr)
    (hreply : repr.operation = .reply)
    (hsource : n = .ipv4 repr.sourceProtocolAddr)
    (htarget : later.hasIpAddr (.ipv4 repr.targetProtocolAddr))
    (hunicast : EthernetAddress.isUnicast repr.sourceHardwareAddr) :
    ∃ after, later.processArp later.now payload = .ok (after, none) ∧
      (after.neighborCache.lookup n later.now = .ok (.found (.ethernet repr.sourceHardwareAddr)) ↔
        iface.inSameNetwork n) := by
  have hnetwork : later.inSameNetwork n ↔ iface.inSameNetwork n := by
    rw [inSameNetwork, inSameNetwork, h.ipAddrs]
  have hsrc : Ipv4.isUnicast repr.sourceProtocolAddr := by
    rw [hsource] at hn
    exact hn
  have haccepts : later.acceptsArp repr ↔ iface.inSameNetwork n := by
    rw [← hnetwork, hsource]
    constructor
    · exact fun h => h.2.2.2.2
    · exact fun h => ⟨.inl htarget, .inr hreply, hsrc, hunicast, h⟩
  rw [processArp, hparse]
  change ∃ after, (if ¬ later.acceptsArp repr then _ else _) = _ ∧ _
  by_cases hin : iface.inSameNetwork n
  · have hhw : (HardwareAddress.ethernet repr.sourceHardwareAddr).isUnicast = .ok true :=
      congrArg Except.ok (decide_eq_true hunicast)
    obtain ⟨after, hfill, -, hfound⟩ := fillNeighbor_found hn hhw h.lt_add
    rw [if_neg (not_not.mpr (haccepts.mpr hin)), ← hsource, hfill, Checked.ok_bind,
      if_neg (by rw [hreply]; decide)]
    exact ⟨after, rfl, iff_of_true hfound hin⟩
  · rw [if_pos (haccepts.not.mpr hin)]
    exact ⟨later, rfl, iff_of_false (h.unresolved _) hin⟩

/-- An advertisement that was sent from the address it is about resolves the next hop. -/
lemma Awaits.lookup_processNdisc {ipRepr : Ipv6Repr} {flags : NeighborFlags}
    {lladdr : RawHardwareAddress} {hw : HardwareAddress} (h : iface.Awaits later n)
    (hn : n.isUnicast) (hsource : n = .ipv6 ipRepr.srcAddr)
    (hparse : lladdr.parse .ethernet = .ok hw) (hunicast : hw.isUnicast = .ok true) :
    ∃ after, later.processNdisc ipRepr (.neighborAdvert flags ipRepr.srcAddr (some lladdr)) =
        .ok (after, none) ∧
      after.neighborCache.lookup n later.now = .ok (.found hw) := by
  have hsrc : Ipv6.isUnicast ipRepr.srcAddr := by
    rw [hsource] at hn
    exact hn
  have hreplaces : later.replacesNeighbor flags n = .ok true := by
    unfold replacesNeighbor
    split_ifs
    · rfl
    · cases hlookup : later.neighborCache.lookup n later.now with
      | error p =>
        rw [NeighborCache.lookup, Checked.assert_of hn, Checked.ok_bind] at hlookup
        cases hget : later.neighborCache.storage.get n with
        | none => rw [hget] at hlookup; cases hlookup
        | some neighbor => rw [hget] at hlookup; cases hlookup
      | ok answer =>
        cases answer with
        | found hw => exact absurd hlookup (h.unresolved hw)
        | notFound => rfl
        | rateLimited => rfl
  obtain ⟨after, hfill, -, hfound⟩ := fillNeighbor_found hn hunicast h.lt_add
  refine ⟨after, ?_, hfound⟩
  rw [processNdisc, processNeighborAdvert, h.medium, hparse]
  change (do if (← hw.isUnicast) = false ∨ ¬ Ipv6.isUnicast ipRepr.srcAddr then _ else _) = _
  rw [hunicast, Checked.ok_bind, if_neg (by simp [hsrc]), ← hsource, hreplaces, Checked.ok_bind,
    if_pos rfl, hfill]
  rfl

/-- Answers to the requests that are sent resolve the next hop: ARP replies if the next hop is on
the link, which every destination is that is not reached by a router, and advertisements that were
sent from the next hop. -/
theorem Asks.lookup_after_answer (h : iface.Asks emit frag dst n d)
    (hlater : iface.Awaits later n) :
    (∀ payload repr, ArpRepr.parse payload = .ok repr → repr.operation = .reply →
      n = .ipv4 repr.sourceProtocolAddr → later.hasIpAddr (.ipv4 repr.targetProtocolAddr) →
      EthernetAddress.isUnicast repr.sourceHardwareAddr →
      ∃ after, later.processArp later.now payload = .ok (after, none) ∧
        (after.neighborCache.lookup n later.now =
          .ok (.found (.ethernet repr.sourceHardwareAddr)) ↔ iface.inSameNetwork n)) ∧
    (∀ ipRepr flags target lladdr hw, n = .ipv6 target → ipRepr.srcAddr = target →
      lladdr.parse .ethernet = .ok hw → hw.isUnicast = .ok true →
      ∃ after, later.processNdisc ipRepr (.neighborAdvert flags target (some lladdr)) =
          .ok (after, none) ∧
        after.neighborCache.lookup n later.now = .ok (.found hw)) ∧
    (iface.inSameNetwork dst → iface.inSameNetwork n) := by
  refine ⟨?_, ?_, ?_⟩
  · intro payload repr hparse hreply hsource htarget hunicast
    exact hlater.lookup_processArp h.isUnicast hparse hreply hsource htarget hunicast
  · rintro ipRepr flags target lladdr hw hsource rfl hparse hunicast
    exact hlater.lookup_processNdisc h.isUnicast hsource hparse hunicast
  · intro hdst
    have hroute := h.route
    rw [InterfaceInner.route, if_pos (.inl hdst)] at hroute
    cases hroute
    exact hdst

/-- An interface with the addresses 10.0.0.1/8 and fe80::1/64, and a router that is not on the
link. -/
def exampleIface : InterfaceInner .default :=
  { InterfaceInner.new 1514 {} (.ethernet 0x020000000001) 0 1 1 with
    ipAddrs := [exampleIpv4Cidr, exampleIpv6Cidr]
    routes := ⟨[.newIpv4Gateway 0xc0a80001]⟩ }

/-- An ARP reply of a host with the hardware address 02-00-00-00-00-02. -/
def exampleArpReply (source : List UInt8) : List UInt8 :=
  [0, 1, 8, 0, 6, 4, 0, 2, 2, 0, 0, 0, 0, 2] ++ source ++ [2, 0, 0, 0, 0, 1, 10, 0, 0, 1]

lemma exampleIface_asks {dst n : IpAddress}
    (hroute : exampleIface.route dst exampleIface.now = .ok (some n))
    (h : (exampleIface.lookupHardwareAddr .nothing dst (.new 1500)).toOption.any (fun
      | .error d => !d.sent.isEmpty
      | .ok _ => false) = true) :
    ∃ d, exampleIface.Asks .nothing (.new 1500) dst n d := by
  obtain ⟨r, hr, hsent⟩ := Checked.exists_of_any h
  cases r with
  | ok hw => cases hsent
  | error d => exact ⟨d, hr, hroute, by rintro hnil; simp [hnil] at hsent⟩

lemma exampleIface_awaits {n : IpAddress}
    (h : exampleIface.neighborCache.lookup n exampleIface.now = .ok .notFound) :
    exampleIface.Awaits exampleIface n where
  medium := rfl
  ipAddrs := rfl
  unresolved hw := by
    rw [h]
    rintro ⟨⟩
  lt_add := by decide

/-- The reply of a neighbor on the link. -/
theorem Asks.lookup_after_answer_example : ∃ d after,
    exampleIface.Asks .nothing (.new 1500) (.ipv4 0x0a000002) (.ipv4 0x0a000002) d ∧
      exampleIface.processArp exampleIface.now (exampleArpReply [10, 0, 0, 2]) =
        .ok (after, none) ∧
      after.neighborCache.lookup (.ipv4 0x0a000002) exampleIface.now =
        .ok (.found (.ethernet 0x020000000002)) := by
  obtain ⟨d, hasks⟩ : ∃ d, exampleIface.Asks .nothing (.new 1500) (.ipv4 0x0a000002)
      (.ipv4 0x0a000002) d := exampleIface_asks (by decide +kernel) (by decide +kernel)
  have hawaits := exampleIface_awaits (n := .ipv4 0x0a000002) (by decide)
  have hparse : ArpRepr.parse (exampleArpReply [10, 0, 0, 2]) = .ok
    ⟨.reply, 0x020000000002, 0x0a000002, 0x020000000001, 0x0a000001⟩ := by decide
  obtain ⟨after, hprocess, hfound⟩ := (Asks.lookup_after_answer hasks hawaits).1 _ _ hparse rfl rfl
    (by decide +kernel) (by decide +kernel)
  exact ⟨d, after, hasks, hprocess, hfound.mpr (by decide)⟩

/-- The router that is not on the link is asked for, and its reply is not learnt from. An
advertisement for fe80::2 that was sent from fe80::3 does not resolve fe80::2 either. -/
theorem answer_not_learnt :
    (∃ d, exampleIface.Asks .nothing (.new 1500) (.ipv4 0x08080808) (.ipv4 0xc0a80001) d) ∧
      exampleIface.processArp exampleIface.now (exampleArpReply [192, 168, 0, 1]) =
        .ok (exampleIface, none) ∧
      exampleIface.neighborCache.lookup (.ipv4 0xc0a80001) exampleIface.now = .ok .notFound ∧
    (∃ d, exampleIface.Asks .nothing (.new 1500) (.ipv6 (0xfe80 <<< 112 ||| 2))
      (.ipv6 (0xfe80 <<< 112 ||| 2)) d) ∧
      ∃ after, exampleIface.processNdisc
          ⟨0xfe80 <<< 112 ||| 3, 0xfe80 <<< 112 ||| 1, .icmpv6, 32, 255⟩
          (.neighborAdvert ⟨false, true, true⟩ (0xfe80 <<< 112 ||| 2) (some ⟨[2, 0, 0, 0, 0, 2]⟩)) =
            .ok (after, none) ∧
        after.neighborCache.lookup (.ipv6 (0xfe80 <<< 112 ||| 2)) exampleIface.now =
          .ok .notFound := by
  refine ⟨exampleIface_asks (by decide) (by decide), ?_, by decide,
    exampleIface_asks (by decide) (by decide), ?_⟩
  · have hparse : ArpRepr.parse (exampleArpReply [192, 168, 0, 1]) = .ok
      ⟨.reply, 0x020000000002, 0xc0a80001, 0x020000000001, 0x0a000001⟩ := by decide
    exact processArp_of_not hparse (by decide)
  · obtain ⟨⟨after, reply⟩, hprocess, hafter⟩ := Checked.exists_of_any
      (x := exampleIface.processNdisc ⟨0xfe80 <<< 112 ||| 3, 0xfe80 <<< 112 ||| 1, .icmpv6, 32, 255⟩
        (.neighborAdvert ⟨false, true, true⟩ (0xfe80 <<< 112 ||| 2) (some ⟨[2, 0, 0, 0, 0, 2]⟩)))
      (p := fun r => r.2.isNone ∧
        r.1.neighborCache.lookup (.ipv6 (0xfe80 <<< 112 ||| 2)) exampleIface.now =
          .ok .notFound) (by decide)
    obtain ⟨hreply, hnotFound⟩ := of_decide_eq_true hafter
    cases reply with
    | some reply => cases hreply
    | none => exact ⟨after, hprocess, hnotFound⟩

end Answers

end InterfaceInner

end Smoltcp
