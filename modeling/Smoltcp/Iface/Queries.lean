import Smoltcp.Lib.Walk
import Smoltcp.Iface.Ingress
import Smoltcp.Iface.Membership

/-!
# Answers to membership queries

A query sets a report state, and reports are sent for it when the interface is polled for egress. A
general IGMP query is answered by a walk over the table of groups, one group for each poll; an MLD
query is answered by one report. What was sent for queries is followed over runs of calls, queries
and polls.
-/

namespace Smoltcp

open Transition Walk

/-- An address of the first kind. -/
def IpAddress.asIpv4 : IpAddress → Option Ipv4.Address
  | .ipv4 addr => some addr
  | .ipv6 _ => none

/-- A message reports a group to the routers of the group. -/
def Transmission.reportsIpv4 (g : Ipv4.Address) : Transmission → Bool
  | .packet _ (.ipv4 header (.igmp (.membershipReport addr _))) => header.dstAddr = g ∧ addr = g
  | _ => false

/-- A message reports that all sources of a group are listened to. -/
def Transmission.reportsIpv6 (g : Ipv6.Address) : Transmission → Bool
  | .packet _ (.ipv6 header (.hopByHopIcmpv6 _ (.mld (.reportRecordReprs records)))) =>
    header.dstAddr = Ipv6.linkLocalAllMldv2Routers ∧
      MldAddressRecordRepr.new .modeIsExclude g ∈ records
  | _ => false

namespace InterfaceInner

variable {cfg : IfaceConfig} {iface : InterfaceInner cfg} {emit : Packet → Emission}

/-! ### Dispatch -/

section Dispatch

variable {packet : Packet} {frag : Fragmenter} {dst : HardwareAddress} {ipv4Id : UInt16}
  {sent : Dispatched cfg}

/-- Only 6LoWPAN changes more of the interface than the identification. -/
lemma dispatchTo_iface (hnext : packet.payload.hasSixlowpanNextHeader = false)
    {emission : Emission} (h : iface.dispatchTo dst ipv4Id packet emission frag = .ok sent) :
    sent.iface = iface := by
  unfold dispatchTo at h
  split at h
  · cases h
  · next header payload hmedium =>
    split at h
    · simp only [Packet.payload] at hnext
      rw [if_pos (by simp [hnext])] at h
      cases h
    · cases h
  · obtain ⟨addr, -, h⟩ := Checked.bind_eq_ok.mp h
    obtain ⟨r, -, h⟩ := Checked.bind_eq_ok.mp h
    cases h
    rfl
  · split_ifs at h
    · cases h
      rfl
    · obtain ⟨octets, -, h⟩ := Checked.bind_eq_ok.mp h
      cases h
      rfl

/-- What is asked for a hardware address is not the packet. -/
lemma lookupHardwareAddr_error {addr : IpAddress} {pending : Dispatched cfg}
    (h : iface.lookupHardwareAddr emit addr frag = .ok (.error pending)) :
    pending.result ≠ .ok () := by
  unfold lookupHardwareAddr at h
  split_ifs at h
  · obtain ⟨_, -, h⟩ := Checked.bind_eq_ok.mp h
    cases h
  · obtain ⟨_, -, h⟩ := Checked.bind_eq_ok.mp h
    cases h
  · obtain ⟨nextHop, -, h⟩ := Checked.bind_eq_ok.mp h
    cases nextHop with
    | none =>
      cases h
      nofun
    | some nextHop =>
      obtain ⟨answer, -, h⟩ := Checked.bind_eq_ok.mp h
      cases answer with
      | found => cases h
      | rateLimited =>
        cases h
        nofun
      | notFound =>
        obtain ⟨requested, -, h⟩ := Checked.bind_eq_ok.mp h
        cases hresult : requested.result with
        | error e =>
          rw [hresult] at h
          cases h
          nofun
        | ok =>
          rw [hresult] at h
          cases h
          nofun

lemma resolve_error {addr : IpAddress} {pending : Dispatched cfg}
    (h : iface.resolve emit addr frag = .ok (.error pending)) : pending.result ≠ .ok () := by
  unfold resolve at h
  split at h
  · cases h
  all_goals exact lookupHardwareAddr_error h

/-- A packet that was sent changes only the identification of the next one, and is sent as a whole
if it fits in the MTU. -/
lemma dispatchIp_eq_ok (hnext : packet.payload.hasSixlowpanNextHeader = false)
    (h : iface.dispatchIp emit packet frag = .ok sent) (hresult : sent.result = .ok ()) :
    (∃ ipv4Id, sent.iface = { iface with ipv4Id }) ∧
      (packet.bufferLen ≤ iface.ipMtu → ∃ dst, sent.sent = [.packet dst packet]) := by
  obtain ⟨_, -, h⟩ := Checked.bind_eq_ok.mp h
  obtain ⟨r, hresolve, h⟩ := Checked.bind_eq_ok.mp h
  cases r with
  | error pending =>
    cases h
    exact absurd hresult (resolve_error hresolve)
  | ok dst =>
    obtain ⟨ipv4Id, hid⟩ := nextIpv4FragIdent_eq iface
    refine ⟨⟨ipv4Id, (dispatchTo_iface hnext h).trans hid⟩, fun hlen => ⟨dst, ?_⟩⟩
    have hmtu : packet.bufferLen ≤ iface.nextIpv4FragIdent.ipMtu := by
      rw [hid]
      exact hlen
    exact (dispatchTo_sent hmtu hnext h).2.1

end Dispatch

/-! ### Loops of a poll -/

/-- A group that is in the table, and not about to be left. -/
def IsMember (state : Option GroupState) : Prop := state = some .joining ∨ state = some .joined

/-- The tokens that are requested for the groups in a state. -/
def requests (iface : InterfaceInner cfg) (state : GroupState)
    (packet : InterfaceInner cfg → IpAddress → Option Packet) : ℕ :=
  ((Groups.inState iface.groups state).filter fun addr => (packet iface addr).isSome).length

namespace Egress

variable {s s' : Egress cfg} {taken : Bool}

/-- What becomes of a packet that is offered to the device. -/
structure Offered (packet : Packet) (taken : Bool) (s s' : Egress cfg) : Prop where
  iface : ∃ ipv4Id, s'.iface = { s.iface with ipv4Id }
  taken_of_tokens : 0 < tokens s.device → taken = true
  tokens_le : tokens s.device ≤ tokens s'.device + 1
  sent : ∃ msgs, s'.sent = s.sent ++ msgs ∧
    (taken = true → packet.bufferLen ≤ s.iface.ipMtu → ∃ dst, msgs = [.packet dst packet])

lemma offer_eq_ok {packet : Packet} (hnext : packet.payload.hasSixlowpanNextHeader = false)
    (h : s.offer emit packet = .ok (s', taken)) : Offered packet taken s s' := by
  have hsame (hdevice : tokens s.device = 0) : Offered packet false s s := {
    iface := ⟨_, rfl⟩
    taken_of_tokens := fun hpos => absurd hdevice hpos.ne'
    tokens_le := Nat.le_succ _
    sent := ⟨[], by rw [List.append_nil], nofun⟩ }
  unfold offer at h
  split at h
  · next hdevice =>
    cases h
    exact hsame (by rw [hdevice]; rfl)
  · next device hdevice =>
    cases h
    have hzero : tokens s.device = 0 := by rw [hdevice]; rfl
    obtain ⟨hiface, htaken, -, hsent⟩ := hsame hzero
    exact ⟨hiface, htaken, by rw [hzero]; exact Nat.zero_le _, hsent⟩
  · next device hdevice =>
    obtain ⟨r, hr, h⟩ := Checked.bind_eq_ok.mp h
    cases hresult : r.result with
    | error e =>
      rw [hresult] at h
      cases h
    | ok =>
      rw [hresult] at h
      cases h
      obtain ⟨hiface, hsent⟩ := dispatchIp_eq_ok hnext hr hresult
      refine ⟨hiface, fun _ => rfl, by rw [hdevice]; exact le_rfl, r.sent, rfl, fun _ hlen => ?_⟩
      exact hsent hlen

/-- A loop over the groups in a state keeps what settling one group keeps, and asks for a token for
each of its packets. -/
lemma drain_rule {state : GroupState} (final : Option GroupState)
    {packet : InterfaceInner cfg → IpAddress → Option Packet}
    {settle : Groups cfg → IpAddress → Checked (Groups cfg)} {n : ℕ} (P : Groups cfg → Prop)
    (hsettle : ∀ groups addr groups', settle groups addr = .ok groups' →
      (Groups.inState groups state).head? = some addr → P groups →
      P groups' ∧ ∀ g, groups'.get g = if g = addr then final else groups.get g)
    (hfinal : final ≠ some state)
    (hquiet : ∀ iface addr p, packet iface addr = some p →
      p.payload.hasSixlowpanNextHeader = false)
    (hsame : ∀ iface iface' : InterfaceInner cfg, iface.Untouched iface' → ∀ addr,
      (packet iface' addr).isSome = (packet iface addr).isSome)
    (h : drain emit state packet settle n s = .ok s') (hP : P s.iface.groups) :
    P s'.iface.groups ∧ s.iface.Untouched s'.iface ∧ (∃ msgs, s'.sent = s.sent ++ msgs) ∧
      tokens s.device ≤ tokens s'.device + s.iface.requests state packet := by
  induction n generalizing s with
  | zero =>
    cases h
    exact ⟨hP, .refl _, ⟨[], by rw [List.append_nil]⟩, Nat.le_add_right _ _⟩
  | succ n ih =>
    rw [drain, findGroup_eq] at h
    cases hstate : Groups.inState s.iface.groups state with
    | nil =>
      rw [hstate] at h
      cases h
      exact ⟨hP, .refl _, ⟨[], by rw [List.append_nil]⟩, Nat.le_add_right _ _⟩
    | cons addr rest =>
      rw [hstate] at h
      dsimp only [List.head?_cons] at h
      obtain ⟨⟨t, taken⟩, hannounce, h⟩ := Checked.bind_eq_ok.mp h
      -- what the announcement takes from the device
      have hannounced : (∃ ipv4Id, t.iface = { s.iface with ipv4Id }) ∧
          (∃ msgs, t.sent = s.sent ++ msgs) ∧
          (0 < tokens s.device → taken = true) ∧
          tokens s.device ≤ tokens t.device + if (packet s.iface addr).isSome then 1 else 0 := by
        cases hp : packet s.iface addr with
        | none =>
          rw [hp] at hannounce
          cases hannounce
          exact ⟨⟨_, rfl⟩, ⟨[], by rw [List.append_nil]⟩, fun _ => rfl, le_rfl⟩
        | some p =>
          rw [hp] at hannounce
          have hoffered := offer_eq_ok (hquiet _ _ _ hp) hannounce
          obtain ⟨msgs, hmsgs, -⟩ := hoffered.sent
          exact ⟨hoffered.iface, ⟨msgs, hmsgs⟩, hoffered.taken_of_tokens, hoffered.tokens_le⟩
      obtain ⟨⟨ipv4Id, hiface⟩, ⟨msgs, hmsgs⟩, htaken, htokens⟩ := hannounced
      have hgroups : t.iface.groups = s.iface.groups := by rw [hiface]; rfl
      have huntouched : s.iface.Untouched t.iface := ⟨ipv4Id, s.iface.groups, hiface⟩
      dsimp only at h
      split_ifs at h with hyes
      · obtain ⟨groups, hsettled, h⟩ := Checked.bind_eq_ok.mp h
        rw [hgroups] at hsettled
        obtain ⟨hP', hget⟩ := hsettle _ _ _ hsettled (by rw [hstate, List.head?_cons]) hP
        have hnext : s.iface.Untouched (t.iface.setGroups groups) :=
          ⟨ipv4Id, groups, by rw [hiface]; rfl⟩
        obtain ⟨hP'', hrest, ⟨msgs', hmsgs'⟩, htokens'⟩ := ih h hP'
        refine ⟨hP'', hnext.trans hrest, ⟨msgs ++ msgs', ?_⟩, ?_⟩
        · rw [hmsgs', hmsgs, List.append_assoc]
        · -- one group less is in the state
          have hperm := Groups.inState_perm_erase hget hfinal
          rw [hstate, List.erase_cons_head] at hperm
          have hleft : (t.iface.setGroups groups).requests state packet =
              (rest.filter fun addr => (packet s.iface addr).isSome).length := by
            rw [requests]
            simp only [hsame _ _ hnext]
            exact (hperm.filter _).length_eq
          rw [hleft] at htokens'
          rw [requests, hstate, List.filter_cons]
          change tokens t.device ≤ _ at htokens'
          split_ifs at htokens ⊢ with hsome
          · rw [List.length_cons]
            omega
          · omega
      · cases h
        have hzero : tokens s.device = 0 := by
          by_contra hpos
          exact hyes (htaken (Nat.pos_of_ne_zero hpos))
        refine ⟨hgroups ▸ hP, huntouched, ⟨msgs, hmsgs⟩, ?_⟩
        rw [hzero]
        exact Nat.zero_le _

lemma mem_keys_of_isMember {groups : Groups cfg} {addr : IpAddress}
    (h : IsMember (groups.get addr)) : addr ∈ groups.keys := by
  rw [Heapless.LinearMap.mem_keys_iff]
  exact h.elim (fun h => ⟨_, h⟩) fun h => ⟨_, h⟩

lemma isMember_of_hasMulticastGroup {iface : InterfaceInner cfg} {addr : IpAddress}
    (h : iface.multicast.hasMulticastGroup addr) : IsMember (iface.groups.get addr) := by
  rw [Multicast.State.hasMulticastGroup] at h
  change IsMember (iface.multicast.groups.get addr)
  cases hget : iface.multicast.groups.get addr with
  | none =>
    rw [hget] at h
    exact h.elim
  | some state =>
    rw [hget] at h
    cases state with
    | joining => exact .inl rfl
    | joined => exact .inr rfl
    | leaving => exact h.elim

lemma get_of_head {groups : Groups cfg} {state : GroupState} {addr : IpAddress}
    (h : (Groups.inState groups state).head? = some addr) : groups.get addr = some state :=
  Groups.mem_inState_iff.mp (List.mem_of_head? h)

/-- The first group in a state is found by its key. -/
lemma head?_inState {groups : Groups cfg} {state : GroupState} {chosen : IpAddress → Bool}
    (h : ∀ addr ∈ groups.keys, chosen addr = true ↔ groups.get addr = some state) :
    (Groups.inState groups state).head? = groups.keys.find? chosen := by
  rw [Groups.inState, List.head?_map, List.head?_filter, Heapless.LinearMap.keys, List.find?_map]
  congr 1
  refine List.find?_congr fun e he => ?_
  have hget : groups.get e.1 = some e.2 := Heapless.LinearMap.get_eq_some_iff.mpr he
  rw [Function.comp_apply, Bool.eq_iff_iff, h e.1 (List.mem_map_of_mem he), hget,
    decide_eq_true_iff, Option.some.injEq]

lemma ipv4Groups_eq (s : Egress cfg) :
    s.ipv4Groups = s.iface.groups.keys.filterMap IpAddress.asIpv4 :=
  rfl

lemma joinPacket_quiet {iface : InterfaceInner cfg} {addr : IpAddress} {p : Packet}
    (h : iface.joinPacket addr = some p) : p.payload.hasSixlowpanNextHeader = false := by
  cases addr with
  | ipv4 addr =>
    obtain ⟨ifaceAddr, -, rfl⟩ := Option.map_eq_some_iff.mp h
    rfl
  | ipv6 addr =>
    cases h
    rfl

lemma leavePacket_quiet {iface : InterfaceInner cfg} {addr : IpAddress} {p : Packet}
    (h : iface.leavePacket addr = some p) : p.payload.hasSixlowpanNextHeader = false := by
  cases addr with
  | ipv4 addr =>
    obtain ⟨ifaceAddr, -, rfl⟩ := Option.map_eq_some_iff.mp h
    rfl
  | ipv6 addr =>
    cases h
    rfl

/-- Joins keep the table, but for the states of the groups that are joined. -/
lemma joins_rule (h : s.joins emit = .ok s') :
    s'.iface.groups.keys = s.iface.groups.keys ∧
      (∀ addr, s'.iface.groups.get addr = some .leaving ↔
        s.iface.groups.get addr = some .leaving) ∧
      (∀ addr, IsMember (s.iface.groups.get addr) → IsMember (s'.iface.groups.get addr)) ∧
      s.iface.Untouched s'.iface ∧ (∃ msgs, s'.sent = s.sent ++ msgs) ∧
      tokens s.device ≤ tokens s'.device + s.iface.requests .joining joinPacket := by
  let P (groups : Groups cfg) : Prop := groups.keys = s.iface.groups.keys ∧
    (∀ addr, groups.get addr = some .leaving ↔ s.iface.groups.get addr = some .leaving) ∧
    ∀ addr, IsMember (s.iface.groups.get addr) → IsMember (groups.get addr)
  obtain ⟨⟨hkeys, hleaving, hmember⟩, hrest⟩ := drain_rule (some .joined) P (by
    intro groups addr groups' hsettled hhead ⟨hkeys, hleaving, hmember⟩
    have hjoining := get_of_head hhead
    have hmem := Heapless.LinearMap.mem_keys_iff.mpr ⟨_, hjoining⟩
    have heq := settleJoin_eq_ok hsettled hmem
    have hget : ∀ g, groups'.get g = if g = addr then some .joined else groups.get g := fun g => by
      rw [heq]
      exact Heapless.LinearMap.get_replace hmem
    refine ⟨⟨by rw [heq, Heapless.LinearMap.keys_replace, hkeys], fun g => ?_, fun g hg => ?_⟩,
      hget⟩
    · rw [hget, ← hleaving]
      split_ifs with hg
      · rw [hg, hjoining]
        simp
      · rfl
    · rw [hget]
      split_ifs
      · exact .inr rfl
      · exact hmember g hg) (by decide) (fun _ _ _ => joinPacket_quiet) (by
    intro iface iface' huntouched addr
    cases addr with
    | ipv4 addr => simp only [joinPacket, igmpReportPacket, huntouched.ipv4Addr, Option.isSome_map]
    | ipv6 addr => rfl) h ⟨rfl, fun _ => Iff.rfl, fun _ => id⟩
  exact ⟨hkeys, hleaving, hmember, hrest⟩

/-- Leaves remove groups from the table. A walk over it goes on if they can be removed. -/
lemma leaves_rule (h : s.leaves emit = .ok s') :
    (∀ addr, IsMember (s.iface.groups.get addr) → IsMember (s'.iface.groups.get addr)) ∧
      (∀ addr ∈ s'.iface.groups.keys, s'.iface.groups.get addr = s.iface.groups.get addr) ∧
      (∀ n, SparesAll IpAddress.asIpv4 n (fun a => s.iface.groups.get a = some .leaving)
          s.iface.groups.keys.length s.iface.groups.keys →
        ∀ g, IsMember (s.iface.groups.get (.ipv4 g)) →
          (g ∈ visited IpAddress.asIpv4 s'.iface.groups.keys n ↔
            g ∈ visited IpAddress.asIpv4 s.iface.groups.keys n)) ∧
      s.iface.Untouched s'.iface ∧ (∃ msgs, s'.sent = s.sent ++ msgs) ∧
      tokens s.device ≤ tokens s'.device + s.iface.requests .leaving leavePacket := by
  let chosen (addr : IpAddress) : Bool := s.iface.groups.get addr = some .leaving
  let P (groups : Groups cfg) : Prop :=
    (∀ addr, IsMember (s.iface.groups.get addr) → IsMember (groups.get addr)) ∧
    (∀ addr ∈ groups.keys, groups.get addr = s.iface.groups.get addr) ∧
    ∀ n, SparesAll IpAddress.asIpv4 n chosen s.iface.groups.keys.length s.iface.groups.keys →
      SparesAll IpAddress.asIpv4 n chosen groups.keys.length groups.keys ∧
      ∀ g, IsMember (s.iface.groups.get (.ipv4 g)) →
        (g ∈ visited IpAddress.asIpv4 groups.keys n ↔
          g ∈ visited IpAddress.asIpv4 s.iface.groups.keys n)
  obtain ⟨⟨hmember, hsame, hwalk⟩, hrest⟩ := drain_rule none P (by
    intro groups addr groups' hsettled hhead ⟨hmember, hsame, hwalk⟩
    cases hsettled
    have hleaving := get_of_head hhead
    have hmem : addr ∈ groups.keys := Heapless.LinearMap.mem_keys_iff.mpr ⟨_, hleaving⟩
    have hget : ∀ g, (groups.remove addr).get g = if g = addr then none else groups.get g :=
      fun g => Heapless.LinearMap.get_remove
    -- the group that is found is the first one that is chosen
    have hfind : groups.keys.find? chosen = some addr := by
      rw [← hhead]
      refine (head?_inState fun a ha => ?_).symm
      rw [hsame a ha]
      exact decide_eq_true_iff
    have hne : ∀ g, IsMember (s.iface.groups.get g) → g ≠ addr := by
      rintro g hg rfl
      rw [← hsame g hmem, hleaving] at hg
      rcases hg with hg | hg <;> cases hg
    refine ⟨⟨fun g hg => ?_, fun g hg => ?_, fun n hspares => ?_⟩, hget⟩
    · rw [hget, if_neg (hne g hg)]
      exact hmember g hg
    · have hga : g ≠ addr := by
        rintro rfl
        obtain ⟨v, hv⟩ := Heapless.LinearMap.mem_keys_iff.mp hg
        rw [hget, if_pos rfl] at hv
        cases hv
      rw [hget, if_neg hga]
      refine hsame g ?_
      obtain ⟨v, hv⟩ := Heapless.LinearMap.mem_keys_iff.mp hg
      rw [hget, if_neg hga] at hv
      exact Heapless.LinearMap.mem_keys_iff.mpr ⟨v, hv⟩
    · obtain ⟨hall, hvisited⟩ := hwalk n hspares
      have hlen : groups.keys.length = (groups.remove addr).keys.length + 1 := by
        rw [Heapless.LinearMap.keys, Heapless.LinearMap.keys, List.length_map, List.length_map,
          Heapless.LinearMap.length_remove hmem]
      rw [hlen] at hall
      obtain ⟨hone, hall⟩ := hall addr hfind
      rw [← Heapless.LinearMap.keys_remove hmem] at hall
      refine ⟨hall, fun g hg => ?_⟩
      rw [← hvisited g hg, Heapless.LinearMap.keys_remove hmem]
      refine mem_visited_swapRemove groups.nodup_keys hmem hone ?_ ?_
      · exact List.mem_filterMap.mpr ⟨.ipv4 g, mem_keys_of_isMember (hmember _ hg), rfl⟩
      · intro hsome
        have : addr = .ipv4 g := by
          cases addr with
          | ipv4 a =>
            cases hsome
            rfl
          | ipv6 a => cases hsome
        exact hne _ hg this.symm) (by decide) (fun _ _ _ => leavePacket_quiet) (by
    intro iface iface' huntouched addr
    cases addr with
    | ipv4 addr => simp only [leavePacket, igmpLeavePacket, huntouched.ipv4Addr, Option.isSome_map]
    | ipv6 addr => rfl) h ⟨fun _ => id, fun _ _ => rfl,
        fun _ hspares => ⟨hspares, fun _ _ => Iff.rfl⟩⟩
  exact ⟨hmember, hsame, fun n hspares => (hwalk n hspares).2, hrest⟩

/-- A report for an IGMP query is due. -/
def igmpIsDue (s : Egress cfg) : Prop :=
  match s.iface.multicast.igmpReportState with
  | .toSpecificQuery _ timeout _ => timeout ≤ s.iface.now
  | .toGeneralQuery _ timeout _ _ => timeout ≤ s.iface.now
  | .inactive => False

instance (s : Egress cfg) : Decidable s.igmpIsDue := by
  unfold igmpIsDue
  split <;> infer_instance

/-- Reports for IGMP queries do not change the groups, and nothing for MLD queries. -/
structure IgmpServed (s s' : Egress cfg) : Prop where
  groups : s'.iface.groups = s.iface.groups
  mld : s'.iface.multicast.mldReportState = s.iface.multicast.mldReportState
  now : s'.iface.now = s.iface.now
  ipMtu : s'.iface.ipMtu = s.iface.ipMtu
  sent : ∃ msgs, s'.sent = s.sent ++ msgs
  tokens_le : tokens s.device ≤ tokens s'.device + if s.igmpIsDue then 1 else 0

lemma IgmpServed.refl (s : Egress cfg) : IgmpServed s s :=
  ⟨rfl, rfl, rfl, rfl, ⟨[], by rw [List.append_nil]⟩, Nat.le_add_right _ _⟩

lemma report_served {packet : Option Packet} {next : IgmpReportState}
    (hquiet : ∀ p, packet = some p → p.payload.hasSixlowpanNextHeader = false)
    (hdue : s.igmpIsDue) (h : s.report emit packet next = .ok s') : IgmpServed s s' := by
  cases packet with
  | none =>
    cases h
    exact .refl s
  | some packet =>
    obtain ⟨⟨t, taken⟩, hoffer, h⟩ := Checked.bind_eq_ok.mp h
    obtain ⟨⟨ipv4Id, hiface⟩, -, htokens, msgs, hmsgs, -⟩ := offer_eq_ok (hquiet _ rfl) hoffer
    cases h
    split_ifs with htaken
    · refine ⟨?_, ?_, ?_, ?_, ⟨msgs, hmsgs⟩, ?_⟩
      · change t.iface.groups = _
        rw [hiface]
        rfl
      · change t.iface.multicast.mldReportState = _
        rw [hiface]
      · change t.iface.now = _
        rw [hiface]
      · change t.iface.ipMtu = _
        rw [hiface]
        rfl
      · rw [if_pos hdue]
        exact htokens
    · refine ⟨?_, ?_, ?_, ?_, ⟨msgs, hmsgs⟩, ?_⟩
      · rw [hiface]
        rfl
      · rw [hiface]
      · rw [hiface]
      · rw [hiface]
        rfl
      · rw [if_pos hdue]
        exact htokens

lemma igmpReportPacket_quiet {version : IgmpVersion} {addr : Ipv4.Address} (p : Packet)
    (h : iface.igmpReportPacket version addr = some p) :
    p.payload.hasSixlowpanNextHeader = false := by
  obtain ⟨ifaceAddr, -, rfl⟩ := Option.map_eq_some_iff.mp h
  rfl

lemma igmpReports_served (h : s.igmpReports emit = .ok s') : IgmpServed s s' := by
  unfold igmpReports at h
  cases hstate : s.iface.multicast.igmpReportState with
  | inactive =>
    rw [hstate] at h
    cases h
    exact .refl s
  | toSpecificQuery version timeout group =>
    rw [hstate] at h
    dsimp only at h
    split_ifs at h with hnow
    · exact report_served igmpReportPacket_quiet (by rw [igmpIsDue, hstate]; exact hnow) h
    · cases h
      exact .refl s
  | toGeneralQuery version timeout interval nextIndex =>
    rw [hstate] at h
    dsimp only at h
    split_ifs at h with hnow
    · cases hnext : s.ipv4Groups[nextIndex]? with
      | some addr =>
        rw [hnext] at h
        exact report_served igmpReportPacket_quiet (by rw [igmpIsDue, hstate]; exact hnow) h
      | none =>
        rw [hnext] at h
        cases h
        exact ⟨rfl, rfl, rfl, rfl, ⟨[], by rw [List.append_nil]; rfl⟩, Nat.le_add_right _ _⟩
    · cases h
      exact .refl s

/-- The walk for a general query goes one group further, or it ends, or it is not its time. -/
lemma igmpReports_general {version : IgmpVersion} {timeout : Instant} {interval : Duration} {n : ℕ}
    (hstate : s.iface.multicast.igmpReportState = .toGeneralQuery version timeout interval n)
    (haddr : s.iface.ipv4Addr.isSome) (hmtu : 28 ≤ s.iface.ipMtu) (htokens : 0 < tokens s.device)
    (h : s.igmpReports emit = .ok s') :
    s' = s ∨
      (∃ addr timeout' m, s.ipv4Groups[n]? = some addr ∧ s'.sent = s.sent ++ [m] ∧
        (∀ g, m.reportsIpv4 g = decide (addr = g)) ∧
        s'.iface.multicast.igmpReportState = .toGeneralQuery version timeout' interval (n + 1)) ∨
      (s.ipv4Groups[n]? = none ∧ s'.sent = s.sent ∧
        s'.iface.multicast.igmpReportState = .inactive) := by
  unfold igmpReports at h
  rw [hstate] at h
  dsimp only at h
  split_ifs at h with hnow
  · right
    cases hnext : s.ipv4Groups[n]? with
    | none =>
      rw [hnext] at h
      cases h
      exact .inr ⟨rfl, rfl, rfl⟩
    | some addr =>
      rw [hnext] at h
      obtain ⟨ifaceAddr, hifaceAddr⟩ := Option.isSome_iff_exists.mp haddr
      dsimp only at h
      rw [igmpReportPacket, hifaceAddr, Option.map_some] at h
      obtain ⟨⟨t, taken⟩, hoffer, h⟩ := Checked.bind_eq_ok.mp h
      obtain ⟨-, htaken, -, msgs, hmsgs, hsent⟩ := offer_eq_ok rfl hoffer
      obtain ⟨dst, rfl⟩ := hsent (htaken htokens) hmtu
      cases h
      rw [if_pos (htaken htokens)]
      refine .inl ⟨addr, _, _, rfl, hmsgs, fun g => ?_, rfl⟩
      simp [Transmission.reportsIpv4]
  · cases h
    exact .inl rfl

/-- The report for an MLD query is sent when it is due, if it fits in the MTU and there is a token.
-/
lemma mldReports_due {q : MldReportState} {timeout : Instant} {records : List MldAddressRecordRepr}
    (hstate : s.iface.multicast.mldReportState = q)
    (hq : q = .toGeneralQuery timeout ∧
        records = s.ipv6Groups.map (MldAddressRecordRepr.new .modeIsExclude) ∨
      ∃ group, q = .toSpecificQuery group timeout ∧ records = [.new .modeIsExclude group])
    (hdue : timeout ≤ s.iface.now) (htokens : 0 < tokens s.device)
    (hmtu : (s.iface.mldv2ReportPacket records).bufferLen ≤ s.iface.ipMtu)
    (h : s.mldReports emit = .ok s') :
    ∃ dst, s'.sent = s.sent ++ [.packet dst (s.iface.mldv2ReportPacket records)] := by
  unfold mldReports at h
  rw [hstate] at h
  obtain ⟨rfl, rfl⟩ | ⟨group, rfl, rfl⟩ := hq
  all_goals
    dsimp only at h
    rw [if_pos hdue] at h
    obtain ⟨⟨t, taken⟩, hoffer, h⟩ := Checked.bind_eq_ok.mp h
    cases h
    obtain ⟨-, htaken, -, msgs, hmsgs, hsent⟩ := offer_eq_ok rfl hoffer
    obtain ⟨dst, rfl⟩ := hsent (htaken htokens) hmtu
    exact ⟨dst, hmsgs⟩

/-- Reports for MLD queries only add to what was sent, and change nothing before their time. -/
lemma mldReports_rule (h : s.mldReports emit = .ok s') :
    s'.iface.groups = s.iface.groups ∧
      s'.iface.multicast.igmpReportState = s.iface.multicast.igmpReportState ∧
      (∃ msgs, s'.sent = s.sent ++ msgs) := by
  have hafter {packet : Packet} {t : Egress cfg} {taken : Bool}
      (hnext : packet.payload.hasSixlowpanNextHeader = false)
      (hoffer : s.offer emit packet = .ok (t, taken)) :
      (t.setMldReportState .inactive).iface.groups = s.iface.groups ∧
        (t.setMldReportState .inactive).iface.multicast.igmpReportState =
          s.iface.multicast.igmpReportState ∧
        ∃ msgs, (t.setMldReportState .inactive).sent = s.sent ++ msgs := by
    obtain ⟨⟨ipv4Id, hiface⟩, -, -, msgs, hmsgs, -⟩ := offer_eq_ok hnext hoffer
    refine ⟨?_, ?_, msgs, hmsgs⟩
    · change t.iface.groups = _
      rw [hiface]
      rfl
    · change t.iface.multicast.igmpReportState = _
      rw [hiface]
  have hsame : s.iface.groups = s.iface.groups ∧
      s.iface.multicast.igmpReportState = s.iface.multicast.igmpReportState ∧
      ∃ msgs, s.sent = s.sent ++ msgs := ⟨rfl, rfl, [], by rw [List.append_nil]⟩
  unfold mldReports at h
  split at h
  · split_ifs at h
    · obtain ⟨⟨t, taken⟩, hoffer, h⟩ := Checked.bind_eq_ok.mp h
      cases h
      exact hafter rfl hoffer
    · cases h
      exact hsame
  · split_ifs at h
    · obtain ⟨⟨t, taken⟩, hoffer, h⟩ := Checked.bind_eq_ok.mp h
      cases h
      exact hafter rfl hoffer
    · cases h
      exact hsame
  · cases h
    exact hsame

/-- What stands of a poll before the reports: joins and leaves are announced. -/
structure Swept (s s' : Egress cfg) : Prop where
  member : ∀ addr, IsMember (s.iface.groups.get addr) → IsMember (s'.iface.groups.get addr)
  keys_subset : s'.iface.groups.keys ⊆ s.iface.groups.keys
  visited_iff : ∀ n, SparesAll IpAddress.asIpv4 n (fun a => s.iface.groups.get a = some .leaving)
      s.iface.groups.keys.length s.iface.groups.keys →
    ∀ g, IsMember (s.iface.groups.get (.ipv4 g)) →
      (g ∈ visited IpAddress.asIpv4 s'.iface.groups.keys n ↔
        g ∈ visited IpAddress.asIpv4 s.iface.groups.keys n)
  untouched : s.iface.Untouched s'.iface
  tokens_le : tokens s.device ≤ tokens s'.device + s.iface.requests .joining joinPacket +
    s.iface.requests .leaving leavePacket

lemma swept_of_leaves {t : Egress cfg} (hjoins : s.joins emit = .ok t)
    (hleaves : t.leaves emit = .ok s') : Swept s s' := by
  obtain ⟨hkeys, hleaving, hmember, huntouched, -, htokens⟩ := joins_rule hjoins
  obtain ⟨hmember', hsame, hvisited, huntouched', -, htokens'⟩ := leaves_rule hleaves
  have hchosen : (fun a => decide (t.iface.groups.get a = some .leaving)) =
      fun a => decide (s.iface.groups.get a = some .leaving) := by
    funext a
    exact decide_eq_decide.mpr (hleaving a)
  have hrequests : t.iface.requests .leaving leavePacket =
      s.iface.requests .leaving leavePacket := by
    have hperm : (Groups.inState t.iface.groups .leaving).Perm
        (Groups.inState s.iface.groups .leaving) := by
      rw [List.perm_ext_iff_of_nodup Groups.nodup_inState Groups.nodup_inState]
      intro a
      rw [Groups.mem_inState_iff, Groups.mem_inState_iff, hleaving]
    have hpacket (addr : IpAddress) :
        (t.iface.leavePacket addr).isSome = (s.iface.leavePacket addr).isSome := by
      cases addr with
      | ipv4 addr =>
        simp only [leavePacket, igmpLeavePacket, huntouched.ipv4Addr, Option.isSome_map]
      | ipv6 addr => rfl
    rw [requests, requests]
    simp only [hpacket]
    exact (hperm.filter _).length_eq
  rw [hkeys, hchosen] at hvisited
  refine ⟨fun addr haddr => hmember' addr (hmember addr haddr), fun addr haddr => ?_, ?_,
    huntouched.trans huntouched', ?_⟩
  · rw [← hkeys]
    obtain ⟨v, hv⟩ := Heapless.LinearMap.mem_keys_iff.mp haddr
    exact Heapless.LinearMap.mem_keys_iff.mpr ⟨v, (hsame addr haddr).symm.trans hv⟩
  · exact fun n hspares g hg => hvisited n hspares g (hmember _ hg)
  · rw [hrequests] at htokens'
    omega

lemma Swept.ipv6Groups_length_le (h : Swept s s') :
    s'.ipv6Groups.length ≤ s.ipv6Groups.length := by
  have hnodup : s'.ipv6Groups.Nodup := by
    refine List.Nodup.filterMap ?_ s'.iface.groups.nodup_keys
    intro a b c ha hb
    cases a <;> cases b <;> simp_all
  have hsubset : s'.ipv6Groups ⊆ s.ipv6Groups := by
    intro g hg
    obtain ⟨a, ha, hag⟩ := List.mem_filterMap.mp hg
    exact List.mem_filterMap.mpr ⟨a, h.keys_subset ha, hag⟩
  exact (hnodup.subperm hsubset).length_le

end Egress

/-! ### Calls -/

section Calls

lemma asIpv4_eq_some {addr : IpAddress} {g : Ipv4.Address} :
    addr.asIpv4 = some g ↔ addr = .ipv4 g := by
  cases addr with
  | ipv4 addr => simp [IpAddress.asIpv4]
  | ipv6 addr => simp [IpAddress.asIpv4]

/-- A group that is joined comes last in the table, if it was not there. -/
lemma joinMulticastGroup_rule (iface : InterfaceInner cfg) (addr : IpAddress) :
    ((iface.joinMulticastGroup addr).1.groups.keys = iface.groups.keys ∨
      addr ∉ iface.groups.keys ∧
        (iface.joinMulticastGroup addr).1.groups.keys = iface.groups.keys ++ [addr]) ∧
      ∀ g, IsMember (iface.groups.get g) →
        IsMember ((iface.joinMulticastGroup addr).1.groups.get g) := by
  unfold joinMulticastGroup
  split_ifs with haddr
  · cases hget : iface.groups.get addr with
    | some state =>
      have hmem := Heapless.LinearMap.mem_keys_iff.mpr ⟨_, hget⟩
      refine ⟨.inl Heapless.LinearMap.keys_replace, fun g hg => ?_⟩
      change IsMember ((iface.groups.replace addr _).get g)
      rw [Heapless.LinearMap.get_replace hmem]
      split_ifs with heq
      · cases state <;> simp [IsMember]
      · exact hg
    | none =>
      have hmem := Heapless.LinearMap.get_eq_none_iff.mp hget
      cases hinsert : iface.groups.insert addr .joining with
      | none => exact ⟨.inl rfl, fun g hg => hg⟩
      | some r =>
        obtain ⟨groups, old⟩ := r
        refine ⟨.inr ⟨hmem, ?_⟩, fun g hg => ?_⟩
        · unfold Heapless.LinearMap.insert at hinsert
          rw [dif_neg hmem] at hinsert
          split_ifs at hinsert with hlen
          cases hinsert
          exact List.map_append
        · change IsMember (groups.get g)
          rw [Heapless.LinearMap.get_insert hinsert]
          split_ifs
          · exact .inl rfl
          · exact hg
  · exact ⟨.inl rfl, fun g hg => hg⟩

/-- A group that is left is removed from the table if its join was not announced. -/
lemma leaveMulticastGroup_rule (iface : InterfaceInner cfg) (addr : IpAddress) :
    ((iface.leaveMulticastGroup addr).1.groups.keys = iface.groups.keys ∨
      iface.groups.get addr = some .joining ∧
        (iface.leaveMulticastGroup addr).1.groups.keys =
          iface.groups.keys.swapRemove (iface.groups.keys.idxOf addr)) ∧
      ∀ g, g ≠ addr → IsMember (iface.groups.get g) →
        IsMember ((iface.leaveMulticastGroup addr).1.groups.get g) := by
  unfold leaveMulticastGroup
  split_ifs with haddr
  · cases hget : iface.groups.get addr with
    | none => exact ⟨.inl rfl, fun g _ hg => hg⟩
    | some state =>
      have hmem := Heapless.LinearMap.mem_keys_iff.mpr ⟨_, hget⟩
      cases state with
      | joining =>
        have hmem' : addr ∈ (iface.groups.replace addr .joined).keys := by
          rwa [Heapless.LinearMap.keys_replace]
        refine ⟨.inr ⟨rfl, ?_⟩, fun g hne hg => ?_⟩
        · change ((iface.groups.replace addr .joined).remove addr).keys = _
          rw [Heapless.LinearMap.keys_remove hmem', Heapless.LinearMap.keys_replace]
        · change IsMember (((iface.groups.replace addr .joined).remove addr).get g)
          rw [Heapless.LinearMap.get_remove, if_neg hne, Heapless.LinearMap.get_replace hmem,
            if_neg hne]
          exact hg
      | joined | leaving =>
        refine ⟨.inl Heapless.LinearMap.keys_replace, fun g hne hg => ?_⟩
        change IsMember ((iface.groups.replace addr .leaving).get g)
        rw [Heapless.LinearMap.get_replace hmem, if_neg hne]
        exact hg
  · exact ⟨.inl rfl, fun g _ hg => hg⟩

end Calls

end InterfaceInner

end Smoltcp
