import Smoltcp.Iface.Multicast
import Smoltcp.Lib.Transition

/-!
# What was announced about multicast groups

Routers know the groups of an interface from the state changes that it announces. What they were
told last is followed over all calls that join and leave groups, change addresses and poll the
interface for egress.
-/

namespace Smoltcp

/-! ### Announcements -/

/-- What a record tells about a group: that the interface listens to it, or that it does not. A
record with sources is no such message. -/
def MldAddressRecordRepr.tells (g : IpAddress) (record : MldAddressRecordRepr) : Option Bool :=
  if g = .ipv6 record.mcastAddr ∧ record.numSrcs = 0 then
    match record.recordType with
    | .changeToExclude => some true
    | .changeToInclude => some false
    | _ => none
  else none

/-- What a message tells about a group. -/
def Transmission.tells (g : IpAddress) : Transmission → Option Bool
  | .packet _ (.ipv4 _ (.igmp (.membershipReport addr _))) =>
    if g = .ipv4 addr then some true else none
  | .packet _ (.ipv4 _ (.igmp (.leaveGroup addr))) => if g = .ipv4 addr then some false else none
  | .packet _ (.ipv6 _ (.hopByHopIcmpv6 _ (.mld (.reportRecordReprs records)))) =>
    records.reverse.findSome? (MldAddressRecordRepr.tells g)
  | _ => none

/-- What the messages told last about a group. -/
def lastTold (g : IpAddress) (log : List Transmission) : Option Bool :=
  log.reverse.findSome? (Transmission.tells g)

/-- The tokens that a device gives before it refuses one. -/
def tokens (device : List Bool) : ℕ := (device.takeWhile id).length

/-- A join is announced in the same way by both protocols, but for the record type. -/
def joinTells : IpAddress → Bool
  | .ipv4 _ => true
  | .ipv6 _ => false

lemma lastTold_append (g : IpAddress) (log msgs : List Transmission) :
    lastTold g (log ++ msgs) = (lastTold g msgs).or (lastTold g log) := by
  rw [lastTold, List.reverse_append, List.findSome?_append]
  rfl

lemma lastTold_cons (g : IpAddress) (msg : Transmission) (msgs : List Transmission) :
    lastTold g (msg :: msgs) = (lastTold g msgs).or (msg.tells g) := by
  have hsplit := lastTold_append g [msg] msgs
  have hone : lastTold g [msg] = msg.tells g := by
    rw [lastTold, List.reverse_singleton, List.findSome?_cons, List.findSome?_nil]
    split
    · next h => exact h.symm
    · next h => exact h.symm
  rw [← hone, ← hsplit, List.singleton_append]

@[simp] lemma tokens_nil : tokens [] = 0 := rfl

@[simp] lemma tokens_false (device : List Bool) : tokens (false :: device) = 0 := rfl

@[simp] lemma tokens_true (device : List Bool) : tokens (true :: device) = tokens device + 1 := rfl

namespace InterfaceInner

variable {cfg : IfaceConfig}

/-! ### Groups of a table -/

namespace Groups

/-- The groups in a state, in the order of the table. -/
def inState (groups : Groups cfg) (state : GroupState) : List IpAddress :=
  (groups.entries.filter fun e => e.2 = state).map Prod.fst

variable {groups groups' : Groups cfg} {state : GroupState} {g addr : IpAddress}
  {final : Option GroupState}

lemma mem_inState_iff : g ∈ inState groups state ↔ groups.get g = some state := by
  rw [inState, Heapless.LinearMap.get_eq_some_iff, List.mem_map]
  constructor
  · rintro ⟨⟨k, v⟩, he, rfl⟩
    simp only [List.mem_filter, decide_eq_true_eq] at he
    obtain ⟨he, rfl⟩ := he
    exact he
  · intro h
    exact ⟨(g, state), by simpa using h, rfl⟩

lemma nodup_inState : (inState groups state).Nodup :=
  groups.nodup_keys.sublist (List.filter_sublist.map _)

/-- The groups that stay in a state when one leaves it. -/
lemma inState_perm_erase (hget : ∀ g, groups'.get g = if g = addr then final else groups.get g)
    (hfinal : final ≠ some state) :
    (inState groups' state).Perm ((inState groups state).erase addr) := by
  rw [List.perm_ext_iff_of_nodup nodup_inState (nodup_inState.erase addr)]
  intro g
  rw [nodup_inState.mem_erase_iff, mem_inState_iff, mem_inState_iff, hget]
  split_ifs with heq
  · simp [hfinal, heq]
  · simp [heq]

/-- The first group in a state is settled in its place. -/
lemma inState_replace {value : GroupState} {rest : List IpAddress}
    (hfirst : inState groups state = addr :: rest) (hvalue : value ≠ state) :
    inState (groups.replace addr value) state = rest := by
  have hmap : ∀ entries : List (IpAddress × GroupState),
      (((entries.map fun e => if e.1 = addr then (addr, value) else e).filter
        fun e => e.2 = state).map Prod.fst) =
      ((entries.filter fun e => e.2 = state).map Prod.fst).filter (· ≠ addr) := by
    intro entries
    induction entries with
    | nil => rfl
    | cons e entries ih =>
      rw [List.map_cons, List.filter_cons, List.filter_cons]
      split_ifs <;> grind
  have hnodup : (addr :: rest).Nodup := hfirst ▸ nodup_inState
  have hne : ∀ g ∈ rest, g ≠ addr := by
    rintro g hg rfl
    exact (List.nodup_cons.mp hnodup).1 hg
  calc inState (groups.replace addr value) state = (inState groups state).filter (· ≠ addr) :=
        hmap groups.entries
    _ = rest := by
        rw [hfirst, List.filter_cons_of_neg (by simp), List.filter_eq_self]
        exact fun g hg => decide_eq_true (hne g hg)

end Groups

lemma findGroup_eq (iface : InterfaceInner cfg) (state : GroupState) :
    iface.findGroup state = (Groups.inState iface.groups state).head? := by
  rw [findGroup, Groups.inState, List.head?_map, List.head?_filter]

/-! ### Announcing one group -/

/-- The interface is as before, but for its groups and the identification of the next packet. -/
def Untouched (iface iface' : InterfaceInner cfg) : Prop :=
  ∃ ipv4Id groups, iface' = { iface.setGroups groups with ipv4Id }

section Untouched

variable {iface iface' iface'' : InterfaceInner cfg}

lemma Untouched.refl (iface : InterfaceInner cfg) : iface.Untouched iface :=
  ⟨iface.ipv4Id, iface.groups, rfl⟩

lemma Untouched.trans (h : iface.Untouched iface') (h' : iface'.Untouched iface'') :
    iface.Untouched iface'' := by
  obtain ⟨ipv4Id, groups, rfl⟩ := h
  obtain ⟨ipv4Id', groups', rfl⟩ := h'
  exact ⟨ipv4Id', groups', rfl⟩

lemma Untouched.ipMtu (h : iface.Untouched iface') : iface'.ipMtu = iface.ipMtu := by
  obtain ⟨ipv4Id, groups, rfl⟩ := h
  rfl

lemma Untouched.ipv4Addr (h : iface.Untouched iface') : iface'.ipv4Addr = iface.ipv4Addr := by
  obtain ⟨ipv4Id, groups, rfl⟩ := h
  rfl

lemma Untouched.reports (h : iface.Untouched iface') :
    iface'.multicast.igmpReportState = iface.multicast.igmpReportState ∧
      iface'.multicast.mldReportState = iface.multicast.mldReportState := by
  obtain ⟨ipv4Id, groups, rfl⟩ := h
  exact ⟨rfl, rfl⟩

end Untouched

/-- The packet tells this about a group, and about no other group. -/
structure Announces (packet : Packet) (addr : IpAddress) (value : Bool) : Prop where
  isMulticast : packet.dstAddr.isMulticast
  bufferLen_le : packet.bufferLen ≤ 76
  nextHeader : packet.payload.hasSixlowpanNextHeader = false
  tells : ∀ dst g, (Transmission.packet dst packet).tells g = if g = addr then some value else none

/-- Messages for IPv4 groups need an address of the family. -/
def CanAnnounce (iface : InterfaceInner cfg) (addr : IpAddress) : Prop :=
  ∀ group, addr = .ipv4 group → iface.ipv4Addr.isSome

lemma mldv2ReportPacket_announces (iface : InterfaceInner cfg) (group : Ipv6.Address)
    {recordType : MldRecordType} {value : Bool}
    (htype : (MldAddressRecordRepr.new recordType group).tells (.ipv6 group) = some value) :
    Announces (iface.mldv2ReportPacket [.new recordType group]) (.ipv6 group) value where
  isMulticast := by
    change Ipv6.isMulticast Ipv6.linkLocalAllMldv2Routers
    decide
  bufferLen_le := le_rfl
  nextHeader := rfl
  tells := by
    intro dst g
    change ([MldAddressRecordRepr.new recordType group].reverse.findSome?
      (MldAddressRecordRepr.tells g)) = _
    rw [List.reverse_singleton, List.findSome?_cons, List.findSome?_nil]
    split_ifs with heq
    · rw [heq, htype]
    · have hnone : (MldAddressRecordRepr.new recordType group).tells g = none :=
        if_neg fun h => heq h.1
      rw [hnone]

lemma joinPacket_announces {iface : InterfaceInner cfg} {addr : IpAddress}
    (haddr : addr.isMulticast) (hcan : iface.CanAnnounce addr) :
    ∃ packet, iface.joinPacket addr = some packet ∧ Announces packet addr (joinTells addr) := by
  cases addr with
  | ipv4 group =>
    obtain ⟨ifaceAddr, hiface⟩ := Option.isSome_iff_exists.mp (hcan group rfl)
    rw [joinPacket, igmpReportPacket, hiface]
    exact ⟨_, rfl, haddr, Nat.le_of_ble_eq_true rfl, rfl, fun _ _ => rfl⟩
  | ipv6 group =>
    exact ⟨_, rfl, mldv2ReportPacket_announces iface group (if_pos ⟨rfl, rfl⟩)⟩

lemma leavePacket_announces {iface : InterfaceInner cfg} {addr : IpAddress}
    (hcan : iface.CanAnnounce addr) :
    ∃ packet, iface.leavePacket addr = some packet ∧ Announces packet addr (!joinTells addr) := by
  cases addr with
  | ipv4 group =>
    obtain ⟨ifaceAddr, hiface⟩ := Option.isSome_iff_exists.mp (hcan group rfl)
    rw [leavePacket, igmpLeavePacket, hiface]
    refine ⟨_, rfl, ?_, Nat.le_of_ble_eq_true rfl, rfl, fun _ _ => rfl⟩
    change Ipv4.isMulticast Ipv4.multicastAllRouters
    decide
  | ipv6 group =>
    exact ⟨_, rfl, mldv2ReportPacket_announces iface group (if_pos ⟨rfl, rfl⟩)⟩

namespace Egress

variable {emit : Packet → Emission} {s s' : Egress cfg}

/-- A packet that is offered is sent if the device has a token, and else nothing changes. -/
lemma offer_cases {packet : Packet} {addr : IpAddress} {value taken : Bool}
    (hpacket : Announces packet addr value) (hmtu : 76 ≤ s.iface.ipMtu)
    (h : s.offer emit packet = .ok (s', taken)) :
    (taken = true ∧ s.device = true :: s'.device ∧ (∃ ipv4Id, s'.iface = { s.iface with ipv4Id }) ∧
      ∃ dst, s'.sent = s.sent ++ [.packet dst packet]) ∨
    (taken = false ∧ tokens s.device = 0 ∧ s'.iface = s.iface ∧ s'.sent = s.sent) := by
  unfold offer at h
  split at h
  · next hdevice =>
    cases h
    exact .inr ⟨rfl, by rw [hdevice]; rfl, rfl, rfl⟩
  · next device hdevice =>
    cases h
    exact .inr ⟨rfl, by rw [hdevice]; rfl, rfl, rfl⟩
  · next device hdevice =>
    obtain ⟨r, hr, h⟩ := Checked.bind_eq_ok.mp h
    obtain ⟨hiface, ⟨dst, hsent⟩, hres⟩ := dispatchIp_multicast hpacket.isMulticast
      (hpacket.bufferLen_le.trans hmtu) hpacket.nextHeader hr
    rw [hres] at h
    cases h
    exact .inl ⟨rfl, hdevice, hiface, dst, by rw [← hsent]⟩

/-- The loop over the groups in a state settled the groups `done`, in this order, and told
routers so. -/
structure Drained (state : GroupState) (final : Option GroupState) (told : IpAddress → Bool)
    (s s' : Egress cfg) (done : List IpAddress) : Prop where
  untouched : s.iface.Untouched s'.iface
  get : ∀ g, s'.iface.groups.get g = if g ∈ done then final else s.iface.groups.get g
  mem : ∀ g ∈ done, s.iface.groups.get g = some state
  sent : ∃ msgs, s'.sent = s.sent ++ msgs ∧
    ∀ g, lastTold g msgs = if g ∈ done then some (told g) else none
  left : (Groups.inState s'.iface.groups state).length + done.length =
    (Groups.inState s.iface.groups state).length
  /-- As many groups are settled as there are tokens, if there are groups enough. -/
  length : done.length = min (tokens s.device) (Groups.inState s.iface.groups state).length
  tokens_of_le : (Groups.inState s.iface.groups state).length ≤ tokens s.device →
    tokens s'.device + done.length = tokens s.device

section Drain

variable {state : GroupState} {final : Option GroupState} {told : IpAddress → Bool}
  {packet : InterfaceInner cfg → IpAddress → Option Packet}
  {settle : Groups cfg → IpAddress → Checked (Groups cfg)} {n : ℕ}

/-- Nothing is settled if no group is left, or the first token is refused. -/
lemma Drained.stop (hiface : s'.iface = s.iface) (hsent : s'.sent = s.sent)
    (h : Groups.inState s.iface.groups state = [] ∧ s'.device = s.device ∨
      Groups.inState s.iface.groups state ≠ [] ∧ tokens s.device = 0) :
    Drained state final told s s' [] where
  untouched := by
    rw [hiface]
    exact .refl _
  get := fun g => by rw [hiface, if_neg List.not_mem_nil]
  mem := by simp
  sent := ⟨[], by simp [hsent], fun g => by simp [lastTold]⟩
  left := by
    rw [hiface]
    rfl
  length := by rcases h with ⟨h, -⟩ | ⟨-, h⟩ <;> simp [h]
  tokens_of_le := by
    intro hle
    rcases h with ⟨-, h⟩ | ⟨h, h0⟩
    · rw [h]
      rfl
    · rw [h0] at hle
      exact absurd (List.length_eq_zero_iff.mp (Nat.le_zero.mp hle)) h

/-- With tokens enough, no group is left. -/
lemma Drained.inState_eq_nil {done : List IpAddress} (h : Drained state final told s s' done)
    (hle : (Groups.inState s.iface.groups state).length ≤ tokens s.device) :
    Groups.inState s'.iface.groups state = [] := by
  have hleft := h.left
  rw [h.length, min_eq_right hle] at hleft
  exact List.length_eq_zero_iff.mp (by omega)

/-- Groups in another state are as before, if the groups that are settled do not get there. -/
lemma Drained.length_inState {done : List IpAddress} {state' : GroupState}
    (h : Drained state final told s s' done) (hne : state ≠ state') (hfinal : final ≠ some state') :
    (Groups.inState s'.iface.groups state').length =
      (Groups.inState s.iface.groups state').length := by
  refine List.Perm.length_eq ?_
  rw [List.perm_ext_iff_of_nodup Groups.nodup_inState Groups.nodup_inState]
  intro g
  rw [Groups.mem_inState_iff, Groups.mem_inState_iff, h.get]
  split_ifs with hg
  · simp [hfinal, h.mem g hg, hne]
  · rfl

/-- One more group, in front of those that the rest of the loop settles. -/
lemma Drained.cons {t : Egress cfg} {groups : Groups cfg} {addr : IpAddress}
    {rest done : List IpAddress} {p : Packet} {dst : HardwareAddress} {ipv4Id : UInt16}
    (hstate : Groups.inState s.iface.groups state = addr :: rest)
    (hget : ∀ g, groups.get g = if g = addr then final else s.iface.groups.get g)
    (hfinal : final ≠ some state) (hannounces : Announces p addr (told addr))
    (hdevice : s.device = true :: t.device) (hiface : t.iface = { s.iface with ipv4Id })
    (hsent : t.sent = s.sent ++ [.packet dst p])
    (hdone : Drained state final told { t with iface := t.iface.setGroups groups } s' done) :
    Drained state final told s s' (addr :: done) := by
  have haddr : s.iface.groups.get addr = some state :=
    Groups.mem_inState_iff.mp (hstate ▸ List.mem_cons_self)
  have hperm := Groups.inState_perm_erase hget hfinal
  rw [hstate, List.erase_cons_head] at hperm
  constructor
  case untouched =>
    have huntouched : s.iface.Untouched (t.iface.setGroups groups) :=
      ⟨ipv4Id, groups, by rw [hiface]; rfl⟩
    exact huntouched.trans hdone.untouched
  case get =>
    intro g
    rw [hdone.get]
    change (if g ∈ done then final else groups.get g) = _
    rw [hget]
    simp only [List.mem_cons]
    split_ifs <;> grind
  case mem =>
    intro g hg
    rcases List.mem_cons.mp hg with rfl | hg
    · exact haddr
    · have hmem := hdone.mem g hg
      change groups.get g = some state at hmem
      rw [hget] at hmem
      split_ifs at hmem with heq
      · exact absurd hmem hfinal
      · exact hmem
  case sent =>
    obtain ⟨msgs, hmsgs, htold⟩ := hdone.sent
    refine ⟨.packet dst p :: msgs, by rw [hmsgs, hsent]; simp, fun g => ?_⟩
    rw [lastTold_cons, htold, hannounces.tells]
    simp only [List.mem_cons]
    split_ifs <;> grind
  case left =>
    have hleft := hdone.left
    change _ = (Groups.inState groups state).length at hleft
    rw [hstate, List.length_cons, List.length_cons, ← hperm.length_eq, ← hleft, add_assoc]
  case length =>
    have hlen := hdone.length
    change _ = min (tokens t.device) (Groups.inState groups state).length at hlen
    rw [hperm.length_eq] at hlen
    rw [List.length_cons, hlen, hstate, hdevice, tokens_true, List.length_cons]
    omega
  case tokens_of_le =>
    intro hle
    have htokens := hdone.tokens_of_le
    change (Groups.inState groups state).length ≤ _ → _ at htokens
    rw [hperm.length_eq] at htokens
    rw [hstate, hdevice, tokens_true, List.length_cons] at hle
    rw [hdevice, tokens_true, List.length_cons, ← htokens (Nat.le_of_succ_le_succ hle)]
    rfl

variable (final told) in
/-- The loop, as far as the device has tokens. The groups are settled in the order of the table, if
settling a group keeps the order of those that stay. -/
lemma drain_spec
    (hsettle : ∀ groups addr groups' : _, settle groups addr = .ok groups' →
      groups.get addr = some state → ∀ g, groups'.get g = if g = addr then final else groups.get g)
    (hfinal : final ≠ some state)
    (hpacket : ∀ (iface : InterfaceInner cfg) addr, addr.isMulticast → iface.CanAnnounce addr →
      ∃ p, packet iface addr = some p ∧ Announces p addr (told addr))
    (h : drain emit state packet settle n s = .ok s')
    (hn : (Groups.inState s.iface.groups state).length ≤ n) (hmtu : 76 ≤ s.iface.ipMtu)
    (hgroups : ∀ g, s.iface.groups.get g = some state → g.isMulticast ∧ s.iface.CanAnnounce g) :
    ∃ done, Drained state final told s s' done ∧
      ((∀ groups addr rest groups', settle groups addr = .ok groups' →
          Groups.inState groups state = addr :: rest → Groups.inState groups' state = rest) →
        done <+: Groups.inState s.iface.groups state) := by
  induction n generalizing s with
  | zero =>
    cases h
    have hnil := List.length_eq_zero_iff.mp (Nat.le_zero.mp hn)
    exact ⟨[], .stop rfl rfl (.inl ⟨hnil, rfl⟩), fun _ => List.nil_prefix⟩
  | succ n ih =>
    rw [drain, findGroup_eq] at h
    cases hstate : Groups.inState s.iface.groups state with
    | nil =>
      rw [hstate] at h
      cases h
      exact ⟨[], .stop rfl rfl (.inl ⟨hstate, rfl⟩), fun _ => List.nil_prefix⟩
    | cons addr rest =>
      rw [hstate] at h
      dsimp only [List.head?_cons] at h
      have haddr : s.iface.groups.get addr = some state :=
        Groups.mem_inState_iff.mp (hstate ▸ List.mem_cons_self)
      obtain ⟨hmulticast, hcan⟩ := hgroups addr haddr
      obtain ⟨p, hp, hannounces⟩ := hpacket s.iface addr hmulticast hcan
      rw [hp] at h
      obtain ⟨⟨t, taken⟩, hoffer, h⟩ := Checked.bind_eq_ok.mp h
      rcases offer_cases hannounces hmtu hoffer with
        ⟨rfl, hdevice, ⟨ipv4Id, hiface⟩, dst, hsent⟩ | ⟨rfl, hdevice, hiface, hsent⟩
      · -- the group is announced and settled, and the loop goes on
        dsimp only at h
        rw [if_pos rfl] at h
        obtain ⟨groups, hsettled, h⟩ := Checked.bind_eq_ok.mp h
        have hgroups' : t.iface.groups = s.iface.groups := by rw [hiface]; rfl
        rw [hgroups'] at hsettled
        have hget := hsettle _ _ _ hsettled haddr
        have hperm := Groups.inState_perm_erase hget hfinal
        rw [hstate, List.erase_cons_head] at hperm
        have hlen : (Groups.inState groups state).length ≤ n := by
          rw [hperm.length_eq]
          simpa [hstate] using hn
        have hleft : ∀ g, groups.get g = some state →
            g.isMulticast ∧ (t.iface.setGroups groups).CanAnnounce g := by
          intro g hg
          rw [hget] at hg
          split_ifs at hg with heq
          · exact absurd hg hfinal
          · rw [hiface]
            exact hgroups g hg
        obtain ⟨done, hdone, horder⟩ := ih h hlen (by rw [hiface]; exact hmtu) hleft
        refine ⟨addr :: done, .cons hstate hget hfinal hannounces hdevice hiface hsent hdone, ?_⟩
        intro hkeep
        have hrest : Groups.inState groups state = rest := hkeep _ _ _ _ hsettled hstate
        have hprefix : done <+: Groups.inState groups state := horder hkeep
        rw [hrest] at hprefix
        exact List.cons_prefix_cons.mpr ⟨rfl, hprefix⟩
      · cases h
        refine ⟨[], .stop hiface hsent (.inr ⟨?_, hdevice⟩), fun _ => List.nil_prefix⟩
        rw [hstate]
        exact List.cons_ne_nil _ _

end Drain

lemma inState_length_le (groups : Groups cfg) (state : GroupState) :
    (Groups.inState groups state).length ≤ groups.entries.length := by
  rw [Groups.inState, List.length_map]
  exact List.length_filter_le _ _

lemma settleJoin_eq_ok {groups groups' : Groups cfg} {addr : IpAddress}
    (h : settleJoin groups addr = .ok groups') (haddr : addr ∈ groups.keys) :
    groups' = groups.replace addr .joined := by
  rw [settleJoin, Heapless.LinearMap.insert_of_mem haddr] at h
  cases h
  rfl

/-- The joins that are announced are the first ones, as many as there are tokens. -/
lemma joins_spec (h : s.joins emit = .ok s') (hmtu : 76 ≤ s.iface.ipMtu)
    (hgroups : ∀ g, s.iface.groups.get g = some .joining →
      g.isMulticast ∧ s.iface.CanAnnounce g) :
    Drained .joining (some .joined) joinTells s s'
      ((Groups.inState s.iface.groups .joining).take (tokens s.device)) := by
  obtain ⟨done, hdone, horder⟩ := drain_spec (some .joined) joinTells (by
    intro groups addr groups' hsettle haddr g
    have hmem := Heapless.LinearMap.mem_keys_iff.mpr ⟨_, haddr⟩
    rw [settleJoin_eq_ok hsettle hmem]
    exact Heapless.LinearMap.get_replace hmem) (by decide)
    (fun _ _ => joinPacket_announces) h (inState_length_le _ _) hmtu hgroups
  have hprefix := horder (by
    intro groups addr rest groups' hsettle hstate
    have haddr := Groups.mem_inState_iff.mp (hstate ▸ List.mem_cons_self : addr ∈ _)
    rw [settleJoin_eq_ok hsettle (Heapless.LinearMap.mem_keys_iff.mpr ⟨_, haddr⟩)]
    exact Groups.inState_replace hstate (by decide))
  have heq : done = (Groups.inState s.iface.groups .joining).take (tokens s.device) := by
    rw [List.prefix_iff_eq_take.mp hprefix, hdone.length, List.take_eq_take_iff]
    omega
  exact heq ▸ hdone

lemma leaves_spec (h : s.leaves emit = .ok s') (hmtu : 76 ≤ s.iface.ipMtu)
    (hgroups : ∀ g, s.iface.groups.get g = some .leaving →
      g.isMulticast ∧ s.iface.CanAnnounce g) :
    ∃ left, Drained .leaving none (fun g => !joinTells g) s s' left := by
  obtain ⟨left, hleft, -⟩ := drain_spec none (fun g => !joinTells g) (by
    intro groups addr groups' hsettle haddr g
    cases hsettle
    exact Heapless.LinearMap.get_remove) (by decide)
    (fun _ _ _ => leavePacket_announces) h (inState_length_le _ _) hmtu hgroups
  exact ⟨left, hleft⟩

/-- While no report is due, joins are announced and then leaves. -/
lemma multicastEgress_spec (h : s.multicastEgress emit = .ok s') (hmtu : 76 ≤ s.iface.ipMtu)
    (higmp : s.iface.multicast.igmpReportState = .inactive)
    (hmld : s.iface.multicast.mldReportState = .inactive)
    (hgroups : ∀ g state, s.iface.groups.get g = some state → state ≠ .joined →
      g.isMulticast ∧ s.iface.CanAnnounce g) :
    ∃ t left, Drained .joining (some .joined) joinTells s t
        ((Groups.inState s.iface.groups .joining).take (tokens s.device)) ∧
      Drained .leaving none (fun g => !joinTells g) t s' left := by
  obtain ⟨t, hjoins, h⟩ := Checked.bind_eq_ok.mp h
  obtain ⟨u, hleaves, h⟩ := Checked.bind_eq_ok.mp h
  have hjoined := joins_spec hjoins hmtu fun g hg => hgroups g _ hg (by decide)
  have hleaving : ∀ g, t.iface.groups.get g = some .leaving →
      g.isMulticast ∧ t.iface.CanAnnounce g := by
    intro g hg
    rw [hjoined.get] at hg
    split_ifs at hg with hmem
    · cases hg
    obtain ⟨hmulticast, hcan⟩ := hgroups g _ hg (by decide)
    refine ⟨hmulticast, fun group hgroup => ?_⟩
    rw [hjoined.untouched.ipv4Addr]
    exact hcan group hgroup
  obtain ⟨left, hleft⟩ := leaves_spec hleaves (by rw [hjoined.untouched.ipMtu]; exact hmtu) hleaving
  -- the report states are those of `s`, so the rest does nothing
  obtain ⟨higmp', hmld'⟩ := (hjoined.untouched.trans hleft.untouched).reports
  have hreports : u.igmpReports emit = .ok u := by
    unfold igmpReports
    rw [higmp', higmp]
  rw [hreports, Checked.ok_bind, mldReports, hmld', hmld] at h
  cases h
  exact ⟨t, left, hjoined, hleft⟩

end Egress

end InterfaceInner

/-! ### Runs -/

namespace Membership

open InterfaceInner

/-- An interface, and all that it transmitted. -/
structure Host (cfg : IfaceConfig) where
  iface : InterfaceInner cfg
  fragmenter : Fragmenter
  log : List Transmission

inductive Op where
  | join (addr : IpAddress)
  | leave (addr : IpAddress)
  | updateIpAddrs (ipAddrs : List IpCidr)
  /-- A poll for egress, with the answers of the device to requests for a token. -/
  | egress (now : Instant) (device : List Bool)

variable {cfg : IfaceConfig}

namespace Host

variable (emit : Packet → Emission) (s : Host cfg)

/-- The loops of a poll for egress start here. -/
def poll (now : Instant) (device : List Bool) : Egress cfg :=
  ⟨{ s.iface with now }, s.fragmenter, device, []⟩

def step : Op → Checked (Host cfg)
  | .join addr => .ok { s with iface := (s.iface.joinMulticastGroup addr).1 }
  | .leave addr => .ok { s with iface := (s.iface.leaveMulticastGroup addr).1 }
  | .updateIpAddrs ipAddrs => do return { s with iface := ← s.iface.updateIpAddrs ipAddrs }
  | .egress now device => do
    let r ← (s.poll now device).multicastEgress emit
    return ⟨r.iface, r.fragmenter, s.log ++ r.sent⟩

/-- A state that can be reached by operations that do not panic. -/
abbrev Steps (s : Host cfg) (o : Op) (t : Host cfg) : Prop := s.step emit o = .ok t

/-- An interface without groups. Every message about a group fits in its MTU. -/
structure IsStart : Prop where
  multicast : s.iface.multicast = .new
  log : s.log = []
  le_ipMtu : 76 ≤ s.iface.ipMtu

def get (g : IpAddress) : Option GroupState := s.iface.groups.get g

/-- Nothing is to be announced. -/
def Settled : Prop := ∀ g state, s.get g = some state → state = .joined

/-- What routers were told last is that the interface listens to the group. -/
def Listening (g : IpAddress) : Prop := lastTold g s.log = some true

/-- While messages for IPv4 groups are to be sent, there is an IPv4 address. -/
def Equipped : Op → Prop
  | .egress .. => ∀ g state, s.get g = some state → state ≠ .joined → s.iface.CanAnnounce g
  | _ => True

/-- The groups that come before the first one, of those to be joined, that there is no token for. -/
def joined (device : List Bool) : List IpAddress :=
  (Groups.inState s.iface.groups .joining).take (tokens device)

/-- The operation announces that an IPv6 group is joined. -/
def AnnouncesIpv6Join (g : IpAddress) : Op → Prop
  | .egress _ device => (∃ addr, g = .ipv6 addr) ∧ g ∈ s.joined device
  | _ => False

/-- In a step that sends these messages, a group that was to be announced is announced, or it is
still to be announced. -/
def Kept (u : Host cfg) (msgs : List Transmission) (g : IpAddress) : Prop :=
  (u.get g = s.get g ∧ lastTold g msgs = none) ∨
    (s.get g = some .joining ∧ u.get g = some .joined ∧ lastTold g msgs = some (joinTells g)) ∨
    (s.get g = some .leaving ∧ u.get g = none ∧ lastTold g msgs = some (!joinTells g))

end Host

/-! ### Calls -/

/-- The groups that routers should know of. -/
def Told (state : Option GroupState) : Prop := state = some .joined ∨ state = some .leaving

/-- Calls do not change which groups routers should know of. -/
structure Called (iface iface' : InterfaceInner cfg) : Prop where
  told : ∀ g, Told (iface'.groups.get g) ↔ Told (iface.groups.get g)
  isMulticast : (∀ g state, iface.groups.get g = some state → g.isMulticast) →
    ∀ g state, iface'.groups.get g = some state → g.isMulticast
  ipMtu : iface'.ipMtu = iface.ipMtu
  igmp : iface'.multicast.igmpReportState = iface.multicast.igmpReportState
  mld : iface'.multicast.mldReportState = iface.multicast.mldReportState

section Called

variable {iface iface' iface'' : InterfaceInner cfg} {addr : IpAddress}

lemma Called.refl (iface : InterfaceInner cfg) : Called iface iface :=
  ⟨fun _ => .rfl, id, rfl, rfl, rfl⟩

lemma Called.trans (h : Called iface iface') (h' : Called iface' iface'') :
    Called iface iface'' where
  told g := (h'.told g).trans (h.told g)
  isMulticast := h'.isMulticast ∘ h.isMulticast
  ipMtu := h'.ipMtu.trans h.ipMtu
  igmp := h'.igmp.trans h.igmp
  mld := h'.mld.trans h.mld

lemma called_setGroups {groups : Groups cfg} {value : Option GroupState}
    (haddr : addr.isMulticast)
    (hget : ∀ g, groups.get g = if g = addr then value else iface.groups.get g)
    (hvalue : Told value ↔ Told (iface.groups.get addr)) :
    Called iface (iface.setGroups groups) where
  told g := by
    change Told (groups.get g) ↔ _
    rw [hget]
    split_ifs with heq
    · rw [hvalue, heq]
    · rfl
  isMulticast hkeys g state hg := by
    change groups.get g = some state at hg
    rw [hget] at hg
    split_ifs at hg with heq
    · rw [heq]
      exact haddr
    · exact hkeys g state hg
  ipMtu := rfl
  igmp := rfl
  mld := rfl

lemma joinMulticastGroup_called (iface : InterfaceInner cfg) (addr : IpAddress) :
    Called iface (iface.joinMulticastGroup addr).1 := by
  unfold joinMulticastGroup
  split_ifs with haddr
  · cases hget : iface.groups.get addr with
    | some state =>
      have hmem := Heapless.LinearMap.mem_keys_iff.mpr ⟨_, hget⟩
      dsimp only
      refine called_setGroups haddr (fun g => Heapless.LinearMap.get_replace hmem) ?_
      rw [hget]
      cases state <;> simp [Told]
    | none =>
      cases hinsert : iface.groups.insert addr .joining with
      | none => exact .refl _
      | some r =>
        obtain ⟨groups, old⟩ := r
        dsimp only
        refine called_setGroups haddr (fun g => Heapless.LinearMap.get_insert hinsert) ?_
        rw [hget]
        simp [Told]
  · exact .refl _

lemma leaveMulticastGroup_called (iface : InterfaceInner cfg) (addr : IpAddress) :
    Called iface (iface.leaveMulticastGroup addr).1 := by
  unfold leaveMulticastGroup
  split_ifs with haddr
  · cases hget : iface.groups.get addr with
    | none => exact .refl _
    | some state =>
      have hmem := Heapless.LinearMap.mem_keys_iff.mpr ⟨_, hget⟩
      cases state with
      | joining =>
        have hgone : ∀ g, ((iface.groups.replace addr .joined).remove addr).get g =
            if g = addr then none else iface.groups.get g := by
          intro g
          rw [Heapless.LinearMap.get_remove, Heapless.LinearMap.get_replace hmem]
          split_ifs <;> rfl
        exact called_setGroups haddr hgone (by simp [Told, hget])
      | joined | leaving =>
        exact called_setGroups haddr (fun g => Heapless.LinearMap.get_replace hmem)
          (by simp [Told, hget])
  · exact .refl _

lemma leaveAll_called (addrs : List IpAddress) (iface : InterfaceInner cfg) :
    Called iface (leaveAll addrs iface) := by
  induction addrs generalizing iface with
  | nil => exact .refl _
  | cons addr addrs ih => exact (leaveMulticastGroup_called iface addr).trans (ih _)

lemma joinSolicited_called {cidrs : List Ipv6.Cidr} {iface iface' : InterfaceInner cfg}
    (h : joinSolicited cidrs iface = .ok iface') : Called iface iface' := by
  induction cidrs generalizing iface with
  | nil =>
    cases h
    exact .refl _
  | cons cidr cidrs ih =>
    obtain ⟨addr, -, h⟩ := Checked.bind_eq_ok.mp h
    exact (joinMulticastGroup_called iface (.ipv6 addr)).trans (ih h)

lemma updateIpAddrs_called {ipAddrs : List IpCidr} (h : iface.updateIpAddrs ipAddrs = .ok iface') :
    Called iface iface' := by
  obtain ⟨u, -, h⟩ := Checked.bind_eq_ok.mp h
  split_ifs at h
  · have hleave := leaveAll_called (oldSolicitedNodeGroups { iface with
      ipAddrs, neighborCache := iface.neighborCache.flush }) { iface with
      ipAddrs, neighborCache := iface.neighborCache.flush }
    exact Called.trans ⟨hleave.told, hleave.isMulticast, hleave.ipMtu, hleave.igmp, hleave.mld⟩
      (joinSolicited_called h)
  · cases h
    exact ⟨fun _ => .rfl, id, rfl, rfl, rfl⟩

end Called

/-! ### Polls for egress -/

section Egress

variable {emit : Packet → Emission} {s t u : Host cfg} {now : Instant} {device : List Bool}

/-- What routers were told last about a group is what they should know, up to the record type that
a join has in the protocol of the group. -/
structure Host.Valid (s : Host cfg) : Prop where
  isMulticast : ∀ g state, s.get g = some state → g.isMulticast
  igmp : s.iface.multicast.igmpReportState = .inactive
  mld : s.iface.multicast.mldReportState = .inactive
  le_ipMtu : 76 ≤ s.iface.ipMtu
  told : ∀ g, Told (s.get g) ↔ lastTold g s.log = some (joinTells g)

/-- What a poll for egress does to each group. -/
structure Polled (s u : Host cfg) (now : Instant) (device : List Bool)
    (msgs : List Transmission) : Prop where
  log : u.log = s.log ++ msgs
  untouched : Untouched { s.iface with now } u.iface
  joined : ∀ g ∈ s.joined device, s.get g = some .joining ∧ u.get g = some .joined ∧
    lastTold g msgs = some (joinTells g)
  others : ∀ g ∉ s.joined device, (u.get g = s.get g ∧ lastTold g msgs = none) ∨
    (s.get g = some .leaving ∧ u.get g = none ∧ lastTold g msgs = some (!joinTells g))
  settled : (Groups.inState s.iface.groups .joining).length +
    (Groups.inState s.iface.groups .leaving).length ≤ tokens device → u.Settled

lemma polled_of_egress (hs : s.Valid) (hequipped : s.Equipped (.egress now device))
    (h : s.step emit (.egress now device) = .ok u) : ∃ msgs, Polled s u now device msgs := by
  obtain ⟨e, hegress, h⟩ := Checked.bind_eq_ok.mp h
  cases h
  obtain ⟨t, left, hjoined, hleft⟩ := Egress.multicastEgress_spec hegress hs.le_ipMtu hs.igmp hs.mld
    fun g state hg hstate => ⟨hs.isMulticast g state hg, hequipped g state hg hstate⟩
  change Egress.Drained _ _ _ _ t (s.joined device) at hjoined
  obtain ⟨joins, hjoins, htold⟩ := hjoined.sent
  obtain ⟨leaves, hleaves, htold'⟩ := hleft.sent
  rw [show (s.poll now device).sent = [] from rfl, List.nil_append] at hjoins
  have hleaving : ∀ g ∈ left, g ∉ s.joined device ∧ s.get g = some .leaving := by
    intro g hg
    have hget := hleft.mem g hg
    rw [hjoined.get] at hget
    split_ifs at hget with hmem
    · cases hget
    · exact ⟨hmem, hget⟩
  refine ⟨joins ++ leaves, ?_⟩
  constructor
  case log => rw [hleaves, hjoins]
  case untouched => exact hjoined.untouched.trans hleft.untouched
  case joined =>
    intro g hg
    have hnot : g ∉ left := fun hmem => (hleaving g hmem).1 hg
    refine ⟨hjoined.mem g hg, ?_, ?_⟩
    · change e.iface.groups.get g = _
      rw [hleft.get, if_neg hnot, hjoined.get, if_pos hg]
    · rw [lastTold_append, htold', if_neg hnot, htold, if_pos hg]
      rfl
  case others =>
    intro g hg
    by_cases hmem : g ∈ left
    · refine .inr ⟨(hleaving g hmem).2, ?_, ?_⟩
      · change e.iface.groups.get g = _
        rw [hleft.get, if_pos hmem]
      · rw [lastTold_append, htold', if_pos hmem]
        rfl
    · refine .inl ⟨?_, ?_⟩
      · change e.iface.groups.get g = _
        rw [hleft.get, if_neg hmem, hjoined.get, if_neg hg]
        rfl
      · rw [lastTold_append, htold', if_neg hmem, htold, if_neg hg]
        rfl
  case settled =>
    intro hle g state hget
    have hjoins' : (Groups.inState s.iface.groups .joining).length ≤ tokens device := by omega
    have htokens := hjoined.tokens_of_le hjoins'
    rw [hjoined.length, min_eq_right (by exact hjoins')] at htokens
    have hsame : (Groups.inState t.iface.groups .leaving).length = _ :=
      hjoined.length_inState (by decide) (by decide)
    have hnil := hleft.inState_eq_nil (by
      rw [hsame]
      change _ + (Groups.inState s.iface.groups .joining).length = tokens device at htokens
      change (Groups.inState s.iface.groups .leaving).length ≤ _
      omega)
    cases state with
    | joined => rfl
    | leaving =>
      have hmem := Groups.mem_inState_iff.mpr hget
      rw [hnil] at hmem
      cases hmem
    | joining =>
      change e.iface.groups.get g = _ at hget
      rw [hleft.get] at hget
      split_ifs at hget
      have hmem := Groups.mem_inState_iff.mpr hget
      rw [hjoined.inState_eq_nil hjoins'] at hmem
      cases hmem

lemma Host.IsStart.valid (hs : s.IsStart) : s.Valid where
  isMulticast g state hg := by
    rw [Host.get, groups, hs.multicast] at hg
    cases hg
  igmp := by rw [hs.multicast]; rfl
  mld := by rw [hs.multicast]; rfl
  le_ipMtu := hs.le_ipMtu
  told g := by
    rw [Host.get, groups, hs.multicast, hs.log]
    constructor
    · rintro (h | h) <;> cases h
    · intro h
      cases h

/-- Calls send nothing. -/
lemma Host.Valid.of_called {iface : InterfaceInner cfg} (hs : s.Valid)
    (h : Called s.iface iface) : Host.Valid { s with iface } where
  isMulticast := h.isMulticast hs.isMulticast
  igmp := h.igmp.trans hs.igmp
  mld := h.mld.trans hs.mld
  le_ipMtu := by
    rw [h.ipMtu]
    exact hs.le_ipMtu
  told g := (h.told g).trans (hs.told g)

lemma Host.Valid.of_polled {msgs : List Transmission} (hs : s.Valid)
    (h : Polled s u now device msgs) : u.Valid where
  isMulticast g state hg := by
    by_cases hmem : g ∈ s.joined device
    · exact hs.isMulticast g _ (h.joined g hmem).1
    · rcases h.others g hmem with ⟨hget, -⟩ | ⟨hget, -⟩
      · exact hs.isMulticast g state (hget ▸ hg)
      · exact hs.isMulticast g _ hget
  igmp := h.untouched.reports.1.trans hs.igmp
  mld := h.untouched.reports.2.trans hs.mld
  le_ipMtu := by
    rw [h.untouched.ipMtu]
    exact hs.le_ipMtu
  told g := by
    rw [h.log, lastTold_append]
    by_cases hmem : g ∈ s.joined device
    · obtain ⟨-, hget, htold⟩ := h.joined g hmem
      rw [hget, htold]
      simp [Told]
    · rcases h.others g hmem with ⟨hget, htold⟩ | ⟨-, hget, htold⟩
      · rw [hget, htold]
        exact hs.told g
      · rw [hget, htold]
        simp [Told]

/-- What a step is: a call that sends nothing, or a poll for egress. -/
lemma step_cases {o : Op} (hs : s.Valid) (hequipped : s.Equipped o) (h : s.Steps emit o u) :
    (∃ iface, Called s.iface iface ∧ u = { s with iface } ∧ ∀ g, ¬ s.AnnouncesIpv6Join g o) ∨
      ∃ now device msgs, o = .egress now device ∧ Polled s u now device msgs := by
  cases o with
  | join addr =>
    cases h
    exact .inl ⟨_, joinMulticastGroup_called s.iface addr, rfl, fun _ => id⟩
  | leave addr =>
    cases h
    exact .inl ⟨_, leaveMulticastGroup_called s.iface addr, rfl, fun _ => id⟩
  | updateIpAddrs ipAddrs =>
    obtain ⟨iface, hiface, h⟩ := Checked.bind_eq_ok.mp h
    cases h
    exact .inl ⟨iface, updateIpAddrs_called hiface, rfl, fun _ => id⟩
  | egress now device =>
    obtain ⟨msgs, hpolled⟩ := polled_of_egress hs hequipped h
    exact .inr ⟨now, device, msgs, rfl, hpolled⟩

end Egress

/-! ### Announced membership -/

section Announced

open Transition

variable {emit : Packet → Emission} {s t u : Host cfg}

lemma valid_of_run (hs : s.IsStart) (hrun : Run (Host.Steps emit) Host.Equipped s t) : t.Valid := by
  refine hrun.invariant (fun t o u ht hequipped hstep => ?_) hs.valid
  rcases step_cases ht hequipped hstep with ⟨iface, hcalled, rfl, -⟩ | ⟨now, device, msgs, -, h⟩
  · exact ht.of_called hcalled
  · exact ht.of_polled h

/-- The steps that do not announce that the group, which is an IPv6 group, is joined. -/
def Avoids (g : IpAddress) (s : Host cfg) (o : Op) : Prop :=
  s.Equipped o ∧ ¬ s.AnnouncesIpv6Join g o

/-- Nothing is ever told about an IPv6 group unless its join is announced. -/
lemma lastTold_eq_none_of_run {addr : Ipv6.Address} (hs : s.IsStart)
    (hrun : Run (Host.Steps emit) (Avoids (.ipv6 addr)) s t) :
    lastTold (.ipv6 addr) t.log = none := by
  have hvalid : ∀ t, Run (Host.Steps emit) (Avoids (.ipv6 addr)) s t → t.Valid :=
    fun t ht => valid_of_run hs (ht.mono fun _ _ => And.left)
  refine hrun.invariant_of (I := fun t => lastTold (.ipv6 addr) t.log = none) hvalid
    (fun t o u ht hnone hok hstep => ?_) (by rw [hs.log]; rfl)
  rcases step_cases ht hok.1 hstep with ⟨iface, -, rfl, -⟩ | ⟨now, device, msgs, rfl, h⟩
  · exact hnone
  · have hmem : .ipv6 addr ∉ t.joined device := fun hmem => hok.2 ⟨⟨addr, rfl⟩, hmem⟩
    rw [h.log, lastTold_append, hnone]
    rcases h.others _ hmem with ⟨-, htold⟩ | ⟨hget, -⟩
    · rw [htold]
      rfl
    · -- it cannot be about to be left, since then its join had been announced
      have := (ht.told _).mp (.inr hget)
      rw [hnone] at this
      cases this

lemma run_of_lastTold_eq_none {g : IpAddress} (hs : s.IsStart)
    (hrun : Run (Host.Steps emit) Host.Equipped s t) (hnone : lastTold g t.log = none) :
    Run (Host.Steps emit) (Avoids g) s t := by
  induction hrun with
  | refl => exact .refl
  | tail o hrun hequipped hstep ih =>
    rcases step_cases (valid_of_run hs hrun) hequipped hstep with
      ⟨iface, -, rfl, havoids⟩ | ⟨now, device, msgs, rfl, h⟩
    · exact .tail o (ih hnone) ⟨hequipped, havoids g⟩ hstep
    · rw [h.log, lastTold_append, Option.or_eq_none_iff] at hnone
      refine .tail _ (ih hnone.2) ⟨hequipped, fun hannounces => ?_⟩ hstep
      have htold := (h.joined g hannounces.2).2.2
      rw [hnone.1] at htold
      cases htold

lemma Host.Settled.hasMulticastGroup_iff (h : t.Settled) (g : IpAddress) :
    t.iface.multicast.hasMulticastGroup g ↔ Told (t.get g) := by
  have hgroups : t.get g = t.iface.multicast.groups.get g := rfl
  rw [Multicast.State.hasMulticastGroup, hgroups]
  cases hget : t.iface.multicast.groups.get g with
  | none => simp [Told]
  | some state =>
    rw [h g state hget]
    simp [Told]

/-- When nothing is to be announced, the group table and what routers were told agree on exactly
the groups of IPv4 and those IPv6 groups whose join was never announced. A poll for egress does not
lose what is to be announced, whatever the device refuses, and announces everything if it does not
refuse. -/
theorem listening_iff_hasMulticastGroup_iff (hs : s.IsStart)
    (hrun : Run (Host.Steps emit) Host.Equipped s t) :
    (t.Settled → ∀ g, (t.Listening g ↔ t.iface.multicast.hasMulticastGroup g) ↔
      (∃ addr, g = .ipv4 addr) ∨ Run (Host.Steps emit) (Avoids g) s t) ∧
    ∀ now device u, t.Equipped (.egress now device) → t.Steps emit (.egress now device) u →
      (∃ msgs, u.log = t.log ++ msgs ∧ ∀ g, t.Kept u msgs g) ∧
      ((Groups.inState t.iface.groups .joining).length +
        (Groups.inState t.iface.groups .leaving).length ≤ tokens device → u.Settled) := by
  have hvalid := valid_of_run hs hrun
  constructor
  · intro hsettled g
    have htold := hvalid.told g
    rw [hsettled.hasMulticastGroup_iff, htold]
    cases g with
    | ipv4 addr => exact ⟨fun _ => .inl ⟨addr, rfl⟩, fun _ => .rfl⟩
    | ipv6 addr =>
      have hlast : (t.Listening (.ipv6 addr) ↔ lastTold (.ipv6 addr) t.log = some false) ↔
          lastTold (.ipv6 addr) t.log = none := by
        rw [Host.Listening]
        cases lastTold (.ipv6 addr) t.log with
        | none => simp
        | some value => cases value <;> simp
      refine hlast.trans ⟨fun hnone => .inr (run_of_lastTold_eq_none hs hrun hnone), ?_⟩
      rintro (⟨addr', h⟩ | h)
      · cases h
      · exact lastTold_eq_none_of_run hs h
  · intro now device u hequipped hstep
    obtain ⟨msgs, h⟩ := polled_of_egress hvalid hequipped hstep
    refine ⟨⟨msgs, h.log, fun g => ?_⟩, h.settled⟩
    by_cases hmem : g ∈ t.joined device
    · exact .inr (.inl (h.joined g hmem))
    · rcases h.others g hmem with hsame | hleft
      · exact .inl hsame
      · exact .inr (.inr hleft)

/-- An interface of an IP device, with an address of each family. -/
def exampleHost : Host .default where
  iface := { InterfaceInner.new 1500 {} .ip 0 1 1 with
    ipAddrs := [InterfaceInner.exampleIpv4Cidr, InterfaceInner.exampleIpv6Cidr] }
  fragmenter := .new 1500
  log := []

/-- The interface after it was told to join a group. -/
def exampleJoining (addr : IpAddress) : Host .default :=
  { exampleHost with iface := (exampleHost.iface.joinMulticastGroup addr).1 }

lemma exampleHost_isStart : exampleHost.IsStart := ⟨rfl, rfl, by decide⟩

lemma exampleJoining_run {t : Host .default} {addr : IpAddress}
    (haddr : (exampleJoining addr).iface.ipv4Addr.isSome)
    (h : (exampleJoining addr).Steps Emission.nothing (.egress 0 [true]) t) :
    Run (Host.Steps Emission.nothing) Host.Equipped exampleHost t :=
  .tail (.egress 0 [true]) (.tail (.join addr) .refl trivial rfl) (fun _ _ _ _ _ _ => haddr) h

/-- Routers are told of an IPv4 group that was joined. -/
theorem listening_iff_hasMulticastGroup_iff_example :
    ∃ t, Run (Host.Steps Emission.nothing) Host.Equipped exampleHost t ∧
      t.Listening (.ipv4 0xe00000fb) ∧
      (t.Settled → ∀ g, (t.Listening g ↔ t.iface.multicast.hasMulticastGroup g) ↔
        (∃ addr, g = .ipv4 addr) ∨ Run (Host.Steps Emission.nothing) (Avoids g) exampleHost t) := by
  obtain ⟨t, hstep, ht⟩ := Checked.exists_of_any
    (x := (exampleJoining (.ipv4 0xe00000fb)).step Emission.nothing (.egress 0 [true]))
    (p := fun t => lastTold (.ipv4 0xe00000fb) t.log = some true) (by decide +kernel)
  have hlast : lastTold (.ipv4 0xe00000fb) t.log = some true := of_decide_eq_true ht
  have hrun := exampleJoining_run rfl hstep
  exact ⟨t, hrun, hlast,
    (listening_iff_hasMulticastGroup_iff exampleHost_isStart hrun).1⟩

/-- An IPv6 group is joined, nothing is to be announced any more, and routers were told that the
interface does not listen to it. -/
theorem joined_ipv6_group_not_listening :
    ∃ t, Run (Host.Steps Emission.nothing) Host.Equipped exampleHost t ∧ t.Settled ∧
      t.iface.multicast.hasMulticastGroup (.ipv6 (0xff02 <<< 112 ||| 0xfb)) ∧
      lastTold (.ipv6 (0xff02 <<< 112 ||| 0xfb)) t.log = some false := by
  obtain ⟨t, hstep, ht⟩ := Checked.exists_of_any
    (x := (exampleJoining (.ipv6 (0xff02 <<< 112 ||| 0xfb))).step Emission.nothing
    (.egress 0 [true]))
    (p := fun t => (∀ e ∈ t.iface.groups.entries, e.2 = .joined) ∧
      t.iface.multicast.hasMulticastGroup (.ipv6 (0xff02 <<< 112 ||| 0xfb)) ∧
      lastTold (.ipv6 (0xff02 <<< 112 ||| 0xfb)) t.log = some false) (by decide)
  obtain ⟨hsettled, hhas, htold⟩ := of_decide_eq_true ht
  refine ⟨t, exampleJoining_run rfl hstep, fun g state hg => ?_, hhas, htold⟩
  exact hsettled _ (Heapless.LinearMap.get_eq_some_iff.mp hg)

end Announced

end Membership

end Smoltcp
