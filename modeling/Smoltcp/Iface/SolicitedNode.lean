import Smoltcp.Iface.Multicast

/-!
# Solicited-node groups

When the addresses of an interface change, it leaves the solicited-node groups of those that are
gone and joins the groups of those that are there. What to leave is decided by the last two octets
of the addresses, while the groups are made of the last three.
-/

namespace Smoltcp

/-! ### The groups of addresses -/

namespace Ipv6

variable {addr group : Address}

lemma solicitedNode_eq_ok :
    solicitedNode addr = .ok group ↔
      isUnicast addr ∧ octets group = solicitedNodePrefix ++ (octets addr).drop 13 := by
  have hlen : (solicitedNodePrefix ++ (octets addr).drop 13).length = 16 := by
    rw [List.length_append, List.length_drop, octets, Octets.length_ofU128]
    rfl
  rw [solicitedNode, Checked.bind_eq_ok]
  constructor
  · rintro ⟨_, hassert, h⟩
    rw [← Except.ok.inj h]
    exact ⟨Checked.assert_eq_ok.mp hassert, Octets.ofU128_toU128 hlen⟩
  · rintro ⟨hunicast, hoctets⟩
    refine ⟨(), Checked.assert_of hunicast, congrArg Except.ok ?_⟩
    rw [← hoctets]
    exact Octets.toU128_ofU128 group

/-- An address from which the solicited-node group is made has one. -/
lemma exists_solicitedNode (h : isUnicast addr) : ∃ group, solicitedNode addr = .ok group :=
  ⟨_, by rw [solicitedNode, Checked.assert_of h]; rfl⟩

lemma isSolicitedNodeMulticast_of (h : solicitedNode addr = .ok group) :
    isSolicitedNodeMulticast group := by
  rw [isSolicitedNodeMulticast, (solicitedNode_eq_ok.mp h).2]
  exact List.take_left' rfl

lemma isMulticast_of_isSolicitedNodeMulticast (h : isSolicitedNodeMulticast addr) :
    isMulticast addr := by
  have hfirst : (octets addr)[0]? = some 0xff := by
    rw [← List.getElem?_take_of_lt (by decide : 0 < 13), h]
    rfl
  rw [isMulticast, Octets.get, hfirst]
  rfl

end Ipv6

namespace InterfaceInner

variable {cfg : IfaceConfig}

/-- A solicited-node group of one of the addresses. -/
def IsSolicited (ipAddrs : List IpCidr) (g : IpAddress) : Prop :=
  ∃ cidr addr, IpCidr.ipv6 cidr ∈ ipAddrs ∧ Ipv6.solicitedNode cidr.address = .ok addr ∧
    g = .ipv6 addr

/-- A group of solicited-node form. -/
def HasSolicitedForm : IpAddress → Prop
  | .ipv4 _ => False
  | .ipv6 addr => Ipv6.isSolicitedNodeMulticast addr

lemma IsSolicited.hasForm {ipAddrs : List IpCidr} {g : IpAddress} (h : IsSolicited ipAddrs g) :
    HasSolicitedForm g := by
  obtain ⟨cidr, addr, -, haddr, rfl⟩ := h
  exact Ipv6.isSolicitedNodeMulticast_of haddr

lemma HasSolicitedForm.isMulticast {g : IpAddress} (h : HasSolicitedForm g) : g.isMulticast := by
  cases g with
  | ipv4 addr => exact h.elim
  | ipv6 addr => exact Ipv6.isMulticast_of_isSolicitedNodeMulticast h

/-! ### Joining and leaving several groups -/

/-- What becomes of a group that is left. -/
def afterLeave : Option GroupState → Option GroupState
  | some .joined | some .leaving => some .leaving
  | some .joining | none => none

/-- What becomes of a group that is joined. -/
def afterJoin : Option GroupState → Option GroupState
  | some .joined | some .leaving => some .joined
  | some .joining | none => some .joining

/-- The state of a group that the interface listens to. -/
def Listens (state : Option GroupState) : Prop := state = some .joining ∨ state = some .joined

section States

variable (state : Option GroupState)

@[simp] lemma afterLeave_afterLeave : afterLeave (afterLeave state) = afterLeave state := by
  rcases state with _ | _ | _ | _ <;> rfl

@[simp] lemma afterJoin_afterJoin : afterJoin (afterJoin state) = afterJoin state := by
  rcases state with _ | _ | _ | _ <;> rfl

@[simp] lemma afterJoin_afterLeave_afterJoin :
    afterJoin (afterLeave (afterJoin state)) = afterJoin state := by
  rcases state with _ | _ | _ | _ <;> rfl

lemma listens_afterJoin : Listens (afterJoin state) := by
  rcases state with _ | _ | _ | _ <;> simp [afterJoin, Listens]

lemma not_listens_afterLeave : ¬ Listens (afterLeave state) := by
  rcases state with _ | _ | _ | _ <;> simp [afterLeave, Listens]

end States

section Calls

variable {iface iface' : InterfaceInner cfg} {addr g : IpAddress} {addrs room : List IpAddress}

lemma hasMulticastGroup_iff_listens :
    iface.multicast.hasMulticastGroup g ↔ Listens (iface.groups.get g) := by
  rw [Multicast.State.hasMulticastGroup, groups]
  rcases iface.multicast.groups.get g with _ | _ | _ | _ <;> simp [Listens]

/-- A call that leaves a group changes nothing but the table. -/
lemma leaveMulticastGroup_spec (iface : InterfaceInner cfg) (haddr : addr.isMulticast) :
    ∃ groups, (iface.leaveMulticastGroup addr).1 = iface.setGroups groups ∧
      (∀ g, groups.get g =
        if g = addr then afterLeave (iface.groups.get g) else iface.groups.get g) ∧
      ∀ g ∈ groups.keys, g ∈ iface.groups.keys := by
  unfold leaveMulticastGroup
  rw [if_neg (not_not.mpr haddr)]
  cases hget : iface.groups.get addr with
  | none =>
    refine ⟨iface.groups, rfl, fun g => ?_, fun _ h => h⟩
    split_ifs with heq
    · rw [heq, hget]
      rfl
    · rfl
  | some state =>
    have hmem := Heapless.LinearMap.mem_keys_iff.mpr ⟨_, hget⟩
    cases state with
    | joining =>
      have hgone : ∀ g, ((iface.groups.replace addr .joined).remove addr).get g =
          if g = addr then none else iface.groups.get g := by
        intro g
        rw [Heapless.LinearMap.get_remove, Heapless.LinearMap.get_replace hmem]
        split_ifs <;> rfl
      refine ⟨_, rfl, fun g => ?_, fun g hg => ?_⟩
      · rw [hgone]
        split_ifs with heq
        · rw [heq, hget]
          rfl
        · rfl
      · obtain ⟨value, hvalue⟩ := Heapless.LinearMap.mem_keys_iff.mp hg
        rw [hgone] at hvalue
        split_ifs at hvalue
        exact Heapless.LinearMap.mem_keys_iff.mpr ⟨value, hvalue⟩
    | joined | leaving =>
      refine ⟨_, rfl, fun g => ?_, fun g hg => ?_⟩
      · rw [Heapless.LinearMap.get_replace hmem]
        split_ifs with heq
        · rw [heq, hget]
          rfl
        · rfl
      · rwa [Heapless.LinearMap.keys_replace] at hg

lemma leaveAll_spec (addrs : List IpAddress) (iface : InterfaceInner cfg)
    (haddrs : ∀ addr ∈ addrs, addr.isMulticast) :
    ∃ groups, leaveAll addrs iface = iface.setGroups groups ∧
      (∀ g, groups.get g =
        if g ∈ addrs then afterLeave (iface.groups.get g) else iface.groups.get g) ∧
      ∀ g ∈ groups.keys, g ∈ iface.groups.keys := by
  induction addrs generalizing iface with
  | nil => exact ⟨iface.groups, rfl, fun g => rfl, fun _ h => h⟩
  | cons addr addrs ih =>
    obtain ⟨groups, heq, hget, hkeys⟩ :=
      leaveMulticastGroup_spec iface (haddrs addr List.mem_cons_self)
    obtain ⟨groups', heq', hget', hkeys'⟩ := ih (iface.leaveMulticastGroup addr).1
      fun a ha => haddrs a (List.mem_cons_of_mem _ ha)
    rw [heq] at heq' hget' hkeys'
    refine ⟨groups', ?_, fun g => ?_, fun g hg => hkeys g (hkeys' g hg)⟩
    · rw [leaveAll, heq, heq']
      rfl
    · have hstep : (iface.setGroups groups).groups.get g = groups.get g := rfl
      simp only [hget', hstep, hget, List.mem_cons]
      split_ifs <;> simp_all

/-- A table that has room for a group takes it. -/
lemma exists_insert {groups : Groups cfg} (state : GroupState) (hkeys : groups.keys ⊆ room)
    (hroom : room.length ≤ cfg.maxMulticastGroupCount) (haddr : addr ∈ room) :
    ∃ r, groups.insert addr state = some r := by
  by_contra hnone
  have hnone : groups.insert addr state = none := Option.eq_none_iff_forall_ne_some.mpr
    fun r hr => hnone ⟨r, hr⟩
  obtain ⟨hget, hfull⟩ := Heapless.LinearMap.insert_eq_none_iff.mp hnone
  have hnodup : (addr :: groups.keys).Nodup :=
    List.nodup_cons.mpr ⟨Heapless.LinearMap.get_eq_none_iff.mp hget, groups.nodup_keys⟩
  have hle := (hnodup.subperm (List.cons_subset.mpr ⟨haddr, hkeys⟩)).length_le
  rw [List.length_cons, Heapless.LinearMap.keys, List.length_map] at hle
  omega

lemma joinMulticastGroup_spec (haddr : addr.isMulticast) (hkeys : iface.groups.keys ⊆ room)
    (hroom : room.length ≤ cfg.maxMulticastGroupCount) (hmem : addr ∈ room) :
    ∃ groups, (iface.joinMulticastGroup addr).1 = iface.setGroups groups ∧
      (∀ g, groups.get g =
        if g = addr then afterJoin (iface.groups.get g) else iface.groups.get g) ∧
      groups.keys ⊆ room := by
  unfold joinMulticastGroup
  rw [if_neg (not_not.mpr haddr)]
  cases hget : iface.groups.get addr with
  | some state =>
    have hkey := Heapless.LinearMap.mem_keys_iff.mpr ⟨_, hget⟩
    dsimp only
    refine ⟨_, rfl, fun g => ?_, ?_⟩
    · rw [Heapless.LinearMap.get_replace hkey]
      split_ifs with heq
      · rw [heq, hget]
        cases state <;> rfl
      · rfl
    · rwa [Heapless.LinearMap.keys_replace]
  | none =>
    obtain ⟨⟨groups, old⟩, hinsert⟩ := exists_insert .joining hkeys hroom hmem
    rw [hinsert]
    refine ⟨groups, rfl, fun g => ?_, fun g hg => ?_⟩
    · rw [Heapless.LinearMap.get_insert hinsert]
      split_ifs with heq
      · rw [heq, hget]
        rfl
      · rfl
    · obtain ⟨value, hvalue⟩ := Heapless.LinearMap.mem_keys_iff.mp hg
      rw [Heapless.LinearMap.get_insert hinsert] at hvalue
      split_ifs at hvalue with heq
      · rwa [heq]
      · exact hkeys (Heapless.LinearMap.mem_keys_iff.mpr ⟨value, hvalue⟩)

lemma joinSolicited_spec (cidrs : List Ipv6.Cidr) (iface : InterfaceInner cfg)
    (hunicast : ∀ cidr ∈ cidrs, Ipv6.isUnicast cidr.address) (hkeys : iface.groups.keys ⊆ room)
    (hroom : room.length ≤ cfg.maxMulticastGroupCount)
    (hmem : ∀ g, IsSolicited (cidrs.map .ipv6) g → g ∈ room) :
    ∃ groups, joinSolicited cidrs iface = .ok (iface.setGroups groups) ∧
      ∀ g, (IsSolicited (cidrs.map .ipv6) g → groups.get g = afterJoin (iface.groups.get g)) ∧
        (¬ IsSolicited (cidrs.map .ipv6) g → groups.get g = iface.groups.get g) := by
  induction cidrs generalizing iface with
  | nil =>
    refine ⟨iface.groups, rfl, fun g => ⟨fun h => ?_, fun _ => rfl⟩⟩
    obtain ⟨cidr, addr, hcidr, -⟩ := h
    cases hcidr
  | cons cidr cidrs ih =>
    obtain ⟨addr, haddr⟩ := Ipv6.exists_solicitedNode (hunicast cidr List.mem_cons_self)
    have hcons : ∀ g, IsSolicited ((cidr :: cidrs).map .ipv6) g ↔
        g = .ipv6 addr ∨ IsSolicited (cidrs.map .ipv6) g := by
      intro g
      rw [List.map_cons]
      constructor
      · rintro ⟨c, a, hc, ha, rfl⟩
        obtain heq | hc := List.mem_cons.mp hc
        · cases heq
          exact .inl (congrArg _ (Except.ok.inj (ha.symm.trans haddr)))
        · exact .inr ⟨c, a, hc, ha, rfl⟩
      · rintro (rfl | ⟨c, a, hc, ha, rfl⟩)
        · exact ⟨cidr, addr, List.mem_cons_self, haddr, rfl⟩
        · exact ⟨c, a, List.mem_cons_of_mem _ hc, ha, rfl⟩
    have hform : IpAddress.isMulticast (.ipv6 addr) :=
      Ipv6.isMulticast_of_isSolicitedNodeMulticast (Ipv6.isSolicitedNodeMulticast_of haddr)
    obtain ⟨groups, heq, hget, hkeys⟩ :=
      joinMulticastGroup_spec hform hkeys hroom (hmem _ ((hcons _).mpr (.inl rfl)))
    obtain ⟨groups', heq', hget'⟩ := ih (iface.setGroups groups)
      (fun c hc => hunicast c (List.mem_cons_of_mem _ hc)) hkeys
      fun g hg => hmem g ((hcons g).mpr (.inr hg))
    have hstep : ∀ g, (iface.setGroups groups).groups.get g = groups.get g := fun _ => rfl
    refine ⟨groups', ?_, fun g => ?_⟩
    · rw [joinSolicited, haddr, Checked.ok_bind, heq, heq']
      rfl
    · obtain ⟨hjoin, hkeep⟩ := hget' g
      rw [hstep, hget] at hjoin hkeep
      rw [hcons]
      by_cases hg : IsSolicited (cidrs.map .ipv6) g
      · refine ⟨fun _ => ?_, fun hnot => absurd (.inr hg) hnot⟩
        rw [hjoin hg]
        split_ifs
        · exact afterJoin_afterJoin _
        · rfl
      · rw [hkeep hg]
        refine ⟨fun h => ?_, fun h => ?_⟩
        · exact if_pos (h.resolve_right hg)
        · exact if_neg fun heq => h (.inl heq)

lemma joinSolicited_unicast {cidrs : List Ipv6.Cidr} {iface iface' : InterfaceInner cfg}
    (h : joinSolicited cidrs iface = .ok iface') : ∀ cidr ∈ cidrs, Ipv6.isUnicast cidr.address := by
  induction cidrs generalizing iface with
  | nil => exact List.forall_mem_nil _
  | cons cidr cidrs ih =>
    obtain ⟨addr, haddr, h⟩ := Checked.bind_eq_ok.mp h
    exact List.forall_mem_cons.mpr ⟨(Ipv6.solicitedNode_eq_ok.mp haddr).1, ih h⟩

end Calls

/-! ### Updates -/

/-- A group has the last two octets of one of the addresses, which is not the loopback address. -/
def IsNear (ipAddrs : List IpCidr) : IpAddress → Prop
  | .ipv4 _ => False
  | .ipv6 group => ∃ cidr, IpCidr.ipv6 cidr ∈ ipAddrs ∧ cidr.address ≠ Ipv6.localhost ∧
      (Ipv6.octets group).drop 14 = (Ipv6.octets cidr.address).drop 14

/-- The table has room for the groups in it together with those of the addresses. -/
def HasRoom (iface : InterfaceInner cfg) (ipAddrs : List IpCidr) : Prop :=
  ∃ room : List IpAddress, room.length ≤ cfg.maxMulticastGroupCount ∧
    iface.groups.keys ⊆ room ∧ ∀ g, IsSolicited ipAddrs g → g ∈ room

/-- The interface listens to the solicited-node groups of its addresses and to no others of that
form, the rest of the table is as before, and the same update once more changes no group. -/
structure Tracks (iface iface' : InterfaceInner cfg) (ipAddrs : List IpCidr) : Prop where
  exact : ∀ g, HasSolicitedForm g → (iface'.multicast.hasMulticastGroup g ↔ IsSolicited ipAddrs g)
  others : ∀ g, ¬ HasSolicitedForm g → iface'.groups.get g = iface.groups.get g
  again : ∃ groups, iface'.updateIpAddrs ipAddrs = .ok (iface'.setGroups groups) ∧
    ∀ g, groups.get g = iface'.groups.get g

/-- A group that the interface listens to, and that is taken for the group of an address that it is
not the group of. -/
def IsStale (iface : InterfaceInner cfg) (ipAddrs : List IpCidr) (g : IpAddress) : Prop :=
  iface.multicast.hasMulticastGroup g ∧ HasSolicitedForm g ∧ IsNear ipAddrs g ∧
    ¬ IsSolicited ipAddrs g

/-- What an update does to a group: it is left if it is of solicited-node form and not near to an
address, and then joined if it is the group of an address. -/
def Updated (ipAddrs : List IpCidr) (g : IpAddress) (state state' : Option GroupState) : Prop :=
  ∃ left, (HasSolicitedForm g ∧ ¬ IsNear ipAddrs g ∧ left = afterLeave state ∨
      ¬ (HasSolicitedForm g ∧ ¬ IsNear ipAddrs g) ∧ left = state) ∧
    (IsSolicited ipAddrs g ∧ state' = afterJoin left ∨ ¬ IsSolicited ipAddrs g ∧ state' = left)

section Update

variable {iface iface' : InterfaceInner cfg} {ipAddrs : List IpCidr} {g : IpAddress}
  {state state' state'' : Option GroupState}

lemma hasSolicitedNode_iff (h : iface.ipAddrs = ipAddrs) {addr : Ipv6.Address} :
    iface.hasSolicitedNode addr ↔ IsNear ipAddrs (.ipv6 addr) := by
  subst h
  simp only [hasSolicitedNode, mem_ipv6Cidrs, IsNear]

lemma mem_oldSolicitedNodeGroups (h : iface.ipAddrs = ipAddrs) :
    g ∈ iface.oldSolicitedNodeGroups ↔
      g ∈ iface.groups.keys ∧ HasSolicitedForm g ∧ ¬ IsNear ipAddrs g := by
  rw [oldSolicitedNodeGroups, List.mem_filter]
  cases g with
  | ipv4 addr => simp [HasSolicitedForm]
  | ipv6 addr => simp [HasSolicitedForm, hasSolicitedNode_iff h]

lemma isSolicited_ipv6Cidrs (h : iface.ipAddrs = ipAddrs) :
    IsSolicited (iface.ipv6Cidrs.map .ipv6) g ↔ IsSolicited ipAddrs g := by
  subst h
  simp only [IsSolicited, List.mem_map, mem_ipv6Cidrs, IpCidr.ipv6.injEq, exists_eq_right]

/-- An update that returns, of an interface with room in the table. -/
lemma updateIpAddrs_spec (hmedium : iface.medium = .ethernet) (hroom : iface.HasRoom ipAddrs)
    (hvalid : ∀ cidr ∈ ipAddrs, cidr.address.isUnicast ∨ cidr.address.isUnspecified = true)
    (hunicast : ∀ cidr, .ipv6 cidr ∈ ipAddrs → Ipv6.isUnicast cidr.address) :
    ∃ groups, iface.updateIpAddrs ipAddrs = .ok ({ iface with
        ipAddrs, neighborCache := iface.neighborCache.flush }.setGroups groups) ∧
      ∀ g, Updated ipAddrs g (iface.groups.get g) (groups.get g) := by
  obtain ⟨room, hlen, hkeys, hmem⟩ := hroom
  let fresh := { iface with ipAddrs, neighborCache := iface.neighborCache.flush }
  have haddrs : fresh.ipAddrs = ipAddrs := rfl
  have hgroups : fresh.groups = iface.groups := rfl
  obtain ⟨left, hleave, hleft, hsub⟩ := leaveAll_spec fresh.oldSolicitedNodeGroups fresh
    fun g hg => ((mem_oldSolicitedNodeGroups haddrs).mp hg).2.1.isMulticast
  have hcidrs : (fresh.setGroups left).ipv6Cidrs = fresh.ipv6Cidrs := rfl
  obtain ⟨groups, hjoin, hget⟩ := joinSolicited_spec fresh.ipv6Cidrs (fresh.setGroups left)
    (fun cidr hcidr => hunicast cidr (mem_ipv6Cidrs.mp hcidr))
    (fun g hg => hkeys (hsub g hg)) hlen
    fun g hg => hmem g ((isSolicited_ipv6Cidrs haddrs).mp hg)
  refine ⟨groups, ?_, fun g => ?_⟩
  · rw [updateIpAddrs]
    dsimp only
    rw [Checked.assert_of hvalid, Checked.ok_bind, if_pos hmedium]
    change joinSolicited (leaveAll fresh.oldSolicitedNodeGroups fresh).ipv6Cidrs
      (leaveAll fresh.oldSolicitedNodeGroups fresh) = _
    rw [hleave, hcidrs, hjoin]
    rfl
  · obtain ⟨hjoined, hkept⟩ := hget g
    rw [isSolicited_ipv6Cidrs haddrs] at hjoined hkept
    refine ⟨left.get g, ?_, ?_⟩
    · rw [hleft, hgroups]
      by_cases hold : HasSolicitedForm g ∧ ¬ IsNear ipAddrs g
      · refine .inl ⟨hold.1, hold.2, ?_⟩
        by_cases hkey : g ∈ iface.groups.keys
        · exact if_pos ((mem_oldSolicitedNodeGroups haddrs).mpr ⟨hkey, hold⟩)
        · rw [Heapless.LinearMap.get_eq_none_iff.mpr hkey]
          exact ite_self _
      · exact .inr ⟨hold, if_neg fun hg => hold ((mem_oldSolicitedNodeGroups haddrs).mp hg).2⟩
    · by_cases hsolicited : IsSolicited ipAddrs g
      · exact .inl ⟨hsolicited, hjoined hsolicited⟩
      · exact .inr ⟨hsolicited, hkept hsolicited⟩

lemma updateIpAddrs_valid (hmedium : iface.medium = .ethernet)
    (h : iface.updateIpAddrs ipAddrs = .ok iface') :
    (∀ cidr ∈ ipAddrs, cidr.address.isUnicast ∨ cidr.address.isUnspecified = true) ∧
      ∀ cidr, .ipv6 cidr ∈ ipAddrs → Ipv6.isUnicast cidr.address := by
  obtain ⟨_, hvalid, h⟩ := Checked.bind_eq_ok.mp h
  rw [if_pos hmedium] at h
  refine ⟨Checked.assert_eq_ok.mp hvalid, fun cidr hcidr => ?_⟩
  let fresh := { iface with ipAddrs, neighborCache := iface.neighborCache.flush }
  have haddrs : fresh.ipAddrs = ipAddrs := rfl
  obtain ⟨left, hleave, -⟩ := leaveAll_spec fresh.oldSolicitedNodeGroups fresh
    fun g hg => ((mem_oldSolicitedNodeGroups haddrs).mp hg).2.1.isMulticast
  change joinSolicited (leaveAll fresh.oldSolicitedNodeGroups fresh).ipv6Cidrs _ = _ at h
  rw [hleave] at h
  exact joinSolicited_unicast h cidr (mem_ipv6Cidrs.mpr hcidr)

/-- An update does not add groups that are not of its addresses. -/
lemma Updated.mem (h : Updated ipAddrs g state state') (hstate : state' ≠ none) :
    state ≠ none ∨ IsSolicited ipAddrs g := by
  obtain ⟨left, hleft, hjoin⟩ := h
  obtain ⟨hsolicited, -⟩ | ⟨-, rfl⟩ := hjoin
  · exact .inr hsolicited
  · left
    rintro rfl
    obtain ⟨-, -, rfl⟩ | ⟨-, rfl⟩ := hleft
    · exact hstate rfl
    · exact hstate rfl

lemma Updated.others (h : Updated ipAddrs g state state') (hform : ¬ HasSolicitedForm g) :
    state' = state := by
  obtain ⟨left, hleft, hjoin⟩ := h
  obtain ⟨hleft, -⟩ | ⟨-, rfl⟩ := hleft
  · exact absurd hleft hform
  · obtain ⟨hsolicited, -⟩ | ⟨-, heq⟩ := hjoin
    · exact absurd hsolicited.hasForm hform
    · exact heq

lemma Updated.again (h : Updated ipAddrs g state state') (h' : Updated ipAddrs g state' state'') :
    state'' = state' := by
  obtain ⟨left, hleft, hjoin⟩ := h
  obtain ⟨left', hleft', hjoin'⟩ := h'
  by_cases hsolicited : IsSolicited ipAddrs g
  · obtain ⟨-, rfl⟩ := hjoin.resolve_right fun h => h.1 hsolicited
    obtain ⟨-, rfl⟩ := hjoin'.resolve_right fun h => h.1 hsolicited
    obtain ⟨-, -, rfl⟩ | ⟨-, rfl⟩ := hleft'
    · exact afterJoin_afterLeave_afterJoin left
    · exact afterJoin_afterJoin left
  · obtain ⟨-, rfl⟩ := hjoin.resolve_left fun h => hsolicited h.1
    obtain ⟨-, rfl⟩ := hjoin'.resolve_left fun h => hsolicited h.1
    obtain ⟨hform, hnear, rfl⟩ | ⟨hnot, rfl⟩ := hleft'
    · obtain ⟨-, -, rfl⟩ := hleft.resolve_right fun h => h.1 ⟨hform, hnear⟩
      exact afterLeave_afterLeave state
    · rfl

/-- The interface listens to the groups of its addresses, and to those that it did listen to and
that are near to one of them. -/
lemma Updated.listens_iff (h : Updated ipAddrs g state state') (hform : HasSolicitedForm g) :
    Listens state' ↔ IsSolicited ipAddrs g ∨ Listens state ∧ IsNear ipAddrs g := by
  obtain ⟨left, hleft, hjoin⟩ := h
  by_cases hsolicited : IsSolicited ipAddrs g
  · obtain ⟨-, rfl⟩ := hjoin.resolve_right fun h => h.1 hsolicited
    exact iff_of_true (listens_afterJoin left) (.inl hsolicited)
  · obtain ⟨-, rfl⟩ := hjoin.resolve_left fun h => hsolicited h.1
    obtain ⟨-, hnear, rfl⟩ | ⟨hnot, rfl⟩ := hleft
    · exact iff_of_false (not_listens_afterLeave state)
        fun h => h.elim hsolicited fun h => hnear h.2
    · have hnear : IsNear ipAddrs g := by
        by_contra hnear
        exact hnot ⟨hform, hnear⟩
      exact ⟨fun h => .inr ⟨h, hnear⟩, fun h => (h.resolve_left hsolicited).1⟩

/-- The solicited-node groups of an interface track its addresses exactly if no group that it
listens to is taken for the group of an address that it is not the group of. -/
theorem tracks_iff (hmedium : iface.medium = .ethernet) (hroom : iface.HasRoom ipAddrs)
    (h : iface.updateIpAddrs ipAddrs = .ok iface') :
    Tracks iface iface' ipAddrs ↔ ∀ g, ¬ iface.IsStale ipAddrs g := by
  obtain ⟨hvalid, hunicast⟩ := updateIpAddrs_valid hmedium h
  obtain ⟨groups, hupdate, hspec⟩ := updateIpAddrs_spec hmedium hroom hvalid hunicast
  obtain rfl := Except.ok.inj (hupdate.symm.trans h)
  have hlistens : ∀ g, HasSolicitedForm g → (Listens (groups.get g) ↔
      IsSolicited ipAddrs g ∨ Listens (iface.groups.get g) ∧ IsNear ipAddrs g) :=
    fun g hform => (hspec g).listens_iff hform
  constructor
  · rintro htracks g ⟨hgroup, hform, hnear, hnot⟩
    refine hnot ((htracks.exact g hform).mp ?_)
    rw [hasMulticastGroup_iff_listens] at hgroup ⊢
    exact (hlistens g hform).mpr (.inr ⟨hgroup, hnear⟩)
  · intro hstale
    refine ⟨fun g hform => ?_, fun g hform => (hspec g).others hform, ?_⟩
    · rw [hasMulticastGroup_iff_listens]
      refine (hlistens g hform).trans ⟨fun h => ?_, .inl⟩
      by_contra hnot
      obtain ⟨hgroup, hnear⟩ := h.resolve_left hnot
      exact hstale g ⟨hasMulticastGroup_iff_listens.mpr hgroup, hform, hnear, hnot⟩
    · obtain ⟨room, hlen, hkeys, hmem⟩ := hroom
      have hroom' : HasRoom ({ iface with
          ipAddrs, neighborCache := iface.neighborCache.flush }.setGroups groups) ipAddrs := by
        refine ⟨room, hlen, fun g hg => ?_, hmem⟩
        obtain ⟨value, hvalue⟩ := Heapless.LinearMap.mem_keys_iff.mp hg
        have hstate : groups.get g ≠ none := Option.ne_none_iff_exists'.mpr ⟨value, hvalue⟩
        obtain hbefore | hsolicited := (hspec g).mem hstate
        · exact hkeys (Heapless.LinearMap.mem_keys_iff.mpr (Option.ne_none_iff_exists'.mp hbefore))
        · exact hmem g hsolicited
      have hmedium' : ({ iface with
          ipAddrs, neighborCache := iface.neighborCache.flush }.setGroups groups).medium =
          .ethernet := hmedium
      obtain ⟨groups', hupdate', hspec'⟩ := updateIpAddrs_spec hmedium' hroom' hvalid hunicast
      exact ⟨groups', hupdate', fun g => (hspec g).again (hspec' g)⟩

lemma isSolicited_singleton (cidr : Ipv6.Cidr) {addr : Ipv6.Address}
    (h : Ipv6.solicitedNode cidr.address = .ok addr) :
    IsSolicited [.ipv6 cidr] g ↔ g = .ipv6 addr := by
  constructor
  · rintro ⟨c, a, hc, ha, rfl⟩
    cases List.mem_singleton.mp hc
    exact congrArg _ (Except.ok.inj (ha.symm.trans h))
  · rintro rfl
    exact ⟨cidr, addr, List.mem_singleton_self _, h, rfl⟩

/-- An interface that moves from fe80::12:1 to fe80::34:2 leaves the group of the former. -/
theorem tracks_moved :
    ∃ iface iface' iface'' : InterfaceInner .default,
      iface.updateIpAddrs [.ipv6 ⟨0xfe800000000000000000000000120001, 64, by decide⟩] =
        .ok iface' ∧
      iface'.multicast.hasMulticastGroup (.ipv6 0xff0200000000000000000001ff120001) ∧
      iface'.updateIpAddrs [.ipv6 ⟨0xfe800000000000000000000000340002, 64, by decide⟩] =
        .ok iface'' ∧
      Tracks iface' iface'' [.ipv6 ⟨0xfe800000000000000000000000340002, 64, by decide⟩] ∧
      ¬ iface''.multicast.hasMulticastGroup (.ipv6 0xff0200000000000000000001ff120001) := by
  let iface : InterfaceInner .default := InterfaceInner.new 1514 {} (.ethernet 0x020000000001) 0 1 1
  obtain ⟨iface', hupdate, hlistens⟩ := Checked.exists_of_any
    (x := iface.updateIpAddrs [.ipv6 ⟨0xfe800000000000000000000000120001, 64, by decide⟩])
    (p := fun iface' => decide (iface'.medium = .ethernet ∧
      iface'.groups.keys = [.ipv6 0xff0200000000000000000001ff120001] ∧
      iface'.multicast.hasMulticastGroup (.ipv6 0xff0200000000000000000001ff120001)))
    (by decide)
  obtain ⟨hmedium, hkeys, hlistens⟩ := of_decide_eq_true hlistens
  have hown := fun g => isSolicited_singleton (g := g)
    ⟨0xfe800000000000000000000000340002, 64, by decide⟩
    (by decide : Ipv6.solicitedNode _ = .ok 0xff0200000000000000000001ff340002)
  have hroom : iface'.HasRoom [.ipv6 ⟨0xfe800000000000000000000000340002, 64, by decide⟩] := by
    refine ⟨[.ipv6 0xff0200000000000000000001ff120001, .ipv6 0xff0200000000000000000001ff340002],
      by decide, ?_, fun g hg => ?_⟩
    · rw [hkeys]
      decide
    · rw [(hown g).mp hg]
      decide
  obtain ⟨groups, hupdate', -⟩ := updateIpAddrs_spec hmedium hroom (by decide) (by
    intro cidr hcidr
    cases List.mem_singleton.mp hcidr
    decide +kernel)
  have htracks := (tracks_iff hmedium hroom hupdate').mpr (by
    rintro g ⟨hg, -, hnear, -⟩
    rw [hasMulticastGroup_iff_listens] at hg
    have hmem : g ∈ iface'.groups.keys := by
      rw [Heapless.LinearMap.mem_keys_iff]
      exact hg.elim (fun h => ⟨_, h⟩) fun h => ⟨_, h⟩
    rw [hkeys] at hmem
    cases List.mem_singleton.mp hmem
    obtain ⟨cidr, hcidr, -, hlast⟩ := hnear
    cases List.mem_singleton.mp hcidr
    exact absurd hlast (by decide))
  refine ⟨iface, iface', _, hupdate, hlistens, hupdate', htracks, fun hgroup => ?_⟩
  have hsolicited := (htracks.exact (.ipv6 0xff0200000000000000000001ff120001)
    (by decide : Ipv6.isSolicitedNodeMulticast _)).mp hgroup
  exact absurd ((hown _).mp hsolicited) (by decide)

/-- After a change from fe80::12:1 to fe80::34:1 the interface still listens to the group of the
former. -/
theorem not_tracks :
    ∃ iface iface' iface'' : InterfaceInner .default, iface.medium = .ethernet ∧
      iface.groups.entries = [] ∧
      iface.updateIpAddrs [.ipv6 ⟨0xfe800000000000000000000000120001, 64, by decide⟩] =
        .ok iface' ∧
      iface'.HasRoom [.ipv6 ⟨0xfe800000000000000000000000340001, 64, by decide⟩] ∧
      iface'.updateIpAddrs [.ipv6 ⟨0xfe800000000000000000000000340001, 64, by decide⟩] =
        .ok iface'' ∧
      ¬ Tracks iface' iface'' [.ipv6 ⟨0xfe800000000000000000000000340001, 64, by decide⟩] := by
  let iface : InterfaceInner .default := InterfaceInner.new 1514 {} (.ethernet 0x020000000001) 0 1 1
  obtain ⟨iface', hupdate, hkeys⟩ := Checked.exists_of_any
    (x := iface.updateIpAddrs [.ipv6 ⟨0xfe800000000000000000000000120001, 64, by decide⟩])
    (p := fun iface' => decide (iface'.groups.keys = [.ipv6 0xff0200000000000000000001ff120001]))
    (by decide)
  obtain ⟨iface'', hupdate', hstale⟩ := Checked.exists_of_any
    (x := iface.updateIpAddrs [.ipv6 ⟨0xfe800000000000000000000000120001, 64, by decide⟩] >>=
      fun iface' => iface'.updateIpAddrs
        [.ipv6 ⟨0xfe800000000000000000000000340001, 64, by decide⟩])
    (p := fun iface'' => decide (iface''.multicast.hasMulticastGroup
      (.ipv6 0xff0200000000000000000001ff120001))) (by decide)
  rw [hupdate, Checked.ok_bind] at hupdate'
  have hown := fun g => isSolicited_singleton (g := g)
    ⟨0xfe800000000000000000000000340001, 64, by decide⟩
    (by decide : Ipv6.solicitedNode _ = .ok 0xff0200000000000000000001ff340001)
  refine ⟨iface, iface', iface'', rfl, rfl, hupdate, ?_, hupdate', fun htracks => ?_⟩
  · refine ⟨[.ipv6 0xff0200000000000000000001ff120001, .ipv6 0xff0200000000000000000001ff340001],
      by decide, ?_, fun g hg => ?_⟩
    · rw [of_decide_eq_true hkeys]
      decide
    · rw [(hown g).mp hg]
      decide
  · have hsolicited := (htracks.exact (.ipv6 0xff0200000000000000000001ff120001)
      (by decide : Ipv6.isSolicitedNodeMulticast _)).mp (of_decide_eq_true hstale)
    exact absurd ((hown _).mp hsolicited) (by decide)

end Update

end InterfaceInner

end Smoltcp
