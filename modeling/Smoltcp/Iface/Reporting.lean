import Smoltcp.Iface.Queries

/-!
# Reports for membership queries over runs

The walk that answers a general IGMP query reports every group that stays exactly once, as long as
no group is moved over the place where the walk stands. An MLD query is answered when its time has
come, as long as the device has a token for the report then.
-/

namespace Smoltcp

namespace Reporting

open InterfaceInner InterfaceInner.Egress Transition Walk

/-- An interface, and what it sent for IGMP and for MLD queries. -/
structure Host (cfg : IfaceConfig) where
  iface : InterfaceInner cfg
  fragmenter : Fragmenter
  igmp : List Transmission
  mld : List Transmission

inductive Op where
  | join (addr : IpAddress)
  | leave (addr : IpAddress)
  /-- An IGMP message. -/
  | igmp (now : Instant) (ipv4Repr : Ipv4.Repr) (ipPayload : List UInt8)
  /-- An MLD query, and the random number that it is answered with. -/
  | mldv2 (now : Instant) (rand : UInt16) (ipRepr : Ipv6Repr) (maxRespCode : UInt16)
      (mcastAddr : Ipv6.Address)
  /-- A poll for egress, with the answers of the device to requests for a token. -/
  | egress (now : Instant) (device : List Bool)

variable {cfg : IfaceConfig}

namespace Host

variable (emit : Packet → Emission) (s : Host cfg)

/-- The loops of a poll for egress start here. -/
def poll (now : Instant) (device : List Bool) : Egress cfg :=
  ⟨{ s.iface with now }, s.fragmenter, device, []⟩

def step : Op → Checked (Host cfg)
  | .join addr => .ok { s with iface := (s.iface.joinMulticastGroup addr).1 }
  | .leave addr => .ok { s with iface := (s.iface.leaveMulticastGroup addr).1 }
  | .igmp now ipv4Repr ipPayload =>
    .ok { s with iface := { s.iface with now }.processIgmp ipv4Repr ipPayload }
  | .mldv2 now rand ipRepr maxRespCode mcastAddr =>
    .ok { s with iface := { s.iface with now }.processMldv2 rand ipRepr maxRespCode mcastAddr }
  | .egress now device => do
    let joined ← (s.poll now device).joins emit
    let left ← joined.leaves emit
    let reported ← left.igmpReports emit
    let r ← reported.mldReports emit
    return ⟨r.iface, r.fragmenter, s.igmp ++ reported.sent.drop left.sent.length,
      s.mld ++ r.sent.drop reported.sent.length⟩

abbrev Steps (s : Host cfg) (o : Op) (t : Host cfg) : Prop := s.step emit o = .ok t

/-- The requests for a token before the reports. -/
def announcements (now : Instant) : ℕ :=
  (s.poll now []).iface.requests .joining joinPacket +
    (s.poll now []).iface.requests .leaving leavePacket

/-- The place where the walk for a general IGMP query stands. -/
def nextIndex : Option ℕ :=
  match s.iface.multicast.igmpReportState with
  | .toGeneralQuery _ _ _ n => some n
  | _ => none

/-- The reports of a group for IGMP queries. -/
def reports (g : Ipv4.Address) : ℕ := s.igmp.countP (Transmission.reportsIpv4 g)

/-- Joins, leaves of other groups, and polls of an interface with an IPv4 address, whose device has
tokens enough. -/
def Leaves (g : Ipv4.Address) : Op → Prop
  | .join _ => True
  | .leave addr => addr ≠ .ipv4 g
  | .egress now device => s.iface.ipv4Addr.isSome ∧ s.announcements now + 2 ≤ tokens device
  | .igmp .. => False
  | .mldv2 .. => False

/-- No group that was not reported is moved to a place that the walk has passed. Reports fit in the
MTU. -/
def Spared : Op → Prop
  | .leave addr => s.iface.groups.get addr = some .joining →
    ∀ n ∈ s.nextIndex, Spares IpAddress.asIpv4 s.iface.groups.keys n addr
  | .egress _ _ => 28 ≤ s.iface.ipMtu ∧ ∀ n ∈ s.nextIndex,
    SparesAll IpAddress.asIpv4 n (fun addr => s.iface.groups.get addr = some .leaving)
      s.iface.groups.keys.length s.iface.groups.keys
  | _ => True

end Host

/-! ### IGMP -/

/-- The group was reported for the query, or the walk has not reached it. -/
structure Walked (g : Ipv4.Address) (count : ℕ) (s : Host cfg) : Prop where
  member : IsMember (s.iface.groups.get (.ipv4 g))
  reports : match s.iface.multicast.igmpReportState with
    | .inactive => s.reports g = count + 1
    | .toGeneralQuery _ _ _ n =>
      s.reports g = count + if g ∈ visited IpAddress.asIpv4 s.iface.groups.keys n then 1 else 0
    | .toSpecificQuery .. => False

section Igmp

variable {emit : Packet → Emission} {s t u : Host cfg} {o : Op} {g : Ipv4.Address} {count : ℕ}
  {now : Instant} {device : List Bool}

lemma Walked.congr (h : Walked g count s) (hmember : IsMember (t.iface.groups.get (.ipv4 g)))
    (hstate : t.iface.multicast.igmpReportState = s.iface.multicast.igmpReportState)
    (higmp : t.igmp = s.igmp)
    (hvisited : ∀ n ∈ s.nextIndex, g ∈ visited IpAddress.asIpv4 t.iface.groups.keys n ↔
      g ∈ visited IpAddress.asIpv4 s.iface.groups.keys n) : Walked g count t := by
  refine ⟨hmember, ?_⟩
  have hreports := h.reports
  unfold Host.nextIndex at hvisited
  rw [hstate, Host.reports, higmp, ← Host.reports]
  cases hs : s.iface.multicast.igmpReportState with
  | inactive =>
    rw [hs] at hreports
    exact hreports
  | toSpecificQuery =>
    rw [hs] at hreports
    exact hreports
  | toGeneralQuery version timeout interval n =>
    rw [hs] at hreports hvisited
    simp only [hvisited n rfl]
    exact hreports

lemma Walked.mem_filterMap (h : Walked g count s) :
    g ∈ s.iface.groups.keys.filterMap IpAddress.asIpv4 :=
  List.mem_filterMap.mpr ⟨.ipv4 g, mem_keys_of_isMember h.member, rfl⟩

lemma Walked.join (h : Walked g count s) {addr : IpAddress} (hstep : s.Steps emit (.join addr) t) :
    Walked g count t := by
  cases hstep
  obtain ⟨hkeys, hmember⟩ := joinMulticastGroup_rule s.iface addr
  have hcalled := Membership.joinMulticastGroup_called s.iface addr
  refine h.congr (hmember _ h.member) hcalled.igmp rfl fun n _ => ?_
  dsimp only
  obtain hkeys | ⟨hnot, hkeys⟩ := hkeys
  · rw [hkeys]
  · rw [hkeys]
    refine mem_visited_concat fun hsome => hnot ?_
    rw [asIpv4_eq_some.mp hsome]
    exact mem_keys_of_isMember h.member

lemma Walked.leave (h : Walked g count s) {addr : IpAddress} (hne : addr ≠ .ipv4 g)
    (hspared : s.Spared (.leave addr)) (hstep : s.Steps emit (.leave addr) t) :
    Walked g count t := by
  cases hstep
  obtain ⟨hkeys, hmember⟩ := leaveMulticastGroup_rule s.iface addr
  have hcalled := Membership.leaveMulticastGroup_called s.iface addr
  refine h.congr (hmember _ hne.symm h.member) hcalled.igmp rfl fun n hn => ?_
  dsimp only
  obtain hkeys | ⟨hjoining, hkeys⟩ := hkeys
  · rw [hkeys]
  · rw [hkeys]
    refine mem_visited_swapRemove s.iface.groups.nodup_keys
      (Heapless.LinearMap.mem_keys_iff.mpr ⟨_, hjoining⟩) (hspared hjoining n hn) h.mem_filterMap ?_
    exact fun hsome => hne (asIpv4_eq_some.mp hsome)

/-- A poll sends at most one report of a group for the query. -/
lemma Walked.egress (h : Walked g count s) (hleaves : s.Leaves g (.egress now device))
    (hspared : s.Spared (.egress now device)) (hstep : s.Steps emit (.egress now device) t) :
    Walked g count t := by
  obtain ⟨haddr, htokens⟩ := hleaves
  obtain ⟨hmtu, hspares⟩ := hspared
  obtain ⟨joined, hjoined, hstep⟩ := Checked.bind_eq_ok.mp hstep
  obtain ⟨left, hleft, hstep⟩ := Checked.bind_eq_ok.mp hstep
  obtain ⟨reported, hreported, hstep⟩ := Checked.bind_eq_ok.mp hstep
  obtain ⟨r, hr, hstep⟩ := Checked.bind_eq_ok.mp hstep
  cases hstep
  have hswept := swept_of_leaves hjoined hleft
  obtain ⟨hgroups, higmp, -⟩ := mldReports_rule hr
  have hserved := igmpReports_served hreported
  have hstate : left.iface.multicast.igmpReportState = s.iface.multicast.igmpReportState :=
    hswept.untouched.reports.1
  have hmember : IsMember (r.iface.groups.get (.ipv4 g)) := by
    rw [hgroups, hserved.groups]
    exact hswept.member _ h.member
  have hreports := h.reports
  have hvisited : ∀ n ∈ s.nextIndex, g ∈ visited IpAddress.asIpv4 left.iface.groups.keys n ↔
      g ∈ visited IpAddress.asIpv4 s.iface.groups.keys n :=
    fun n hn => hswept.visited_iff n (hspares n hn) g h.member
  cases hs : s.iface.multicast.igmpReportState with
  | toSpecificQuery =>
    rw [hs] at hreports
    exact hreports.elim
  | inactive =>
    have hsame : reported = left := by
      unfold igmpReports at hreported
      rw [hstate, hs] at hreported
      cases hreported
      rfl
    refine h.congr hmember ?_ ?_ ?_
    · change r.iface.multicast.igmpReportState = _
      rw [higmp, hsame, hstate]
    · dsimp only
      rw [hsame, List.drop_length, List.append_nil]
    · intro n hn
      unfold Host.nextIndex at hn
      rw [hs] at hn
      cases hn
  | toGeneralQuery version timeout interval n =>
    rw [hs] at hreports hstate
    have hn : n ∈ s.nextIndex := by
      unfold Host.nextIndex
      rw [hs]
      rfl
    have hkeys : r.iface.groups.keys = left.iface.groups.keys := by rw [hgroups, hserved.groups]
    have hpos : 0 < tokens left.device := by
      have hle := hswept.tokens_le
      change tokens device ≤ tokens left.device + _ + _ at hle
      unfold Host.announcements at htokens
      change (s.poll now device).iface.requests .joining joinPacket +
        (s.poll now device).iface.requests .leaving leavePacket + 2 ≤ _ at htokens
      omega
    have haddr' : left.iface.ipv4Addr.isSome := by
      rw [hswept.untouched.ipv4Addr]
      exact haddr
    have hmtu' : 28 ≤ left.iface.ipMtu := by
      rw [hswept.untouched.ipMtu]
      exact hmtu
    refine ⟨hmember, ?_⟩
    dsimp only
    obtain rfl | ⟨addr, timeout', m, hnext, hsent, hm, hstate'⟩ | ⟨hnone, hsent, hstate'⟩ :=
      igmpReports_general hstate haddr' hmtu' hpos hreported
    · -- it is not the time
      rw [higmp, hstate, Host.reports]
      dsimp only
      rw [List.drop_length, List.append_nil, hkeys, ← Host.reports, hreports]
      simp only [hvisited n hn]
    · -- one more group is reported
      rw [higmp, hstate', Host.reports]
      dsimp only
      rw [ipv4Groups_eq] at hnext
      rw [hsent, List.drop_left, List.countP_append, List.countP_singleton, hm, hkeys,
        ← Host.reports, hreports, add_assoc]
      simp only [← hvisited n hn, mem_visited_succ hnext]
      have hnodup : (left.iface.groups.keys.filterMap IpAddress.asIpv4).Nodup := by
        refine List.Nodup.filterMap ?_ left.iface.groups.nodup_keys
        intro a b c ha hb
        rw [Option.mem_def, asIpv4_eq_some] at ha hb
        rw [ha, hb]
      have hnot := not_mem_visited hnodup hnext
      by_cases hg : g = addr
      · subst hg
        simp [hnot]
      · simp [hg, Ne.symm hg]
    · -- the walk is over
      rw [higmp, hstate', Host.reports]
      dsimp only
      rw [ipv4Groups_eq] at hnone
      have hg : g ∈ visited IpAddress.asIpv4 left.iface.groups.keys n := by
        rw [visited_of_none hnone]
        exact List.mem_filterMap.mpr
          ⟨.ipv4 g, mem_keys_of_isMember (hswept.member _ h.member), rfl⟩
      rw [hsent, List.drop_length, List.append_nil, ← Host.reports, hreports,
        if_pos ((hvisited n hn).mp hg)]

lemma Walked.step (h : Walked g count s) (hleaves : s.Leaves g o) (hspared : s.Spared o)
    (hstep : s.Steps emit o t) : Walked g count t := by
  cases o with
  | join addr => exact h.join hstep
  | leave addr => exact h.leave hleaves hspared hstep
  | egress now device => exact h.egress hleaves hspared hstep
  | igmp | mldv2 => exact hleaves.elim

/-- An IGMP message that asks for all groups. -/
def IsGeneralQuery (ipv4Repr : Ipv4.Repr) (ipPayload : List UInt8) : Prop :=
  ∃ maxRespTime groupAddr version,
    IgmpRepr.parse ipPayload = .ok (.membershipQuery maxRespTime groupAddr version) ∧
      Ipv4.isUnspecified groupAddr ∧ ipv4Repr.dstAddr = Ipv4.multicastAllSystems

/-- The walk starts with a query, if the interface is member of a group. -/
lemma walked_of_query {ipv4Repr : Ipv4.Repr} {ipPayload : List UInt8}
    (hstep : s.Steps emit (.igmp now ipv4Repr ipPayload) t)
    (hquery : IsGeneralQuery ipv4Repr ipPayload)
    (hg : t.iface.multicast.hasMulticastGroup (.ipv4 g)) : Walked g (t.reports g) t := by
  obtain ⟨maxRespTime, groupAddr, version, hparse, hunspecified, hdst⟩ := hquery
  cases hstep
  have hgroups : (processIgmp { s.iface with now } ipv4Repr ipPayload).groups = s.iface.groups := by
    unfold processIgmp
    rw [hparse]
    dsimp only
    rw [if_pos ⟨hunspecified, hdst⟩]
    split_ifs <;> rfl
  have hmember : IsMember (s.iface.groups.get (.ipv4 g)) := by
    rw [← hgroups]
    exact isMember_of_hasMulticastGroup hg
  have hcount : ({ s.iface with now } : InterfaceInner cfg).ipv4GroupCount ≠ 0 := by
    refine (List.length_pos_of_mem (a := .ipv4 g) ?_).ne'
    exact List.mem_filter.mpr ⟨mem_keys_of_isMember hmember, rfl⟩
  refine ⟨?_, ?_⟩
  · change IsMember ((processIgmp { s.iface with now } ipv4Repr ipPayload).groups.get (.ipv4 g))
    rw [hgroups]
    exact hmember
  · have hstate : ∃ timeout interval,
        (processIgmp { s.iface with now } ipv4Repr ipPayload).multicast.igmpReportState =
          .toGeneralQuery version timeout interval 0 := by
      unfold processIgmp
      rw [hparse]
      dsimp only
      rw [if_pos ⟨hunspecified, hdst⟩, if_pos hcount]
      exact ⟨_, _, rfl⟩
    obtain ⟨timeout, interval, hstate⟩ := hstate
    dsimp only
    rw [hstate]
    rfl

/-- A group that stays is reported once for a general query, if it is spared. -/
lemma reports_of_run {ipv4Repr : Ipv4.Repr} {ipPayload : List UInt8}
    (hstep : s.Steps emit (.igmp now ipv4Repr ipPayload) t)
    (hquery : IsGeneralQuery ipv4Repr ipPayload)
    (hg : t.iface.multicast.hasMulticastGroup (.ipv4 g))
    (hrun : Run (Host.Steps emit) (fun s o => s.Leaves g o ∧ s.Spared o) t u)
    (hdone : u.iface.multicast.igmpReportState = .inactive) : u.reports g = t.reports g + 1 := by
  have hwalked : Walked g (t.reports g) u :=
    hrun.invariant (fun _ _ _ h ho hstep => h.step ho.1 ho.2 hstep)
      (walked_of_query hstep hquery hg)
  have hreports := hwalked.reports
  rw [hdone] at hreports
  exact hreports

end Igmp

/-! ### MLD -/

/-- The time at which a report for the query is due. -/
def queryTimeout : MldReportState → Option Instant
  | .inactive => none
  | .toGeneralQuery timeout => some timeout
  | .toSpecificQuery _ timeout => some timeout

/-- The query that waits for its report asks for a group. -/
def Asks (q : MldReportState) (g : Ipv6.Address) (s : Host cfg) : Prop :=
  match q with
  | .inactive => False
  | .toGeneralQuery _ => IsMember (s.iface.groups.get (.ipv6 g))
  | .toSpecificQuery group _ => group = g

/-- No other query comes, and the group is not left if the query is a general one. -/
def Stays (q : MldReportState) (g : Ipv6.Address) : Op → Prop
  | .leave addr => (∃ timeout, q = .toGeneralQuery timeout) → addr ≠ .ipv6 g
  | .mldv2 .. => False
  | _ => True

/-- The records of the report for a query. -/
def recordCount (q : MldReportState) (s : Egress cfg) : ℕ :=
  match q with
  | .inactive => 0
  | .toGeneralQuery _ => s.ipv6Groups.length
  | .toSpecificQuery .. => 1

/-- When the report for a query is due, the device has a token for it, and it fits in the MTU. -/
def Served (q : MldReportState) (s : Host cfg) : Op → Prop
  | .egress now device =>
    s.iface.multicast.mldReportState = q → ∀ timeout ∈ queryTimeout q, timeout ≤ now →
      s.announcements now + (if (s.poll now device).igmpIsDue then 1 else 0) < tokens device ∧
        56 + 20 * recordCount q (s.poll now device) ≤ s.iface.ipMtu
  | _ => True

/-- The query waits for its report, or the group was reported after `log`. -/
def Handled (q : MldReportState) (g : Ipv6.Address) (log : List Transmission) (s : Host cfg) :
    Prop :=
  ∃ msgs, s.mld = log ++ msgs ∧
    (s.iface.multicast.mldReportState = q ∧ Asks q g s ∨ ∃ m ∈ msgs, m.reportsIpv6 g)

/-- The group was reported after `log`. -/
def Reported (g : Ipv6.Address) (log : List Transmission) (s : Host cfg) : Prop :=
  ∃ msgs, s.mld = log ++ msgs ∧ ∃ m ∈ msgs, m.reportsIpv6 g

section Mld

variable {emit : Packet → Emission} {s t u : Host cfg} {o : Op} {q : MldReportState}
  {g : Ipv6.Address} {log : List Transmission} {now timeout : Instant} {device : List Bool}

lemma bufferLen_mldv2ReportPacket (iface : InterfaceInner cfg)
    (records : List MldAddressRecordRepr) :
    (iface.mldv2ReportPacket records).bufferLen =
      56 + (records.map MldAddressRecordRepr.bufferLen).sum := by
  change 40 + (2 + 6 + 8 + (records.map MldAddressRecordRepr.bufferLen).sum) = _
  omega

lemma processIgmp_frame (iface : InterfaceInner cfg) (ipv4Repr : Ipv4.Repr)
    (ipPayload : List UInt8) :
    (iface.processIgmp ipv4Repr ipPayload).groups = iface.groups ∧
      (iface.processIgmp ipv4Repr ipPayload).multicast.mldReportState =
        iface.multicast.mldReportState := by
  unfold processIgmp
  split
  · split_ifs <;> exact ⟨rfl, rfl⟩
  · exact ⟨rfl, rfl⟩

lemma Handled.congr (h : Handled q g log s)
    (hstate : t.iface.multicast.mldReportState = s.iface.multicast.mldReportState)
    (hasks : Asks q g s → Asks q g t) (hmld : t.mld = s.mld) : Handled q g log t := by
  obtain ⟨msgs, hmsgs, hwaits⟩ := h
  exact ⟨msgs, hmld.trans hmsgs, hwaits.imp (fun h => ⟨hstate.trans h.1, hasks h.2⟩) id⟩

lemma Asks.of_member (h : Asks q g s)
    (hmember : (∃ timeout, q = .toGeneralQuery timeout) →
      IsMember (s.iface.groups.get (.ipv6 g)) → IsMember (t.iface.groups.get (.ipv6 g))) :
    Asks q g t := by
  cases q with
  | inactive => exact h
  | toGeneralQuery timeout => exact hmember ⟨timeout, rfl⟩ h
  | toSpecificQuery group timeout => exact h

lemma igmpIsDue_of_untouched {s t : Egress cfg} (h : s.iface.Untouched t.iface) :
    t.igmpIsDue = s.igmpIsDue := by
  obtain ⟨ipv4Id, groups, heq⟩ := h
  unfold igmpIsDue
  rw [heq]
  rfl

/-- The records of the report for a query that asks for a group have one for it. -/
lemma exists_records {s : Host cfg} {t : Egress cfg} (hasks : Asks q g s)
    (hmember : IsMember (s.iface.groups.get (.ipv6 g)) → IsMember (t.iface.groups.get (.ipv6 g)))
    (htimeout : queryTimeout q = some timeout) :
    ∃ records, (q = .toGeneralQuery timeout ∧
        records = t.ipv6Groups.map (MldAddressRecordRepr.new .modeIsExclude) ∨
      ∃ group, q = .toSpecificQuery group timeout ∧ records = [.new .modeIsExclude group]) ∧
      records.length = recordCount q t ∧ .new .modeIsExclude g ∈ records := by
  cases q with
  | inactive => cases htimeout
  | toGeneralQuery timeout' =>
    cases htimeout
    refine ⟨_, .inl ⟨rfl, rfl⟩, List.length_map _, List.mem_map_of_mem ?_⟩
    exact List.mem_filterMap.mpr ⟨.ipv6 g, mem_keys_of_isMember (hmember hasks), rfl⟩
  | toSpecificQuery group timeout' =>
    cases htimeout
    refine ⟨_, .inr ⟨group, rfl, rfl⟩, rfl, ?_⟩
    rw [show group = g from hasks]
    exact List.mem_singleton_self _

lemma mldReports_early {s s' : Egress cfg} (hstate : s.iface.multicast.mldReportState = q)
    (htimeout : queryTimeout q = some timeout) (hearly : ¬ timeout ≤ s.iface.now)
    (h : s.mldReports emit = .ok s') : s' = s := by
  unfold mldReports at h
  rw [hstate] at h
  cases q with
  | inactive => cases htimeout
  | toGeneralQuery timeout' | toSpecificQuery group timeout' =>
    cases htimeout
    dsimp only at h
    rw [if_neg hearly] at h
    cases h
    rfl

/-- A poll adds to what was sent for queries. If the query waits, then it waits after the poll, or
its time has come and the group is reported. -/
lemma Handled.egress (h : Handled q g log s) (hserved : Served q s (.egress now device))
    (hstep : s.Steps emit (.egress now device) t) :
    Handled q g log t ∧
      (∀ timeout ∈ queryTimeout q, timeout ≤ now → Reported g log t) := by
  obtain ⟨joined, hjoined, hstep⟩ := Checked.bind_eq_ok.mp hstep
  obtain ⟨left, hleft, hstep⟩ := Checked.bind_eq_ok.mp hstep
  obtain ⟨reported, hreported, hstep⟩ := Checked.bind_eq_ok.mp hstep
  obtain ⟨r, hr, hstep⟩ := Checked.bind_eq_ok.mp hstep
  cases hstep
  have hswept := swept_of_leaves hjoined hleft
  have higmp := igmpReports_served hreported
  obtain ⟨hgroups, -, new, hnew⟩ := mldReports_rule hr
  obtain ⟨msgs, hmsgs, hwaits⟩ := h
  have hlog : s.mld ++ r.sent.drop reported.sent.length = log ++ (msgs ++ new) := by
    rw [hnew, List.drop_left, hmsgs, List.append_assoc]
  obtain ⟨hstate, hasks⟩ | ⟨m, hm, hreports⟩ := hwaits
  · have hstate' : reported.iface.multicast.mldReportState = q := by
      rw [higmp.mld, hswept.untouched.reports.2]
      exact hstate
    have hnow : reported.iface.now = now := by
      obtain ⟨ipv4Id, groups, heq⟩ := hswept.untouched
      rw [higmp.now, heq]
      rfl
    have hmember : IsMember (s.iface.groups.get (.ipv6 g)) →
        IsMember (reported.iface.groups.get (.ipv6 g)) := by
      rw [higmp.groups]
      exact hswept.member _
    obtain ⟨timeout, htimeout⟩ : ∃ timeout, queryTimeout q = some timeout := by
      cases q with
      | inactive => exact hasks.elim
      | toGeneralQuery timeout => exact ⟨timeout, rfl⟩
      | toSpecificQuery group timeout => exact ⟨timeout, rfl⟩
    by_cases hdue : timeout ≤ now
    · -- the time of the report has come
      obtain ⟨htokens, hmtu⟩ := hserved hstate timeout htimeout hdue
      have hpos : 0 < tokens reported.device := by
        have hswept' := hswept.tokens_le
        have hserved' := higmp.tokens_le
        simp only [igmpIsDue_of_untouched hswept.untouched] at hserved'
        change tokens device ≤ _ + _ + _ at hswept'
        unfold Host.announcements at htokens
        change (s.poll now device).iface.requests .joining joinPacket +
          (s.poll now device).iface.requests .leaving leavePacket + _ < _ at htokens
        omega
      obtain ⟨records, hq, hlen, hg⟩ := exists_records (t := reported) hasks hmember htimeout
      have hmtu' : (reported.iface.mldv2ReportPacket records).bufferLen ≤ reported.iface.ipMtu := by
        have hle := hswept.ipv6Groups_length_le
        have hcount : recordCount q reported ≤ recordCount q (s.poll now device) := by
          cases q with
          | toGeneralQuery timeout =>
            change reported.ipv6Groups.length ≤ (s.poll now device).ipv6Groups.length
            rw [ipv6Groups, higmp.groups]
            exact hle
          | _ => exact le_rfl
        rw [bufferLen_mldv2ReportPacket, higmp.ipMtu, hswept.untouched.ipMtu]
        change _ ≤ s.iface.ipMtu
        have hsum : (records.map MldAddressRecordRepr.bufferLen).sum = 20 * records.length := by
          rw [show MldAddressRecordRepr.bufferLen = Function.const _ 20 from rfl, List.map_const,
            List.sum_replicate, smul_eq_mul, mul_comm]
        rw [hsum, hlen]
        omega
      obtain ⟨dst, hsent⟩ := mldReports_due hstate' hq (hnow ▸ hdue) hpos hmtu' hr
      have hnew' : new = [.packet dst (reported.iface.mldv2ReportPacket records)] :=
        List.append_cancel_left (hnew.symm.trans hsent)
      have hreports : Transmission.reportsIpv6 g
          (.packet dst (reported.iface.mldv2ReportPacket records)) = true :=
        decide_eq_true ⟨rfl, hg⟩
      have hmem : Transmission.packet dst (reported.iface.mldv2ReportPacket records) ∈
          msgs ++ new := by
        rw [hnew']
        exact List.mem_append_right _ (List.mem_singleton_self _)
      exact ⟨⟨_, hlog, .inr ⟨_, hmem, hreports⟩⟩, fun _ _ _ => ⟨_, hlog, _, hmem, hreports⟩⟩
    · have hsame : r = reported := mldReports_early hstate' htimeout (hnow ▸ hdue) hr
      refine ⟨⟨_, hlog, .inl ⟨?_, ?_⟩⟩, fun timeout' htimeout' hdue' => ?_⟩
      · rw [hsame]
        exact hstate'
      · refine hasks.of_member fun _ hg => ?_
        rw [hsame]
        exact hmember hg
      · rw [htimeout] at htimeout'
        cases htimeout'
        exact absurd hdue' hdue
  · have hmem : m ∈ msgs ++ new := List.mem_append_left _ hm
    exact ⟨⟨_, hlog, .inr ⟨m, hmem, hreports⟩⟩, fun _ _ _ => ⟨_, hlog, m, hmem, hreports⟩⟩

lemma Handled.step (h : Handled q g log s) (hstays : Stays q g o) (hserved : Served q s o)
    (hstep : s.Steps emit o t) : Handled q g log t := by
  cases o with
  | join addr =>
    cases hstep
    have hcalled := Membership.joinMulticastGroup_called s.iface addr
    refine h.congr hcalled.mld (fun hasks => hasks.of_member fun _ => ?_) rfl
    exact (joinMulticastGroup_rule s.iface addr).2 _
  | leave addr =>
    cases hstep
    have hcalled := Membership.leaveMulticastGroup_called s.iface addr
    refine h.congr hcalled.mld (fun hasks => hasks.of_member fun hgeneral => ?_) rfl
    exact (leaveMulticastGroup_rule s.iface addr).2 _ (hstays hgeneral).symm
  | igmp now ipv4Repr ipPayload =>
    cases hstep
    obtain ⟨hgroups, hmld⟩ := processIgmp_frame { s.iface with now } ipv4Repr ipPayload
    refine h.congr hmld (fun hasks => hasks.of_member fun _ hg => ?_) rfl
    dsimp only
    rw [hgroups]
    exact hg
  | mldv2 => exact hstays.elim
  | egress now device => exact (h.egress hserved hstep).1

/-- A query waits for its report until its time has come, and then the report is sent, if the device
serves it. -/
lemma handled_of_run (hasks : Asks q g t) (hstate : t.iface.multicast.mldReportState = q)
    (hrun : Run (Host.Steps emit) (fun s o => Stays q g o ∧ Served q s o) t u) :
    Handled q g t.mld u :=
  hrun.invariant (fun _ _ _ h ho hstep => h.step ho.1 ho.2 hstep)
    ⟨[], (List.append_nil _).symm, .inl ⟨hstate, hasks⟩⟩

end Mld

/-! ### Both protocols -/

section Both

variable (emit : Packet → Emission) (s t u v : Host cfg) (now : Instant)

/-- A general IGMP query is answered by one report for every group that stays and is spared. An MLD
query waits for its report until its time has come, and then it is answered if the device serves it.
-/
theorem queries_answered :
    (∀ g ipv4Repr ipPayload, s.Steps emit (.igmp now ipv4Repr ipPayload) t →
      IsGeneralQuery ipv4Repr ipPayload → t.iface.multicast.hasMulticastGroup (.ipv4 g) →
      Run (Host.Steps emit) (fun s o => s.Leaves g o ∧ s.Spared o) t u →
      u.iface.multicast.igmpReportState = .inactive → u.reports g = t.reports g + 1) ∧
    (∀ q g, t.iface.multicast.mldReportState = q → Asks q g t →
      Run (Host.Steps emit) (fun s o => Stays q g o ∧ Served q s o) t u →
      (u.iface.multicast.mldReportState = q ∨ Reported g t.mld u) ∧
        ∀ timeout ∈ queryTimeout q, timeout ≤ now → ∀ device,
          Served q u (.egress now device) → u.Steps emit (.egress now device) v →
          Reported g t.mld v) := by
  constructor
  · intro g ipv4Repr ipPayload hstep hquery hg hrun hdone
    exact reports_of_run hstep hquery hg hrun hdone
  · intro q g hstate hasks hrun
    have hhandled := handled_of_run hasks hstate hrun
    constructor
    · obtain ⟨msgs, hmsgs, hwaits⟩ := hhandled
      exact hwaits.imp (fun h => h.1) fun h => ⟨msgs, hmsgs, h⟩
    · intro timeout htimeout hdue device hserved hstep
      exact (hhandled.egress hserved hstep).2 timeout htimeout hdue

end Both

/-! ### An example -/

/-- An interface of an IP device, with an address of each family. -/
def exampleHost : Host .default := ⟨Membership.exampleHost.iface, .new 1500, [], []⟩

/-- A general query of the second version of IGMP. -/
def exampleQuery (secs : Int64) : Op :=
  .igmp (secs * 1000000) ⟨0x0a000002, Ipv4.multicastAllSystems, .igmp, 8, 1⟩
    [0x11, 100, 0, 0, 0, 0, 0, 0]

/-- A poll of a device that has tokens enough. -/
def examplePoll (secs : Int64) : Op := .egress (secs * 1000000) (List.replicate 8 true)

/-- A group of each family, which routers were told of. -/
def exampleJoins : List Op :=
  [.join (.ipv4 0xe000000a), .join (.ipv6 (0xff02 <<< 112 ||| 0xfb)), examplePoll 0]

lemma exampleQuery_isGeneralQuery :
    IsGeneralQuery ⟨0x0a000002, Ipv4.multicastAllSystems, .igmp, 8, 1⟩
    [0x11, 100, 0, 0, 0, 0, 0, 0] :=
  ⟨_, _, _, rfl, by decide, rfl⟩

abbrev exec (check : Host .default → Op → Bool) :
    List Op → Host .default → Option (Host .default) :=
  Transition.exec (Host.step Emission.nothing) check

/-- The host after a query, and at the end of operations that follow on it. -/
def exampleAnswer (check : Host .default → Op → Bool) (before : List Op) (query : Op)
    (after : List Op) : Option (Host .default × Host .default × Host .default) := do
  let s ← exec (fun _ _ => true) before exampleHost
  let t ← (s.step Emission.nothing query).toOption
  let u ← exec check after t
  return (s, t, u)

lemma exampleAnswer_eq_some {check : Host .default → Op → Bool} {ok : Host .default → Op → Prop}
    (hcheck : ∀ s o, check s o = true → ok s o) (P : Host .default → Host .default → Bool)
    (before : List Op) (query : Op) (after : List Op)
    (h : (exampleAnswer check before query after).any (fun r => P r.2.1 r.2.2) = true) :
    ∃ s t u : Host .default, s.Steps Emission.nothing query t ∧
      Run (Host.Steps Emission.nothing) ok t u ∧
      P t u = true := by
  obtain ⟨⟨s, t, u⟩, hanswer, hP⟩ := Option.any_eq_true _ _ |>.mp h
  obtain ⟨s', -, hanswer⟩ := Option.bind_eq_some_iff.mp hanswer
  obtain ⟨t', ht, hanswer⟩ := Option.bind_eq_some_iff.mp hanswer
  obtain ⟨u', hu, hanswer⟩ := Option.bind_eq_some_iff.mp hanswer
  cases hanswer
  refine ⟨s, t, u, ?_, .of_exec hcheck hu, hP⟩
  cases hstep : s.step Emission.nothing query with
  | error p =>
    rw [hstep] at ht
    cases ht
  | ok t' =>
    rw [hstep] at ht
    cases ht
    exact hstep

/-- A general query of MLD. -/
def exampleMldQuery : Op :=
  .mldv2 0 0 ⟨0xfe80 <<< 112 ||| 2, Ipv6.linkLocalAllNodes, .icmpv6, 28, 1⟩ 1000 0

/-- Both groups are reported. -/
theorem queries_answered_example :
    (∃ t u : Host .default, t.iface.multicast.hasMulticastGroup (.ipv4 0xe000000a) ∧
      u.reports 0xe000000a = t.reports 0xe000000a + 1) ∧
    ∃ t v : Host .default, t.iface.multicast.mldReportState = .toGeneralQuery 0 ∧
      Reported (0xff02 <<< 112 ||| 0xfb) t.mld v := by
  constructor
  · let check (s : Host .default) : Op → Bool
      | .egress now device => decide ((s.iface.ipv4Addr.isSome ∧
          s.announcements now + 2 ≤ tokens device) ∧ 28 ≤ s.iface.ipMtu ∧ ∀ n ∈ s.nextIndex,
            SparesAll IpAddress.asIpv4 n (fun addr => s.iface.groups.get addr = some .leaving)
              s.iface.groups.keys.length s.iface.groups.keys)
      | _ => false
    have hcheck (s : Host .default) (o : Op) (h : check s o = true) :
        s.Leaves 0xe000000a o ∧ s.Spared o := by
      cases o with
      | egress now device =>
        dsimp only [check] at h
        have hboth := of_decide_eq_true h
        exact hboth
      | _ => cases h
    obtain ⟨s, t, u, hstep, hrun, hP⟩ := exampleAnswer_eq_some hcheck
      (fun t u => t.iface.multicast.hasMulticastGroup (.ipv4 0xe000000a) ∧
        u.iface.multicast.igmpReportState = .inactive)
      exampleJoins (exampleQuery 0) [examplePoll 6, examplePoll 12]
      (by decide)
    obtain ⟨hg, hdone⟩ := of_decide_eq_true hP
    exact ⟨t, u, hg, (queries_answered Emission.nothing s t u u 0).1 _ _ _ hstep
      exampleQuery_isGeneralQuery hg hrun hdone⟩
  · let check (s : Host .default) : Op → Bool
      | .egress now device => decide (s.announcements now +
          (if (s.poll now device).igmpIsDue then 1 else 0) < tokens device ∧
            56 + 20 * recordCount (.toGeneralQuery 0) (s.poll now device) ≤ s.iface.ipMtu)
      | _ => false
    have hcheck (s : Host .default) (o : Op) (h : check s o = true) :
        Stays (.toGeneralQuery 0) (0xff02 <<< 112 ||| 0xfb) o ∧
          Served (.toGeneralQuery 0) s o := by
      cases o with
      | egress now device => exact ⟨trivial, fun _ _ _ _ => of_decide_eq_true h⟩
      | _ => cases h
    obtain ⟨s, t, u, hstep, hrun, hP⟩ := exampleAnswer_eq_some hcheck
      (fun t u => t.iface.multicast.mldReportState = .toGeneralQuery 0 ∧
        t.iface.groups.get (.ipv6 (0xff02 <<< 112 ||| 0xfb)) = some .joined ∧
        u.iface.multicast.mldReportState = .inactive)
      exampleJoins exampleMldQuery [examplePoll 1]
      (by decide +kernel)
    obtain ⟨hstate, hg, hdone⟩ := of_decide_eq_true hP
    obtain ⟨hwaits | hreported, -⟩ := (queries_answered Emission.nothing s t u u 0).2 _ _ hstate
      (.inr hg) hrun
    · rw [hdone] at hwaits
      cases hwaits
    · exact ⟨t, u, hstate, hreported⟩

/-- Of three groups the first one is reported and left, and the last one takes its place and is not
reported. A report for an MLD query is not sent if the device has no token when it is due. -/
theorem not_queries_answered :
    (¬ ∀ (s t u : Host .default) now g ipv4Repr ipPayload,
      s.Steps Emission.nothing (.igmp now ipv4Repr ipPayload) t →
      IsGeneralQuery ipv4Repr ipPayload → t.iface.multicast.hasMulticastGroup (.ipv4 g) →
      Run (Host.Steps Emission.nothing) (fun s o => s.Leaves g o) t u →
      u.iface.multicast.igmpReportState = .inactive → u.reports g = t.reports g + 1) ∧
    ¬ ∀ (t u : Host .default) q g, t.iface.multicast.mldReportState = q → Asks q g t →
      Run (Host.Steps Emission.nothing) (fun _ o => Stays q g o) t u →
      u.iface.multicast.mldReportState = q ∨ Reported g t.mld u := by
  constructor
  · intro hclaim
    let check (s : Host .default) : Op → Bool
      | .egress now device => decide (s.iface.ipv4Addr.isSome ∧
          s.announcements now + 2 ≤ tokens device)
      | .leave addr => addr ≠ .ipv4 0xe000000c
      | _ => false
    have hcheck (s : Host .default) (o : Op) (h : check s o = true) : s.Leaves 0xe000000c o := by
      cases o with
      | egress now device =>
        dsimp only [check] at h
        have hleaves := of_decide_eq_true h
        exact hleaves
      | leave addr =>
        dsimp only [check] at h
        have hne := of_decide_eq_true h
        exact hne
      | _ => cases h
    obtain ⟨s, t, u, hstep, hrun, hP⟩ := exampleAnswer_eq_some hcheck
      (fun t u => t.iface.multicast.hasMulticastGroup (.ipv4 0xe000000c) ∧
        u.iface.multicast.igmpReportState = .inactive ∧ u.reports 0xe000000c = 0)
      [.join (.ipv4 0xe000000a), .join (.ipv4 0xe000000b), .join (.ipv4 0xe000000c), examplePoll 0]
      (exampleQuery 0)
      [examplePoll 3, .leave (.ipv4 0xe000000a), examplePoll 6, examplePoll 9]
      (by decide +kernel)
    obtain ⟨hg, hdone, hzero⟩ := of_decide_eq_true hP
    have hone := hclaim s t u 0 0xe000000c _ _ hstep exampleQuery_isGeneralQuery hg hrun hdone
    omega
  · intro hclaim
    let check (_ : Host .default) : Op → Bool
      | .egress _ _ => true
      | _ => false
    have hcheck (s : Host .default) (o : Op) (h : check s o = true) :
        Stays (.toGeneralQuery 0) (0xff02 <<< 112 ||| 0xfb) o := by
      cases o with
      | egress => trivial
      | _ => cases h
    obtain ⟨s, t, u, hstep, hrun, hP⟩ := exampleAnswer_eq_some hcheck
      (fun t u => t.iface.multicast.mldReportState = .toGeneralQuery 0 ∧
        t.iface.groups.get (.ipv6 (0xff02 <<< 112 ||| 0xfb)) = some .joined ∧
        u.iface.multicast.mldReportState = .inactive ∧ u.mld.length = 0)
      exampleJoins exampleMldQuery [.egress 1 [false], examplePoll 2]
      (by decide)
    obtain ⟨hstate, hg, hdone, hlen⟩ := of_decide_eq_true hP
    obtain hwaits | ⟨msgs, hmsgs, m, hm, -⟩ := hclaim t u _ _ hstate (.inr hg) hrun
    · rw [hdone] at hwaits
      cases hwaits
    · rw [hmsgs, List.length_append] at hlen
      have hnil := List.length_eq_zero_iff.mp (Nat.eq_zero_of_add_eq_zero_left hlen)
      rw [hnil] at hm
      cases hm

end Reporting

end Smoltcp
