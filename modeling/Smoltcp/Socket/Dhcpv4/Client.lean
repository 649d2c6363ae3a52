import Smoltcp.Lib.Transition
import Smoltcp.Socket.Dhcpv4

/-!
# Runs of a DHCP client

What a DHCP socket does is followed together with the messages that it sent, the message that
granted the lease that it has, and the event that was returned last.
-/

namespace Smoltcp

namespace Dhcpv4

open Socket (Message)

/-! ### Leases -/

/-- The server that a client has chosen. -/
def ClientState.server : ClientState → Option ServerInfo
  | .discovering _ => none
  | .requesting state => some state.server
  | .renewing state => some state.config.server

/-- The time that a message grants, which the client may limit. -/
def leaseLimit (dhcpRepr : DhcpRepr) (maxLeaseDuration : Option Duration) : Duration :=
  let lease := (dhcpRepr.leaseDuration.map fun d => Duration.fromSecs (.ofNat d.toNat)).getD
    defaultLeaseDuration
  maxLeaseDuration.elim lease (min lease)

/-- The state of a client that was granted a lease. -/
def Lease.state (lease : Lease) : ClientState :=
  .renewing ⟨lease.config, lease.renewAt, lease.rebindAt, false, lease.expiresAt⟩

/-- A message grants a lease to a client that waits for one. -/
def Socket.Grants (s : Socket) (dhcpRepr : DhcpRepr) : Prop :=
  s.state.server.isSome ∧ dhcpRepr.messageType = .ack ∧
    (dhcpRepr.subnetMask.bind Ipv4.prefixLen).isSome ∧ Ipv4.isUnicast dhcpRepr.yourIp

instance (s : Socket) (dhcpRepr : DhcpRepr) : Decidable (s.Grants dhcpRepr) :=
  inferInstanceAs (Decidable (_ ∧ _))

/-- The times of a lease that is granted at a time. -/
structure Lease.Granted (now : Instant) (dhcpRepr : DhcpRepr) (maxLeaseDuration : Option Duration)
    (server : ServerInfo) (lease : Lease) : Prop where
  server_eq : lease.config.server = server
  times : ∃ renew rebind, renew ≤ rebind ∧ rebind ≤ leaseLimit dhcpRepr maxLeaseDuration ∧
    lease.renewAt = now.add renew ∧ lease.rebindAt = now.add rebind
  expiresAt : lease.expiresAt = now.add (leaseLimit dhcpRepr maxLeaseDuration)

/-- Seconds of 32 bits are not too many microseconds for 64 bits. -/
lemma toNat_fromSecs (d : BitVec 32) :
    (Duration.fromSecs (.ofNat d.toNat)).toNat = d.toNat * 1000000 := by
  have hd := d.isLt
  rw [Duration.fromSecs, UInt64.toNat_mul, UInt64.toNat_ofNat']
  change d.toNat % 2 ^ 64 * 1000000 % 2 ^ 64 = _
  omega

lemma leaseLimit_lt (dhcpRepr : DhcpRepr) (maxLeaseDuration : Option Duration) :
    (leaseLimit dhcpRepr maxLeaseDuration).toNat < 2 ^ 52 := by
  have hlease : ((dhcpRepr.leaseDuration.map fun d => Duration.fromSecs (.ofNat d.toNat)).getD
      defaultLeaseDuration).toNat < 2 ^ 52 := by
    cases dhcpRepr.leaseDuration with
    | none => decide
    | some d =>
      have hd := d.isLt
      rw [Option.map_some, Option.getD_some, toNat_fromSecs]
      omega
  unfold leaseLimit
  cases maxLeaseDuration with
  | none => exact hlease
  | some maxLease =>
    refine lt_of_le_of_lt (UInt64.le_iff_toNat_le.mp ?_) hlease
    exact Std.min_le_left

/-- The times that the options of a message set, and the defaults, are in order. -/
lemma renewAndRebind_ordered {lease : Duration} (hlease : lease.toNat < 2 ^ 52)
    (renew rebind : Option Duration) :
    (renewAndRebind lease renew rebind).1 ≤ (renewAndRebind lease renew rebind).2 ∧
      (renewAndRebind lease renew rebind).2 ≤ lease := by
  have hdefault : lease / 2 ≤ lease * 7 / 8 ∧ lease * 7 / 8 ≤ lease := by
    have hmul : lease.toNat * 7 % 2 ^ 64 = lease.toNat * 7 := Nat.mod_eq_of_lt (by omega)
    simp only [UInt64.le_iff_toNat_le, UInt64.toNat_div, UInt64.toNat_mul, UInt64.reduceToNat, hmul]
    constructor
    · rw [Nat.le_div_iff_mul_le (by decide)]
      omega
    · omega
  unfold renewAndRebind
  cases renew with
  | none =>
    cases rebind with
    | none => exact hdefault
    | some rebind =>
      dsimp only
      split_ifs with h
      · exact ⟨Std.min_le_right, UInt64.le_of_lt h⟩
      · exact hdefault
  | some renew =>
    cases rebind with
    | none =>
      dsimp only
      split_ifs with h
      · rw [UInt64.lt_iff_toNat_lt] at h
        have hsub : (lease - renew).toNat = lease.toNat - renew.toNat :=
          UInt64.toNat_sub_of_le _ _ (UInt64.le_iff_toNat_le.mpr h.le)
        have hmul : (lease.toNat - renew.toNat) * 3 % 2 ^ 64 = (lease.toNat - renew.toNat) * 3 :=
          Nat.mod_eq_of_lt (by omega)
        have hadd : (renew.toNat + (lease.toNat - renew.toNat) * 3 / 4) % 2 ^ 64 =
            renew.toNat + (lease.toNat - renew.toNat) * 3 / 4 := Nat.mod_eq_of_lt (by omega)
        simp only [UInt64.le_iff_toNat_le, UInt64.toNat_add, UInt64.toNat_div, UInt64.toNat_mul,
          hsub, UInt64.reduceToNat, hmul, hadd]
        omega
      · exact hdefault
    | some rebind =>
      dsimp only
      split_ifs with h
      · exact ⟨UInt64.le_of_lt h.1, UInt64.le_of_lt h.2⟩
      · exact hdefault

/-- An acknowledgement is read if its mask and its address are good. -/
lemma parseAck_eq_ok {now : Instant} {dhcpRepr : DhcpRepr} {maxLeaseDuration : Option Duration}
    {server : ServerInfo} {r : Option Lease}
    (h : parseAck now dhcpRepr maxLeaseDuration server = .ok r) :
    (r.isSome ↔ (dhcpRepr.subnetMask.bind Ipv4.prefixLen).isSome ∧
      Ipv4.isUnicast dhcpRepr.yourIp) ∧
      ∀ lease, r = some lease → lease.Granted now dhcpRepr maxLeaseDuration server := by
  unfold parseAck at h
  cases hmask : dhcpRepr.subnetMask.bind Ipv4.prefixLen with
  | none =>
    rw [hmask] at h
    cases h
    simp
  | some prefixLen =>
    rw [hmask] at h
    dsimp only at h
    split_ifs at h with hunicast
    · obtain ⟨address, -, h⟩ := Checked.bind_eq_ok.mp h
      cases h
      refine ⟨by simp [hunicast], ?_⟩
      rintro lease ⟨⟩
      have hordered := renewAndRebind_ordered (leaseLimit_lt dhcpRepr maxLeaseDuration)
        (dhcpRepr.renewDuration.map fun d => .fromSecs (.ofNat d.toNat))
        (dhcpRepr.rebindDuration.map fun d => .fromSecs (.ofNat d.toNat))
      exact ⟨rfl, ⟨_, _, hordered.1, hordered.2, rfl, rfl⟩, rfl⟩
    · cases h
      simp [hunicast]

lemma Socket.grants_of_ack {s : Socket} {server : ServerInfo} {dhcpRepr : DhcpRepr}
    (hserver : s.state.server = some server) (htype : dhcpRepr.messageType = .ack) :
    s.Grants dhcpRepr ↔ (dhcpRepr.subnetMask.bind Ipv4.prefixLen).isSome ∧
      Ipv4.isUnicast dhcpRepr.yourIp := by
  simp [Socket.Grants, hserver, htype]

lemma Socket.Grants.isAck {s : Socket} {dhcpRepr : DhcpRepr} (h : s.Grants dhcpRepr) :
    dhcpRepr.messageType = .ack := h.2.1

/-! ### What a message does -/

/-- The lease is news to the application. -/
def Socket.isNews (s : Socket) (lease : Lease) : Prop :=
  match s.state with
  | .renewing state => state.config ≠ lease.config ∨ s.receivePacketBuffer.isSome
  | _ => True

instance (s : Socket) (lease : Lease) : Decidable (s.isNews lease) := by
  unfold Socket.isNews
  cases s.state with
  | renewing state => exact inferInstanceAs (Decidable (_ ∨ _))
  | _ => exact instDecidableTrue

/-- What a message that was accepted does to the socket. -/
inductive Receives (now : Instant) (source : ServerInfo) (dhcpRepr : DhcpRepr) :
    Socket → Socket → Prop where
  | ignored (s : Socket) (hgrants : ¬ s.Grants dhcpRepr) : Receives now source dhcpRepr s s
  | offered (s : Socket) (retryAt : Instant) (hstate : s.state = .discovering retryAt)
      (htype : dhcpRepr.messageType = .offer) :
      Receives now source dhcpRepr s
        { s with state := .requesting ⟨now, 0, source, dhcpRepr.yourIp⟩ }
  | granted (s : Socket) (server : ServerInfo) (lease : Lease)
      (hserver : s.state.server = some server) (hgrants : s.Grants dhcpRepr)
      (hlease : lease.Granted now dhcpRepr s.maxLeaseDuration server) :
      Receives now source dhcpRepr s
        { s with
          state := lease.state
          configChanged := s.configChanged || decide (s.isNews lease) }
  | refused (s : Socket) (hserver : s.state.server.isSome) (htype : dhcpRepr.messageType = .nak)
      (hnaks : s.ignoreNaks = false) : Receives now source dhcpRepr s s.reset

/-- A message that was accepted: it is for this host, and has the transaction identifier of the last
message that was sent. -/
def Socket.accepted {cfg : IfaceConfig} (s : Socket) (iface : InterfaceInner cfg)
    (srcAddr : Ipv4.Address) (payload : List UInt8) : Option (ServerInfo × DhcpRepr) :=
  match DhcpRepr.parse payload with
  | .error _ => none
  | .ok dhcpRepr =>
    if iface.hardwareAddr.ethernetOrPanic = .ok dhcpRepr.clientHardwareAddress ∧
        dhcpRepr.transactionId = s.transactionId then
      dhcpRepr.serverIdentifier.map fun identifier => (⟨srcAddr, identifier⟩, dhcpRepr)
    else none

section Rules

variable {cfg : IfaceConfig} {iface : InterfaceInner cfg} {s s' : Socket} {ipRepr : Ipv4.Repr}
  {repr : UdpRepr} {payload : List UInt8} {now : Instant} {source server : ServerInfo}
  {dhcpRepr : DhcpRepr}

lemma accepted_eq_some {srcAddr : Ipv4.Address}
    (h : s.accepted iface srcAddr payload = some (source, dhcpRepr)) :
    source.address = srcAddr ∧ dhcpRepr.serverIdentifier = some source.identifier ∧
      dhcpRepr.transactionId = s.transactionId := by
  unfold Socket.accepted at h
  cases hparse : DhcpRepr.parse payload with
  | error e =>
    rw [hparse] at h
    cases h
  | ok parsed =>
    rw [hparse] at h
    dsimp only at h
    split_ifs at h with haccept
    · obtain ⟨identifier, hidentifier, h⟩ := Option.map_eq_some_iff.mp h
      cases h
      exact ⟨rfl, hidentifier, haccept.2⟩

/-- The lease that is read of an acknowledgement, if there is one. -/
lemma receives_of_ack (source : ServerInfo) {r : Option Lease}
    (hserver : s.state.server = some server)
    (htype : dhcpRepr.messageType = .ack)
    (hack : parseAck now dhcpRepr s.maxLeaseDuration server = .ok r) :
    (r = none → Receives now source dhcpRepr s s) ∧
      ∀ lease, r = some lease → Receives now source dhcpRepr s
        { s with
          state := lease.state
          configChanged := s.configChanged || decide (s.isNews lease) } := by
  obtain ⟨hsome, hlease⟩ := parseAck_eq_ok hack
  rw [← Socket.grants_of_ack hserver htype] at hsome
  constructor
  · rintro rfl
    exact .ignored s fun hgrants => Bool.noConfusion (hsome.mpr hgrants)
  · rintro lease rfl
    exact .granted s server lease hserver (hsome.mp rfl) (hlease lease rfl)

lemma receive_eq_ok (h : s.receive now source.address source.identifier dhcpRepr = .ok s') :
    Receives now source dhcpRepr s s' := by
  have hother (hserver : s.state.server = none ∨ dhcpRepr.messageType ≠ .ack) :
      Receives now source dhcpRepr s s := by
    refine .ignored s fun hgrants => ?_
    obtain hserver | htype := hserver
    · have := hgrants.1
      rw [hserver] at this
      cases this
    · exact htype hgrants.isAck
  unfold Socket.receive at h
  cases hstate : s.state with
  | discovering retryAt =>
    have hserver : s.state.server = none := by rw [hstate, ClientState.server]
    cases htype : dhcpRepr.messageType with
    | offer =>
      simp only [hstate, htype] at h
      split_ifs at h with hunicast
      · cases h
        exact .offered s retryAt hstate htype
      · cases h
        exact hother (.inl hserver)
    | _ =>
      simp only [hstate, htype] at h
      cases h
      exact hother (.inl hserver)
  | requesting state =>
    have hserver : s.state.server = some state.server := by rw [hstate, ClientState.server]
    cases htype : dhcpRepr.messageType with
    | ack =>
      simp only [hstate, htype] at h
      obtain ⟨r, hack, h⟩ := Checked.bind_eq_ok.mp h
      obtain ⟨hnone, hsome⟩ := receives_of_ack source hserver htype hack
      cases r with
      | none =>
        cases h
        exact hnone rfl
      | some lease =>
        have hgranted := hsome lease rfl
        have hnews : s.isNews lease := by
          rw [Socket.isNews, hstate]
          trivial
        rw [decide_eq_true hnews, Bool.or_true] at hgranted
        cases h
        exact hgranted
    | nak =>
      simp only [hstate, htype] at h
      cases hnaks : s.ignoreNaks with
      | true =>
        rw [hnaks] at h
        cases h
        exact hother (.inr (by rw [htype]; decide))
      | false =>
        rw [hnaks] at h
        cases h
        exact .refused s (by rw [hserver]; rfl) htype hnaks
    | _ =>
      simp only [hstate, htype] at h
      cases h
      exact hother (.inr (by rw [htype]; nofun))
  | renewing state =>
    have hserver : s.state.server = some state.config.server := by
      rw [hstate, ClientState.server]
    cases htype : dhcpRepr.messageType with
    | ack =>
      simp only [hstate, htype] at h
      obtain ⟨r, hack, h⟩ := Checked.bind_eq_ok.mp h
      obtain ⟨hnone, hsome⟩ := receives_of_ack source hserver htype hack
      cases r with
      | none =>
        cases h
        exact hnone rfl
      | some lease =>
        have hgranted := hsome lease rfl
        have hnews : s.isNews lease ↔
            (state.config ≠ lease.config ∨ s.receivePacketBuffer.isSome) := by
          rw [Socket.isNews, hstate]
        simp only [hnews] at hgranted
        cases h
        exact hgranted
    | nak =>
      simp only [hstate, htype] at h
      cases hnaks : s.ignoreNaks with
      | true =>
        rw [hnaks] at h
        cases h
        exact hother (.inr (by rw [htype]; decide))
      | false =>
        rw [hnaks] at h
        cases h
        exact .refused s (by rw [hserver]; rfl) htype hnaks
    | _ =>
      simp only [hstate, htype] at h
      cases h
      exact hother (.inr (by rw [htype]; nofun))

/-- What a datagram does: it is dropped, or kept and received. -/
lemma process_eq_ok (h : s.process iface ipRepr repr payload = .ok s') :
    (s.accepted iface ipRepr.srcAddr payload = none ∧ s' = s) ∨
      ∃ source dhcpRepr, s.accepted iface ipRepr.srcAddr payload = some (source, dhcpRepr) ∧
        Receives iface.now source dhcpRepr (s.keepPacket payload) s' := by
  obtain ⟨_, -, h⟩ := Checked.bind_eq_ok.mp h
  unfold Socket.accepted
  cases hparse : DhcpRepr.parse payload with
  | error e =>
    rw [hparse] at h
    cases e with
    | malformed =>
      cases h
      exact .inl ⟨rfl, rfl⟩
    | panic p => cases h
  | ok dhcpRepr =>
    rw [hparse] at h
    obtain ⟨ethernetAddr, hethernet, h⟩ := Checked.bind_eq_ok.mp h
    dsimp only
    split_ifs at h with haddr hid
    · cases h
      refine .inl ⟨if_neg ?_, rfl⟩
      rintro ⟨haddr', -⟩
      rw [hethernet] at haddr'
      exact haddr (Except.ok.inj haddr').symm
    · cases h
      exact .inl ⟨if_neg fun hnot => hid hnot.2, rfl⟩
    · rw [not_not] at haddr hid
      rw [if_pos ⟨by rw [hethernet, haddr], hid⟩]
      cases hidentifier : dhcpRepr.serverIdentifier with
      | none =>
        rw [hidentifier] at h
        cases h
        exact .inl ⟨rfl, rfl⟩
      | some identifier =>
        rw [hidentifier] at h
        exact .inr ⟨⟨ipRepr.srcAddr, identifier⟩, dhcpRepr, rfl, receive_eq_ok h⟩

end Rules

/-! ### What a dispatch does -/

/-- The lease in the moment in which it is to be renewed. -/
def RenewState.due (state : RenewState) (now : Instant) : RenewState :=
  { state with rebinding := state.rebinding || decide (state.rebindAt ≤ now) }

/-- A message to renew or to rebind the lease is to be sent. -/
structure RenewState.IsDue (state : RenewState) (now : Instant) : Prop where
  lt_expiresAt : now < state.expiresAt
  renewAt_le : state.renewAt ≤ now
  rebindAt_le : state.rebinding = true → state.rebindAt ≤ now

lemma sent_config (retryConfig : RetryConfig) (now : Instant) (state : RenewState) :
    (Socket.RenewState.sent retryConfig now state).config = state.config := by
  unfold Socket.RenewState.sent
  split_ifs <;> rfl

lemma sent_expiresAt (retryConfig : RetryConfig) (now : Instant) (state : RenewState) :
    (Socket.RenewState.sent retryConfig now state).expiresAt = state.expiresAt := by
  unfold Socket.RenewState.sent
  split_ifs <;> rfl

/-- What a dispatch does to the socket, and the message that was sent. -/
inductive Dispatches (now : Instant) (transactionId : BitVec 32) :
    Socket → Socket → Option Message → Prop where
  | waited (s : Socket) (hstate : ∀ state, s.state = .renewing state → now < state.expiresAt) :
      Dispatches now transactionId s s none
  | restarted (s : Socket) (state : RequestState) (hstate : s.state = .requesting state) :
      Dispatches now transactionId s s.reset none
  | expired (s : Socket) (state : RenewState) (hstate : s.state = .renewing state)
      (hexpired : state.expiresAt ≤ now) : Dispatches now transactionId s s.reset none
  | discovered (s : Socket) (retryAt : Instant) (message : Message)
      (hstate : s.state = .discovering retryAt) :
      Dispatches now transactionId s
        { s with
          state := .discovering (now.add s.retryConfig.discoverTimeout)
          transactionId } (some message)
  | requested (s : Socket) (state : RequestState) (retryAt : Instant) (message : Message)
      (hstate : s.state = .requesting state) (hretry : state.retry < s.retryConfig.requestRetries)
      (htype : message.dhcpRepr.messageType = .request)
      (hid : message.dhcpRepr.transactionId = transactionId)
      (hserver : message.dhcpRepr.serverIdentifier = some state.server.identifier) :
      Dispatches now transactionId s
        { s with
          state := .requesting { state with retryAt, retry := state.retry + 1 }
          transactionId } (some message)
  | refused (s : Socket) (state : RenewState) (hstate : s.state = .renewing state)
      (hdue : state.IsDue now) :
      Dispatches now transactionId s { s with state := .renewing (state.due now) } none
  | renewed (s : Socket) (state : RenewState) (message : Message)
      (hstate : s.state = .renewing state) (hdue : state.IsDue now)
      (hdst : (state.due now).rebinding = false →
        message.ipRepr.dstAddr = state.config.server.address)
      (hbroadcast : (state.due now).rebinding = true → message.ipRepr.dstAddr = 0xffffffff) :
      Dispatches now transactionId s
        { s with
          state := .renewing (Socket.RenewState.sent s.retryConfig now (state.due now))
          transactionId } (some message)

section Rules

variable {cfg : IfaceConfig} {iface : InterfaceInner cfg} {s s' : Socket}
  {transactionId : BitVec 32} {emit : Message → Bool} {message : Option Message}

lemma dispatch_eq_ok (h : s.dispatch iface transactionId emit = .ok (s', message)) :
    Dispatches iface.now transactionId s s' (message.filter emit) := by
  obtain ⟨ethernetAddr, -, h⟩ := Checked.bind_eq_ok.mp h
  obtain ⟨size, -, h⟩ := Checked.bind_eq_ok.mp h
  obtain ⟨maxSize, -, h⟩ := Checked.bind_eq_ok.mp h
  cases hstate : s.state with
  | discovering retryAt =>
    simp only [hstate] at h
    split_ifs at h with hretry hemit
    · cases h
      exact .waited s fun state hrenewing => by rw [hstate] at hrenewing; cases hrenewing
    · cases h
      rw [Option.filter_some, if_pos hemit]
      exact .discovered s retryAt _ hstate
    · cases h
      rw [Option.filter_some, if_neg hemit]
      exact .waited s fun state hrenewing => by rw [hstate] at hrenewing; cases hrenewing
  | requesting state =>
    simp only [hstate] at h
    split_ifs at h with hretry hretries hemit
    · cases h
      exact .waited s fun state hrenewing => by rw [hstate] at hrenewing; cases hrenewing
    · cases h
      exact .restarted s state hstate
    · cases h
      rw [Option.filter_some, if_pos hemit]
      exact .requested s state _ _ hstate (UInt16.not_le.mp hretries) rfl rfl rfl
    · cases h
      rw [Option.filter_some, if_neg hemit]
      exact .waited s fun state hrenewing => by rw [hstate] at hrenewing; cases hrenewing
  | renewing state =>
    simp only [hstate] at h
    by_cases hexpired : state.expiresAt ≤ iface.now
    · rw [if_pos hexpired] at h
      cases h
      exact .expired s state hstate hexpired
    · rw [if_neg hexpired] at h
      by_cases hearly : iface.now < state.renewAt ∨
          state.rebinding = true ∧ iface.now < state.rebindAt
      · rw [if_pos hearly] at h
        cases h
        refine .waited s fun state' hrenewing => ?_
        rw [hstate] at hrenewing
        cases hrenewing
        exact Int64.not_le.mp hexpired
      · rw [if_neg hearly] at h
        have hdue : state.IsDue iface.now := ⟨Int64.not_le.mp hexpired,
          Int64.not_lt.mp fun hlt => hearly (.inl hlt),
          fun hrebinding => Int64.not_lt.mp fun hlt => hearly (.inr ⟨hrebinding, hlt⟩)⟩
        split_ifs at h with hrebinding hemit hemit
        · cases h
          rw [Option.filter_some, if_pos hemit]
          refine .renewed s state _ hstate hdue (fun hnot => ?_) fun _ => rfl
          exact absurd (hrebinding.symm.trans hnot) (by decide)
        · cases h
          rw [Option.filter_some, if_neg hemit]
          exact .refused s state hstate hdue
        · cases h
          rw [Option.filter_some, if_pos hemit]
          exact .renewed s state _ hstate hdue (fun _ => rfl) fun hyes => absurd hyes hrebinding
        · cases h
          rw [Option.filter_some, if_neg hemit]
          exact .refused s state hstate hdue

end Rules

end Dhcpv4

end Smoltcp
