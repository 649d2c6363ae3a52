import Smoltcp.Socket.Dhcpv4.Client

/-!
# Leases, servers and events over runs of a DHCP client

Runs start with a new socket. Datagrams, dispatches, resets, polls and settings come in any order
and at any times. The times of a lease stay in order while a lease is not rebound again within its
last moments, the server of a lease is the one that granted it while only that server acknowledges,
and the events that are returned always match the state.
-/

namespace Smoltcp

namespace Dhcpv4

open Socket (Message)
open Transition

/-! ### Clients -/

/-- The acknowledgement that granted a lease. -/
structure Grant where
  now : Instant
  source : ServerInfo
  /-- The duration that the server granted, as far as the client wanted it. -/
  limit : Duration
  deriving DecidableEq, Repr

/-- A DHCP socket, what it sent, the acknowledgement that was accepted last, and the event that was
returned last. -/
structure Client where
  socket : Socket
  sent : List Message
  grant : Option Grant
  event : Option Event

inductive Setting where
  | retryConfig (config : RetryConfig)
  | outgoingOptions (options : List DhcpOption)
  | receivePacketBuffer (buffer : List UInt8)
  | parameterRequestList (list : List UInt8)
  | maxLeaseDuration (maxLeaseDuration : Option Duration)
  | ignoreNaks (ignoreNaks : Bool)
  | ports (serverPort clientPort : UInt16)

def Socket.set (s : Socket) : Setting → Socket
  | .retryConfig config => s.setRetryConfig config
  | .outgoingOptions options => s.setOutgoingOptions options
  | .receivePacketBuffer buffer => s.setReceivePacketBuffer buffer
  | .parameterRequestList list => s.setParameterRequestList list
  | .maxLeaseDuration maxLeaseDuration => s.setMaxLeaseDuration maxLeaseDuration
  | .ignoreNaks ignoreNaks => s.setIgnoreNaks ignoreNaks
  | .ports serverPort clientPort => s.setPorts serverPort clientPort

inductive Op (cfg : IfaceConfig) where
  | process (iface : InterfaceInner cfg) (ipRepr : Ipv4.Repr) (repr : UdpRepr)
      (payload : List UInt8)
  | dispatch (iface : InterfaceInner cfg) (transactionId : BitVec 32) (emit : Message → Bool)
  | reset
  | poll
  | set (setting : Setting)

variable {cfg : IfaceConfig}

/-- What a datagram grants. -/
def Socket.granted (s : Socket) (iface : InterfaceInner cfg) (srcAddr : Ipv4.Address)
    (payload : List UInt8) : Option Grant :=
  (s.accepted iface srcAddr payload).bind fun (source, dhcpRepr) =>
    if s.Grants dhcpRepr then
      some ⟨iface.now, source, leaseLimit dhcpRepr s.maxLeaseDuration⟩
    else none

/-- The lease of a client that has one. -/
def ClientState.lease : ClientState → Option RenewState
  | .renewing state => some state
  | _ => none

/-- What a client requests that requests an address. -/
def ClientState.request : ClientState → Option RequestState
  | .requesting state => some state
  | _ => none

/-- The event that tells of a state. -/
def ClientState.event : ClientState → Event
  | .renewing state => .configured state.config none
  | _ => .deconfigured

namespace Client

def new : Client := ⟨.new, [], none, none⟩

variable (c : Client)

def step : Op cfg → Checked Client
  | .process iface ipRepr repr payload => do
    let socket ← c.socket.process iface ipRepr repr payload
    return { c with socket, grant := (c.socket.granted iface ipRepr.srcAddr payload).or c.grant }
  | .dispatch iface transactionId emit => do
    let (socket, message) ← c.socket.dispatch iface transactionId emit
    return { c with socket, sent := c.sent ++ (message.filter emit).toList }
  | .reset => .ok { c with socket := c.socket.reset }
  | .poll => .ok { c with socket := c.socket.poll.1, event := c.socket.poll.2.or c.event }
  | .set setting => .ok { c with socket := c.socket.set setting }

abbrev Steps (c : Client) (o : Op cfg) (c' : Client) : Prop := c.step o = .ok c'

/-- The client after operations that all pass a check. -/
abbrev exec (check : Client → Op cfg → Bool) : List (Op cfg) → Client → Option Client :=
  Transition.exec step check

end Client

section Rules

variable {c c' c₀ : Client} {o : Op cfg} {iface : InterfaceInner cfg} {ipRepr : Ipv4.Repr}
  {repr : UdpRepr} {payload : List UInt8} {transactionId : BitVec 32} {emit : Message → Bool}

lemma Client.run_of_exec {check : Client → Op cfg → Bool} {ok : Client → Op cfg → Prop}
    (hcheck : ∀ c o, check c o = true → ok c o) {os : List (Op cfg)}
    (h : Client.exec check os c = some c') : Run Client.Steps ok c c' :=
  .of_exec hcheck h

/-- A datagram that is not accepted does nothing. -/
lemma Client.steps_process (h : c.Steps (.process iface ipRepr repr payload) c') :
    (c.socket.accepted iface ipRepr.srcAddr payload = none ∧ c' = c) ∨
      ∃ source dhcpRepr,
        c.socket.accepted iface ipRepr.srcAddr payload = some (source, dhcpRepr) ∧
        Receives iface.now source dhcpRepr (c.socket.keepPacket payload) c'.socket ∧
        c'.sent = c.sent ∧ c'.event = c.event ∧
        c'.grant = if c.socket.Grants dhcpRepr then
          some ⟨iface.now, source, leaseLimit dhcpRepr c.socket.maxLeaseDuration⟩
        else c.grant := by
  obtain ⟨socket, hsocket, h⟩ := Checked.bind_eq_ok.mp h
  cases h
  obtain ⟨hnone, rfl⟩ | ⟨source, dhcpRepr, hsome, hreceives⟩ := process_eq_ok hsocket
  · left
    refine ⟨hnone, ?_⟩
    rw [Socket.granted, hnone]
    rfl
  · right
    refine ⟨source, dhcpRepr, hsome, hreceives, rfl, rfl, ?_⟩
    dsimp only
    rw [Socket.granted, hsome, Option.bind_some]
    dsimp only
    split_ifs <;> rfl

lemma Client.steps_dispatch (h : c.Steps (.dispatch iface transactionId emit) c') :
    ∃ message, Dispatches iface.now transactionId c.socket c'.socket message ∧
      (∀ m ∈ message, emit m) ∧ c'.sent = c.sent ++ message.toList ∧ c'.grant = c.grant ∧
      c'.event = c.event := by
  obtain ⟨⟨socket, message⟩, hsocket, h⟩ := Checked.bind_eq_ok.mp h
  cases h
  refine ⟨message.filter emit, dispatch_eq_ok hsocket, ?_, rfl, rfl, rfl⟩
  intro m hm
  exact (Option.mem_filter_iff.mp hm).2

lemma Socket.keepPacket_grants (s : Socket) (payload : List UInt8) (dhcpRepr : DhcpRepr) :
    (s.keepPacket payload).Grants dhcpRepr ↔ s.Grants dhcpRepr := Iff.rfl

lemma Socket.set_state (s : Socket) (setting : Setting) : (s.set setting).state = s.state := by
  cases setting <;> rfl

lemma Socket.poll_state (s : Socket) : s.poll.1.state = s.state := by
  unfold Socket.poll
  split_ifs <;> rfl

@[simp] lemma Socket.reset_lease (s : Socket) : s.reset.state.lease = none := rfl

end Rules

/-! ### An example -/

/-- An interface at a number of seconds. -/
def exampleIface (secs : Int64) : InterfaceInner .default :=
  { InterfaceInner.new 1514 {} (.ethernet 0x020000000001) 0 1 1 with now := secs * 1000000 }

/-- A message from 10.0.0.`server` for the address 10.0.0.9, with a lease of 100 s. -/
def exampleMessage (messageType server transactionId : UInt8) : List UInt8 :=
  [2, 1, 6, 0, 0, 0, 0, transactionId] ++ List.replicate 8 0 ++ [10, 0, 0, 9] ++
    List.replicate 8 0 ++ [2, 0, 0, 0, 0, 1] ++ List.replicate 202 0 ++ [0x63, 0x82, 0x53, 0x63] ++
    [53, 1, messageType, 54, 4, 10, 0, 0, server, 1, 4, 255, 255, 255, 0, 51, 4, 0, 0, 0, 100, 255]

def exampleProcess (secs : Int64) (messageType server transactionId : UInt8) : Op .default :=
  .process (exampleIface secs) ⟨.ofNat 32 (0x0a000000 + server.toNat), 0xffffffff, .udp, 270, 64⟩
    ⟨67, 68⟩ (exampleMessage messageType server transactionId)

def exampleDispatch (secs : Int64) (transactionId : BitVec 32) : Op .default :=
  .dispatch (exampleIface secs) transactionId fun _ => true

/-- An address is offered, requested and granted. -/
def exampleRun : List (Op .default) :=
  [exampleDispatch 0 1, exampleProcess 0 2 1 1, exampleDispatch 0 2, exampleProcess 0 5 1 2]

/-! ### Events -/

/-- A change of the configuration is marked, unless the event that tells of it stays the same. -/
structure KeepsEvent (s s' : Socket) : Prop where
  buffer : s'.receivePacketBuffer = s.receivePacketBuffer
  event_eq : s'.configChanged = false → s.configChanged = false ∧ s'.state.event = s.state.event

/-- The operation does not give the socket a receive packet buffer. -/
def Op.IsBare : Op cfg → Prop
  | .set (.receivePacketBuffer _) => False
  | _ => True

/-- The event that was returned last tells of the state, if there is no new one to be returned. -/
structure Client.Faithful (c : Client) : Prop where
  buffer : c.socket.receivePacketBuffer = none
  event_eq : c.socket.configChanged = false → c.event = some c.socket.state.event

section Events

variable {c c' : Client} {s s' : Socket} {o : Op cfg} {now : Instant} {source : ServerInfo}
  {dhcpRepr : DhcpRepr} {transactionId : BitVec 32} {message : Option Message}

lemma keepPacket_of_none (h : s.receivePacketBuffer = none) (payload : List UInt8) :
    s.keepPacket payload = s := by
  unfold Socket.keepPacket
  rw [h, Option.map_none, ← h]

lemma keepsEvent_reset (s : Socket) : KeepsEvent s s.reset := by
  refine ⟨rfl, fun hchanged => ?_⟩
  unfold Socket.reset at hchanged ⊢
  cases hstate : s.state with
  | renewing state =>
    rw [hstate] at hchanged
    cases hchanged
  | _ =>
    rw [hstate] at hchanged
    exact ⟨hchanged, rfl⟩

lemma Receives.keepsEvent (h : Receives now source dhcpRepr s s') : KeepsEvent s s' := by
  cases h with
  | ignored => exact ⟨rfl, fun hchanged => ⟨hchanged, rfl⟩⟩
  | offered retryAt hstate =>
    refine ⟨rfl, fun hchanged => ⟨hchanged, ?_⟩⟩
    rw [hstate]
    rfl
  | granted server lease hserver =>
    refine ⟨rfl, fun hchanged => ?_⟩
    obtain ⟨hchanged, hnews⟩ := Bool.or_eq_false_iff.mp hchanged
    refine ⟨hchanged, ?_⟩
    have hnews := of_decide_eq_false hnews
    unfold Socket.isNews at hnews
    cases hstate : s.state with
    | renewing state =>
      -- A lease that is no news has the configuration that the client has.
      rw [hstate] at hnews
      obtain ⟨hconfig, -⟩ := not_or.mp hnews
      rw [not_ne_iff] at hconfig
      change Event.configured lease.config none = .configured state.config none
      rw [hconfig]
    | _ =>
      rw [hstate] at hnews
      exact absurd trivial hnews
  | refused => exact keepsEvent_reset s

lemma Dispatches.keepsEvent (h : Dispatches now transactionId s s' message) : KeepsEvent s s' := by
  cases h with
  | waited => exact ⟨rfl, fun hchanged => ⟨hchanged, rfl⟩⟩
  | restarted => exact keepsEvent_reset s
  | expired => exact keepsEvent_reset s
  | discovered retryAt message hstate | requested state retryAt message hstate
  | refused state hstate =>
    refine ⟨rfl, fun hchanged => ⟨hchanged, ?_⟩⟩
    rw [hstate]
    rfl
  | renewed state message hstate =>
    refine ⟨rfl, fun hchanged => ⟨hchanged, ?_⟩⟩
    rw [hstate, ClientState.event, ClientState.event, sent_config]
    rfl

lemma Dispatches.lt_expiresAt (h : Dispatches now transactionId s s' message) {state : RenewState}
    (hstate : s'.state = .renewing state) : now < state.expiresAt := by
  cases h with
  | waited hwaited => exact hwaited state hstate
  | restarted | expired | discovered | requested => cases hstate
  | refused state' hstate' hdue =>
    cases hstate
    exact hdue.lt_expiresAt
  | renewed state' message hstate' hdue =>
    rw [← ClientState.renewing.inj hstate, sent_expiresAt]
    exact hdue.lt_expiresAt

lemma Client.Faithful.of_keepsEvent (h : c.Faithful) (hkeeps : KeepsEvent c.socket c'.socket)
    (hevent : c'.event = c.event) : c'.Faithful := by
  refine ⟨hkeeps.buffer.trans h.buffer, fun hchanged => ?_⟩
  obtain ⟨hchanged, heq⟩ := hkeeps.event_eq hchanged
  rw [hevent, heq]
  exact h.event_eq hchanged

lemma Client.Faithful.poll (h : c.Faithful) :
    Client.Faithful { c with socket := c.socket.poll.1, event := c.socket.poll.2.or c.event } := by
  unfold Socket.poll
  cases hchanged : c.socket.configChanged with
  | false => exact ⟨h.buffer, fun _ => h.event_eq hchanged⟩
  | true =>
    refine ⟨h.buffer, fun _ => ?_⟩
    dsimp only
    rw [h.buffer]
    cases c.socket.state <;> rfl

lemma Client.Faithful.step (h : c.Faithful) (ho : o.IsBare) (hstep : c.Steps o c') :
    c'.Faithful := by
  cases o with
  | process iface ipRepr repr payload =>
    obtain ⟨-, rfl⟩ | ⟨source, dhcpRepr, -, hreceives, -, hevent, -⟩ :=
      Client.steps_process hstep
    · exact h
    · rw [keepPacket_of_none h.buffer] at hreceives
      exact h.of_keepsEvent hreceives.keepsEvent hevent
  | dispatch iface transactionId emit =>
    obtain ⟨message, hdispatches, -, -, -, hevent⟩ := Client.steps_dispatch hstep
    exact h.of_keepsEvent hdispatches.keepsEvent hevent
  | reset =>
    cases hstep
    exact h.of_keepsEvent (keepsEvent_reset _) rfl
  | poll =>
    cases hstep
    exact h.poll
  | set setting =>
    cases hstep
    cases setting with
    | receivePacketBuffer buffer => exact ho.elim
    | _ => exact ⟨h.buffer, h.event_eq⟩

/-- When a poll returns nothing, the event that was returned last matches the state, and no lease
outlives a dispatch at the time at which it expires. -/
theorem event_eq_of_poll_eq_none
    (hrun : Run (@Client.Steps cfg) (fun _ o => o.IsBare) Client.new c) :
    (c.socket.poll.2 = none → c.event = some c.socket.state.event) ∧
      ∀ (iface : InterfaceInner cfg) transactionId emit c',
        c.Steps (.dispatch iface transactionId emit) c' →
        ∀ state ∈ c'.socket.state.lease, iface.now < state.expiresAt := by
  have hfaithful : c.Faithful :=
    hrun.invariant (fun _ _ _ h ho hstep => h.step ho hstep) ⟨rfl, nofun⟩
  constructor
  · intro hnone
    refine hfaithful.event_eq ?_
    unfold Socket.poll at hnone
    split_ifs at hnone with hchanged
    · exact Bool.not_eq_true _ ▸ hchanged
  · intro iface transactionId emit c' hstep state hlease
    obtain ⟨message, hdispatches, -⟩ := Client.steps_dispatch hstep
    cases hstate : c'.socket.state with
    | renewing state' =>
      rw [hstate] at hlease
      cases hlease
      exact hdispatches.lt_expiresAt hstate
    | _ =>
      rw [hstate] at hlease
      cases hlease

instance (o : Op cfg) : Decidable o.IsBare := by
  cases o with
  | set setting =>
    cases setting with
    | receivePacketBuffer => exact instDecidableFalse
    | _ => exact instDecidableTrue
  | _ => exact instDecidableTrue

/-- A lease was granted, and the application was told. -/
theorem event_eq_of_poll_eq_none_example : ∃ c : Client,
    Run (@Client.Steps .default) (fun _ o => o.IsBare) Client.new c ∧
      c.socket.state.lease.isSome ∧ c.event = some c.socket.state.event := by
  obtain ⟨c, hexec, hc⟩ : ∃ c, Client.exec (fun _ o => decide o.IsBare) (exampleRun ++ [.poll])
      Client.new = some c ∧ (c.socket.state.lease.isSome && !c.socket.configChanged) = true :=
    Option.any_eq_true _ _ |>.mp (by decide +kernel)
  obtain ⟨hlease, hchanged⟩ := Bool.and_eq_true_iff.mp hc
  have hrun := Client.run_of_exec (fun _ _ => of_decide_eq_true) hexec
  refine ⟨c, hrun, hlease, (event_eq_of_poll_eq_none hrun).1 ?_⟩
  rw [Socket.poll, if_pos (by simpa using hchanged)]

end Events

/-! ### Times -/

/-- The times of a lease are in order, and it ends when the server and the client said. -/
def Client.Ordered (c : Client) : Prop :=
  ∀ state ∈ c.socket.state.lease, state.renewAt ≤ state.rebindAt ∧
    state.rebindAt ≤ state.expiresAt ∧
    ∃ grant, c.grant = some grant ∧
      state.expiresAt.toInt ≤ grant.now.toInt + grant.limit.toNat

/-- A lease that is to be rebound lasts for at least the shortest time after which it would be
rebound again. -/
def Client.Lasts (c : Client) (now : Instant) : Prop :=
  ∀ state ∈ c.socket.state.lease, state.rebindAt ≤ now → now < state.expiresAt →
    now.toInt +
      (min c.socket.retryConfig.minRenewTimeout c.socket.retryConfig.maxRenewTimeout).toNat ≤
        state.expiresAt.toInt

/-- The clock can tell the end of every lease that is granted, and a lease that is rebound lasts. -/
def Client.Timely (c : Client) : Op cfg → Prop
  | .process iface ipRepr _ payload =>
    ∀ r ∈ c.socket.accepted iface ipRepr.srcAddr payload, c.socket.Grants r.2 →
      iface.now.toInt + (leaseLimit r.2 c.socket.maxLeaseDuration).toNat < 2 ^ 63
  | .dispatch iface _ emit => (∃ message, emit message) → c.Lasts iface.now
  | _ => True

/-- The times of a lease, beside the time at which it was granted. -/
structure RenewState.Timed (state : RenewState) (grant : Grant) : Prop where
  le_renewAt : grant.now ≤ state.renewAt
  renewAt_le : state.renewAt ≤ state.rebindAt
  rebindAt_le : state.rebindAt ≤ state.expiresAt
  expiresAt_eq : state.expiresAt.toInt = grant.now.toInt + grant.limit.toNat
  limit_lt : grant.limit.toNat < 2 ^ 52

/-- The invariant of runs in which the times stay in order. -/
def Client.Timed (c : Client) : Prop :=
  ∀ state ∈ c.socket.state.lease, ∃ grant, c.grant = some grant ∧ state.Timed grant

section Times

variable {c c' : Client} {s s' : Socket} {o : Op cfg} {now : Instant} {source : ServerInfo}
  {dhcpRepr : DhcpRepr} {transactionId : BitVec 32} {message : Option Message}
  {state : RenewState} {grant : Grant}

/-- The distance to a later instant that is not too far away. -/
lemma Instant.toNat_since {t u : Instant} (htu : u ≤ t) (h : t.toInt - u.toInt < 2 ^ 63) :
    ((t.since u).toNat : ℤ) = t.toInt - u.toInt := by
  rw [Int64.le_iff_toInt_le] at htu
  have hsub : (t - u).toInt = t.toInt - u.toInt := by
    rw [Int64.toInt_sub, Int.bmod_eq_of_le_mul_two]
    · push_cast; omega
    · push_cast; omega
  rw [Smoltcp.Instant.since, UInt64.toNat_ofNat', hsub]
  omega

/-- The times of a lease at first. -/
lemma Lease.Granted.timed {lease : Lease} {server : ServerInfo}
    {maxLeaseDuration : Option Duration} (h : lease.Granted now dhcpRepr maxLeaseDuration server)
    (hclock : now.toInt + (leaseLimit dhcpRepr maxLeaseDuration).toNat < 2 ^ 63) :
    ∀ state ∈ lease.state.lease,
      state.Timed ⟨now, source, leaseLimit dhcpRepr maxLeaseDuration⟩ := by
  rintro state ⟨⟩
  obtain ⟨renew, rebind, hrenew, hrebind, hrenewAt, hrebindAt⟩ := h.times
  rw [UInt64.le_iff_toNat_le] at hrenew hrebind
  have hlimit := leaseLimit_lt dhcpRepr maxLeaseDuration
  have hrenewAt' := @Instant.toInt_add now renew (by omega)
  have hrebindAt' := @Instant.toInt_add now rebind (by omega)
  have hexpiresAt' := Instant.toInt_add hclock
  rw [← hrenewAt] at hrenewAt'
  rw [← hrebindAt] at hrebindAt'
  rw [← h.expiresAt] at hexpiresAt'
  exact {
    le_renewAt := by rw [Int64.le_iff_toInt_le]; dsimp only; omega
    renewAt_le := by rw [Int64.le_iff_toInt_le]; dsimp only; omega
    rebindAt_le := by rw [Int64.le_iff_toInt_le]; dsimp only; omega
    expiresAt_eq := hexpiresAt'
    limit_lt := hlimit }

lemma RenewState.Timed.due (h : state.Timed grant) (now : Instant) : (state.due now).Timed grant :=
  ⟨h.le_renewAt, h.renewAt_le, h.rebindAt_le, h.expiresAt_eq, h.limit_lt⟩

/-- A lease that was renewed or rebound keeps its times in order, unless it is to be rebound after
its end. -/
lemma RenewState.Timed.sent {retryConfig : RetryConfig} (h : state.Timed grant)
    (hdue : state.IsDue now)
    (hlasts : state.rebindAt ≤ now →
      now.toInt + (min retryConfig.minRenewTimeout retryConfig.maxRenewTimeout).toNat ≤
        state.expiresAt.toInt) :
    (Socket.RenewState.sent retryConfig now (state.due now)).Timed grant := by
  have hexpires := grant.now.le_toInt
  have hle := h.le_renewAt
  have hrenew := h.renewAt_le
  have hrebind := h.rebindAt_le
  have hnow := hdue.lt_expiresAt
  have hdueAt := hdue.renewAt_le
  have heq := h.expiresAt_eq
  have hlimit := h.limit_lt
  have hmax := state.expiresAt.toInt_lt
  rw [Int64.le_iff_toInt_le] at hle hrenew hrebind hdueAt
  rw [Int64.lt_iff_toInt_lt] at hnow
  unfold Socket.RenewState.sent
  split_ifs with hrebinding
  · have hnowRebind : state.rebindAt ≤ now := by
      obtain hrebinding | hrebinding := Bool.or_eq_true_iff.mp hrebinding
      · exact hdue.rebindAt_le hrebinding
      · exact of_decide_eq_true hrebinding
    have hsince := Instant.toNat_since (Int64.le_iff_toInt_le.mpr hnow.le) (by omega)
    have hmin := hlasts hnowRebind
    rw [Duration.toNat_min] at hmin
    change RenewState.Timed { state.due now with
      rebindAt := now.add (min (max retryConfig.minRenewTimeout (state.expiresAt.since now / 2))
        retryConfig.maxRenewTimeout) } grant
    have hwait := Duration.toNat_min
      (max retryConfig.minRenewTimeout (state.expiresAt.since now / 2)) retryConfig.maxRenewTimeout
    have hhalf : (2 : Duration).toNat = 2 := rfl
    rw [Duration.toNat_max, UInt64.toNat_div, hhalf] at hwait
    generalize min (max retryConfig.minRenewTimeout (state.expiresAt.since now / 2))
      retryConfig.maxRenewTimeout = wait at hwait ⊢
    have hnext := @Instant.toInt_add now wait (by omega)
    refine ⟨h.le_renewAt, ?_, ?_, h.expiresAt_eq, h.limit_lt⟩
    · rw [Int64.le_iff_toInt_le]
      change state.renewAt.toInt ≤ (now.add wait).toInt
      omega
    · rw [Int64.le_iff_toInt_le]
      change (now.add wait).toInt ≤ state.expiresAt.toInt
      omega
  · have hnowRebind : now.toInt < state.rebindAt.toInt := by
      rw [← Int64.lt_iff_toInt_lt, ← Int64.not_le]
      exact fun hle => hrebinding (Bool.or_eq_true_iff.mpr (.inr (decide_eq_true hle)))
    have hsince := Instant.toNat_since (Int64.le_iff_toInt_le.mpr hnowRebind.le) (by omega)
    change RenewState.Timed { state.due now with
      renewAt := now.add (min (min (max retryConfig.minRenewTimeout (state.rebindAt.since now / 2))
        (state.rebindAt.since now)) retryConfig.maxRenewTimeout) } grant
    have hwait := (Duration.toNat_min
      (min (max retryConfig.minRenewTimeout (state.rebindAt.since now / 2))
        (state.rebindAt.since now)) retryConfig.maxRenewTimeout).trans
      (congrArg (min · _) (Duration.toNat_min _ _))
    generalize min (min (max retryConfig.minRenewTimeout (state.rebindAt.since now / 2))
      (state.rebindAt.since now)) retryConfig.maxRenewTimeout = wait at hwait ⊢
    have hnext := @Instant.toInt_add now wait (by omega)
    refine ⟨?_, ?_, h.rebindAt_le, h.expiresAt_eq, h.limit_lt⟩
    · rw [Int64.le_iff_toInt_le]
      change grant.now.toInt ≤ (now.add wait).toInt
      omega
    · rw [Int64.le_iff_toInt_le]
      change (now.add wait).toInt ≤ state.rebindAt.toInt
      omega

lemma Client.Timed.of_lease_eq (h : c.Timed) (hlease : c'.socket.state.lease = c.socket.state.lease)
    (hgrant : c'.grant = c.grant) : c'.Timed := by
  intro state hstate
  rw [hlease] at hstate
  rw [hgrant]
  exact h state hstate

lemma Client.Timed.of_none (hlease : c'.socket.state.lease = none) : c'.Timed := by
  intro state hstate
  rw [hlease] at hstate
  cases hstate

lemma Client.Timed.process {iface : InterfaceInner cfg} {ipRepr : Ipv4.Repr} {repr : UdpRepr}
    {payload : List UInt8} (h : c.Timed) (ho : c.Timely (.process iface ipRepr repr payload))
    (hstep : c.Steps (.process iface ipRepr repr payload) c') : c'.Timed := by
  obtain ⟨-, rfl⟩ | ⟨source, dhcpRepr, haccepted, hreceives, -, -, hgrant⟩ :=
    Client.steps_process hstep
  · exact h
  · generalize hsocket : c'.socket = s' at hreceives
    cases hreceives with
    | ignored hgrants =>
      rw [Socket.keepPacket_grants] at hgrants
      exact h.of_lease_eq (by rw [hsocket]; rfl) (hgrant.trans (if_neg hgrants))
    | offered | refused => exact Client.Timed.of_none (by rw [hsocket]; rfl)
    | granted server lease hserver hgrants hlease =>
      rw [Socket.keepPacket_grants] at hgrants
      rw [Client.Timely] at ho
      have hclock := ho (source, dhcpRepr) haccepted hgrants
      intro state hstate
      rw [hsocket] at hstate
      refine ⟨_, hgrant.trans (if_pos hgrants), ?_⟩
      exact hlease.timed hclock state hstate

lemma Client.Timed.dispatch {iface : InterfaceInner cfg} {emit : Message → Bool} (h : c.Timed)
    (ho : c.Timely (.dispatch iface transactionId emit))
    (hstep : c.Steps (.dispatch iface transactionId emit) c') : c'.Timed := by
  obtain ⟨message, hdispatches, hemit, -, hgrant, -⟩ := Client.steps_dispatch hstep
  generalize hsocket : c'.socket = s' at hdispatches
  cases hdispatches with
  | waited => exact h.of_lease_eq (by rw [hsocket]) hgrant
  | restarted | expired | discovered | requested =>
    exact Client.Timed.of_none (by rw [hsocket]; rfl)
  | refused state hstate =>
    obtain ⟨grant, hsome, htimed⟩ := h state (by rw [hstate]; rfl)
    intro state' hstate'
    rw [hsocket] at hstate'
    cases hstate'
    exact ⟨grant, hgrant.trans hsome, htimed.due _⟩
  | renewed state message hstate hdue =>
    have hlease : state ∈ c.socket.state.lease := by rw [hstate]; rfl
    obtain ⟨grant, hsome, htimed⟩ := h state hlease
    intro state' hstate'
    rw [hsocket] at hstate'
    cases hstate'
    refine ⟨grant, hgrant.trans hsome, htimed.sent hdue fun hrebind => ?_⟩
    exact ho ⟨message, hemit message rfl⟩ state hlease hrebind hdue.lt_expiresAt

lemma Client.Timed.step (h : c.Timed) (ho : c.Timely o) (hstep : c.Steps o c') : c'.Timed := by
  cases o with
  | process => exact h.process ho hstep
  | dispatch => exact h.dispatch ho hstep
  | reset =>
    cases hstep
    exact .of_none rfl
  | poll =>
    cases hstep
    exact h.of_lease_eq (congrArg ClientState.lease (Socket.poll_state _)) rfl
  | set setting =>
    cases hstep
    exact h.of_lease_eq (congrArg ClientState.lease (Socket.set_state _ _)) rfl

/-- In a run in which no lease is rebound in its last moments, the times of every lease are in
order. -/
theorem ordered_of_run (hrun : Run (@Client.Steps cfg) Client.Timely Client.new c) :
    c.Ordered := by
  have htimed : c.Timed := hrun.invariant (fun _ _ _ h ho hstep => h.step ho hstep) (.of_none rfl)
  intro state hstate
  obtain ⟨grant, hgrant, h⟩ := htimed state hstate
  exact ⟨h.renewAt_le, h.rebindAt_le, grant, hgrant, h.expiresAt_eq.le⟩

/-- A check for `Timely`: nothing is sent when a lease is to be rebound. -/
def Client.onTime (c : Client) : Op .default → Bool
  | .process iface ipRepr _ payload =>
    decide (∀ r ∈ c.socket.accepted iface ipRepr.srcAddr payload, c.socket.Grants r.2 →
      iface.now.toInt + (leaseLimit r.2 c.socket.maxLeaseDuration).toNat < 2 ^ 63)
  | .dispatch iface _ _ => c.socket.state.lease.all fun state => iface.now < state.rebindAt
  | _ => true

lemma Client.timely_of_onTime (c : Client) (o : Op .default) (h : c.onTime o = true) :
    c.Timely o := by
  cases o with
  | process =>
    dsimp only [onTime] at h
    have := of_decide_eq_true h
    exact this
  | dispatch iface transactionId emit =>
    intro _ state hlease hrebind
    have hearly := of_decide_eq_true (Option.all_eq_true _ _ |>.mp h state hlease)
    exact absurd hrebind (Int64.not_le.mpr hearly)
  | _ => trivial

/-- A lease of 100 s that is renewed after 50 s. -/
theorem ordered_of_run_example : ∃ c : Client,
    Run (@Client.Steps .default) Client.Timely Client.new c ∧ c.socket.state.lease.isSome ∧
      c.Ordered := by
  obtain ⟨c, hexec, hc⟩ : ∃ c, Client.exec Client.onTime (exampleRun ++ [exampleDispatch 50 3])
    Client.new =
      some c ∧ c.socket.state.lease.isSome = true :=
    Option.any_eq_true _ _ |>.mp (by decide +kernel)
  have hrun := Client.run_of_exec Client.timely_of_onTime hexec
  exact ⟨c, hrun, hc, ordered_of_run hrun⟩

/-- The same lease is rebound after 90 s, and would be rebound again after 150 s. -/
theorem not_ordered_of_run :
    ¬ ∀ c : Client, Run (@Client.Steps .default) (fun _ _ => True) Client.new c → c.Ordered := by
  intro h
  obtain ⟨c, hexec, hc⟩ : ∃ c, Client.exec (fun _ _ => true) (exampleRun ++ [exampleDispatch 90 3])
      Client.new = some c ∧
        c.socket.state.lease.any (fun state => state.expiresAt < state.rebindAt) = true :=
    Option.any_eq_true _ _ |>.mp (by decide +kernel)
  obtain ⟨state, hlease, hlate⟩ := Option.any_eq_true _ _ |>.mp hc
  have hordered := h c (Client.run_of_exec (fun _ _ _ => trivial) hexec) state hlease
  exact absurd hordered.2.1 (Int64.not_le.mpr (of_decide_eq_true hlate))

end Times

/-! ### Servers -/

/-- A request was sent with the transaction identifier and to the server of a message. -/
def Client.Requested (c : Client) (dhcpRepr : DhcpRepr) : Prop :=
  ∃ message ∈ c.sent, message.dhcpRepr.messageType = .request ∧
    message.dhcpRepr.transactionId = dhcpRepr.transactionId ∧
    message.dhcpRepr.serverIdentifier = dhcpRepr.serverIdentifier

/-- The server of a lease is the one that granted it. -/
def Client.KnowsServer (c : Client) : Prop :=
  ∀ state ∈ c.socket.state.lease, ∃ grant, c.grant = some grant ∧
    state.config.server = grant.source

/-- What a client that requested an address does is done for an answer to the request, and a lease
is renewed by the server that granted it. -/
def Client.Answered (c c' : Client) : Op cfg → Prop
  | .process iface ipRepr _ payload =>
    ∀ r ∈ c.socket.accepted iface ipRepr.srcAddr payload, c.socket.state.request.isSome →
      r.2.messageType = .ack ∨ r.2.messageType = .nak →
      c'.socket.state ≠ c.socket.state → c.Requested r.2
  | .dispatch _ _ _ =>
    ∀ state ∈ c.socket.state.lease, ∀ message, c'.sent = c.sent ++ [message] →
      message.ipRepr.dstAddr ≠ 0xffffffff →
      ∃ grant, c.grant = some grant ∧ message.ipRepr.dstAddr = grant.source.address
  | _ => True

/-- The server that a client has chosen is the only one that answers it, and it does not answer
before the client requested an address. -/
def Client.Loyal (c : Client) : Op cfg → Prop
  | .process iface ipRepr _ payload =>
    ∀ r ∈ c.socket.accepted iface ipRepr.srcAddr payload,
      (∀ state ∈ c.socket.state.request,
        c.socket.Grants r.2 ∨ r.2.messageType = .nak ∧ c.socket.ignoreNaks = false →
        state.retry ≠ 0 ∧ r.1.identifier = state.server.identifier) ∧
      (c.socket.Grants r.2 → c.socket.state.server = some r.1)
  | _ => True

/-- The invariant of runs in which a client is answered by the server that it has chosen. -/
structure Client.Bound (c : Client) : Prop where
  knowsServer : c.KnowsServer
  requested : ∀ state, c.socket.state = .requesting state → state.retry ≠ 0 →
    ∃ message ∈ c.sent, message.dhcpRepr.messageType = .request ∧
      message.dhcpRepr.transactionId = c.socket.transactionId ∧
      message.dhcpRepr.serverIdentifier = some state.server.identifier

section Servers

variable {c c' : Client} {o : Op cfg} {now : Instant} {transactionId : BitVec 32}
  {iface : InterfaceInner cfg} {ipRepr : Ipv4.Repr} {repr : UdpRepr} {payload : List UInt8}
  {emit : Message → Bool}

lemma ClientState.server_of_lease {clientState : ClientState} {state : RenewState}
    (h : state ∈ clientState.lease) : clientState = .renewing state := by
  cases clientState with
  | renewing state' =>
    cases h
    rfl
  | _ => cases h

lemma ClientState.requesting_of_request {clientState : ClientState} {state : RequestState}
    (h : clientState.request = some state) : clientState = .requesting state := by
  cases clientState with
  | requesting state' =>
    cases h
    rfl
  | _ => cases h

lemma Client.Bound.congr (h : c.Bound) (hstate : c'.socket.state = c.socket.state)
    (hid : c'.socket.transactionId = c.socket.transactionId) (hsent : c'.sent = c.sent)
    (hgrant : c'.grant = c.grant) : c'.Bound := by
  constructor
  · intro state hlease
    rw [hstate] at hlease
    rw [hgrant]
    exact h.knowsServer state hlease
  · rw [hstate, hid, hsent]
    exact h.requested

lemma Client.bound_of_discovering (retryAt : Instant)
    (hstate : c.socket.state = .discovering retryAt) : c.Bound := by
  constructor
  · intro state hlease
    rw [hstate] at hlease
    cases hlease
  · intro state hrequesting
    rw [hstate] at hrequesting
    cases hrequesting

lemma Client.bound_of_renewing (state : RenewState) {grant : Grant}
    (hstate : c.socket.state = .renewing state) (hgrant : c.grant = some grant)
    (hserver : state.config.server = grant.source) : c.Bound := by
  constructor
  · intro state' hlease
    rw [hstate] at hlease
    cases hlease
    exact ⟨grant, hgrant, hserver⟩
  · intro state' hrequesting
    rw [hstate] at hrequesting
    cases hrequesting

lemma Client.Bound.process (h : c.Bound) (ho : c.Loyal (.process iface ipRepr repr payload))
    (hstep : c.Steps (.process iface ipRepr repr payload) c') : c'.Bound := by
  obtain ⟨-, rfl⟩ | ⟨source, dhcpRepr, haccepted, hreceives, hsent, -, hgrant⟩ :=
    Client.steps_process hstep
  · exact h
  · rw [Client.Loyal] at ho
    obtain ⟨-, hserver⟩ := ho (source, dhcpRepr) haccepted
    generalize hsocket : c'.socket = s' at hreceives
    cases hreceives with
    | ignored hgrants =>
      rw [Socket.keepPacket_grants] at hgrants
      exact h.congr (by rw [hsocket]; rfl) (by rw [hsocket]; rfl) hsent
        (hgrant.trans (if_neg hgrants))
    | offered retryAt hstate =>
      constructor
      · intro state hlease
        rw [hsocket] at hlease
        cases hlease
      · intro state hstate' hretry
        rw [hsocket] at hstate'
        cases hstate'
        exact absurd rfl hretry
    | granted server lease hserver' hgrants hlease =>
      rw [Socket.keepPacket_grants] at hgrants
      refine Client.bound_of_renewing _ (by rw [hsocket]; rfl) (hgrant.trans (if_pos hgrants)) ?_
      change lease.config.server = source
      rw [hlease.server_eq]
      exact Option.some.inj (hserver'.symm.trans (hserver hgrants))
    | refused => exact Client.bound_of_discovering _ (by rw [hsocket]; rfl)

lemma Client.Bound.dispatch (h : c.Bound)
    (hstep : c.Steps (.dispatch iface transactionId emit) c') : c'.Bound := by
  obtain ⟨message, hdispatches, -, hsent, hgrant, -⟩ := Client.steps_dispatch hstep
  generalize hsocket : c'.socket = s' at hdispatches
  cases hdispatches with
  | waited =>
    exact h.congr (by rw [hsocket]) (by rw [hsocket]) (hsent.trans (List.append_nil _)) hgrant
  | restarted | expired => exact Client.bound_of_discovering _ (by rw [hsocket]; rfl)
  | discovered => exact Client.bound_of_discovering _ (by rw [hsocket])
  | requested state retryAt message hstate hretry htype hid hserver =>
    constructor
    · intro state' hlease
      rw [hsocket] at hlease
      cases hlease
    · intro state' hstate' _
      rw [hsocket] at hstate' ⊢
      cases hstate'
      refine ⟨message, ?_, htype, hid, hserver⟩
      rw [hsent]
      exact List.mem_append_right _ (List.mem_singleton_self _)
  | refused state hstate =>
    obtain ⟨grant, hsome, hserver⟩ := h.knowsServer state (by rw [hstate]; rfl)
    exact Client.bound_of_renewing (state.due iface.now) (by rw [hsocket]) (hgrant.trans hsome)
      hserver
  | renewed state message hstate =>
    obtain ⟨grant, hsome, hserver⟩ := h.knowsServer state (by rw [hstate]; rfl)
    refine Client.bound_of_renewing _ (by rw [hsocket]) (hgrant.trans hsome) ?_
    rw [sent_config]
    exact hserver

lemma Client.Bound.step (h : c.Bound) (ho : c.Loyal o) (hstep : c.Steps o c') : c'.Bound := by
  cases o with
  | process => exact h.process ho hstep
  | dispatch => exact h.dispatch hstep
  | reset =>
    cases hstep
    exact Client.bound_of_discovering _ rfl
  | poll =>
    cases hstep
    refine h.congr (Socket.poll_state _) ?_ rfl rfl
    unfold Socket.poll
    split_ifs <;> rfl
  | set setting =>
    cases hstep
    exact h.congr (Socket.set_state _ _) (by cases setting <;> rfl) rfl rfl

lemma Client.Bound.answered (h : c.Bound) (ho : c.Loyal o) (hstep : c.Steps o c') :
    c.Answered c' o := by
  cases o with
  | process iface ipRepr repr payload =>
    rw [Client.Loyal] at ho
    rintro ⟨source, dhcpRepr⟩ haccepted hrequest - hchanged
    obtain ⟨state, hrequest⟩ := Option.isSome_iff_exists.mp hrequest
    have hstate := ClientState.requesting_of_request hrequest
    obtain ⟨hidentifier, -⟩ := ho (source, dhcpRepr) haccepted
    obtain ⟨-, hserver, hid⟩ := accepted_eq_some haccepted
    -- The request that the message answers.
    have hrequested (hheeds : c.socket.Grants dhcpRepr ∨
        dhcpRepr.messageType = .nak ∧ c.socket.ignoreNaks = false) : c.Requested dhcpRepr := by
      obtain ⟨hretry, heq⟩ := hidentifier state hrequest hheeds
      obtain ⟨message, hmem, htype, hid', hserver'⟩ := h.requested state hstate hretry
      refine ⟨message, hmem, htype, hid'.trans hid.symm, hserver'.trans ?_⟩
      rw [hserver, ← heq]
    obtain ⟨hnone, -⟩ | ⟨source', dhcpRepr', haccepted', hreceives, -⟩ :=
      Client.steps_process hstep
    · rw [hnone] at haccepted
      cases haccepted
    · rw [haccepted] at haccepted'
      cases haccepted'
      generalize hsocket : c'.socket = s' at hreceives
      cases hreceives with
      | ignored => exact absurd (by rw [hsocket]; rfl) hchanged
      | offered retryAt hdiscovering =>
        change c.socket.state = _ at hdiscovering
        rw [hstate] at hdiscovering
        cases hdiscovering
      | granted server lease hserver' hgrants => exact hrequested (.inl hgrants)
      | refused hserver' htype hnaks => exact hrequested (.inr ⟨htype, hnaks⟩)
  | dispatch iface transactionId emit =>
    intro state hlease message hsent hunicast
    obtain ⟨message', hdispatches, -, hsent', -⟩ := Client.steps_dispatch hstep
    have hstate := ClientState.server_of_lease hlease
    obtain ⟨grant, hsome, hserver⟩ := h.knowsServer state hlease
    refine ⟨grant, hsome, ?_⟩
    rw [← hserver]
    have hmessage : message'.toList = [message] := List.append_cancel_left (hsent'.symm.trans hsent)
    generalize c'.socket = s' at hdispatches
    cases hdispatches with
    | waited | restarted | expired | refused => cases hmessage
    | discovered retryAt message' hdiscovering =>
      rw [hstate] at hdiscovering
      cases hdiscovering
    | requested state' retryAt message' hrequesting =>
      rw [hstate] at hrequesting
      cases hrequesting
    | renewed state' message' hstate' hdue hdst hbroadcast =>
      rw [hstate] at hstate'
      cases hstate'
      cases hmessage
      cases hrebinding : (state.due iface.now).rebinding with
      | false => exact hdst hrebinding
      | true => exact absurd (hbroadcast hrebinding) hunicast
  | reset | poll | set => trivial

end Servers

end Dhcpv4

end Smoltcp
