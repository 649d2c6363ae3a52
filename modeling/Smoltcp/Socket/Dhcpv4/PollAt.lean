import Smoltcp.Socket.Dhcpv4.Runs

/-!
# When a DHCP client is to be polled

A dispatch does something exactly from the time on that `pollAt` tells, and it does not do it twice
at one time. Both rest on the order of the times of a lease, which holds as long as the sums of
times and timeouts do not overflow.
-/

namespace Smoltcp

namespace Dhcpv4

open Socket (Message)
open Transition

/-! ### Timeouts -/

/-- The time until a lease is renewed or rebound again, when it is due. -/
def RenewState.wait (retryConfig : RetryConfig) (now : Instant) (state : RenewState) : Duration :=
  if state.rebinding then
    min (max retryConfig.minRenewTimeout (state.expiresAt.since now / 2))
    retryConfig.maxRenewTimeout
  else
    min (min (max retryConfig.minRenewTimeout (state.rebindAt.since now / 2))
      (state.rebindAt.since now)) retryConfig.maxRenewTimeout

/-- The time until the next message, as a number that does not overflow. -/
def Socket.wait (s : Socket) (now : Instant) : ℕ :=
  match s.state with
  | .discovering _ => s.retryConfig.discoverTimeout.toNat
  | .requesting state => s.retryConfig.initialRequestTimeout.toNat * 2 ^ (state.retry.toNat / 2)
  | .renewing state => ((state.due now).wait s.retryConfig now).toNat

/-- Timeouts of some length. -/
structure RetryConfig.NonZero (config : RetryConfig) : Prop where
  discoverTimeout : config.discoverTimeout ≠ 0
  initialRequestTimeout : config.initialRequestTimeout ≠ 0
  minRenewTimeout : config.minRenewTimeout ≠ 0
  maxRenewTimeout : config.maxRenewTimeout ≠ 0

/-- The clock can tell the end of the leases that are granted, and the end of the timeouts after a
message that is due. -/
def Client.Representable {cfg : IfaceConfig} (c : Client) : Op cfg → Prop
  | .process iface ipRepr _ payload =>
    ∀ r ∈ c.socket.accepted iface ipRepr.srcAddr payload, c.socket.Grants r.2 →
      iface.now.toInt + (leaseLimit r.2 c.socket.maxLeaseDuration).toNat < 2 ^ 63
  | .dispatch iface _ _ =>
    c.socket.pollAt ≤ iface.now → iface.now.toInt + c.socket.wait iface.now < 2 ^ 63
  | _ => True

section Timeouts

variable {now : Instant} {state : RenewState} {retryConfig : RetryConfig}

lemma toNat_pos {d : Duration} (h : d ≠ 0) : 0 < d.toNat :=
  Nat.pos_of_ne_zero fun hzero => h (UInt64.toNat_inj.mp hzero)

/-- Doubling a duration, unless it overflows. -/
lemma toNat_shiftLeft {d : Duration} {retry : UInt16}
    (h : d.toNat * 2 ^ (retry.toNat / 2) < 2 ^ 64) :
    (d <<< (retry / 2).toUInt64).toNat = d.toNat * 2 ^ (retry.toNat / 2) := by
  have hhalf : (retry / 2).toUInt64.toNat = retry.toNat / 2 := by
    rw [UInt16.toNat_toUInt64, UInt16.toNat_div]
    rfl
  rw [UInt64.toNat_shiftLeft, hhalf]
  by_cases hd : d.toNat = 0
  · rw [hd]
    simp
  · have hlt : retry.toNat / 2 < 64 := by
      by_contra hge
      have hpow : 2 ^ 64 ≤ 2 ^ (retry.toNat / 2) := Nat.pow_le_pow_right (by decide) (by omega)
      have hmul := Nat.le_mul_of_pos_left (2 ^ (retry.toNat / 2)) (Nat.pos_of_ne_zero hd)
      omega
    rw [Nat.mod_eq_of_lt hlt, Nat.shiftLeft_eq, Nat.mod_eq_of_lt h]

lemma sent_eq (retryConfig : RetryConfig) (now : Instant) (state : RenewState) :
    Socket.RenewState.sent retryConfig now state =
      if state.rebinding then { state with rebindAt := now.add (state.wait retryConfig now) }
      else { state with renewAt := now.add (state.wait retryConfig now) } := by
  unfold Socket.RenewState.sent RenewState.wait
  split_ifs <;> rfl

/-! ### The order of the times -/

/-- A lease is renewed before it is rebound, and rebound for the first time before it expires. -/
structure RenewState.Sorted (state : RenewState) : Prop where
  renewAt_le : state.renewAt ≤ state.rebindAt
  rebindAt_le : state.rebinding = false → state.rebindAt ≤ state.expiresAt
  expiresAt_lt : state.expiresAt.toInt < state.renewAt.toInt + 2 ^ 52

/-- A lease is due exactly if it expired, or is to be renewed or rebound. -/
lemma RenewState.Sorted.pollAt_le_iff (h : state.Sorted) :
    min (if state.rebinding then state.rebindAt else min state.renewAt state.rebindAt)
        state.expiresAt ≤ now ↔ state.expiresAt ≤ now ∨
      ¬ (now < state.renewAt ∨ state.rebinding = true ∧ now < state.rebindAt) := by
  have hle := h.renewAt_le
  simp only [Int64.le_iff_toInt_le, Int64.lt_iff_toInt_lt, Instant.toInt_min] at hle ⊢
  cases state.rebinding with
  | true =>
    rw [if_pos rfl]
    simp only [true_and]
    omega
  | false =>
    rw [if_neg Bool.false_ne_true, Instant.toInt_min]
    simp only [Bool.false_eq_true, false_and, or_false]
    omega

lemma RenewState.Sorted.due (h : state.Sorted) (now : Instant) : (state.due now).Sorted := by
  refine ⟨h.renewAt_le, fun hrebinding => h.rebindAt_le ?_, h.expiresAt_lt⟩
  exact (Bool.or_eq_false_iff.mp hrebinding).1

/-- The times of a lease that is due, as numbers. -/
lemma RenewState.Sorted.due_times (h : state.Sorted) (hdue : state.IsDue now) :
    now.toInt < state.expiresAt.toInt ∧ state.renewAt.toInt ≤ now.toInt ∧
      state.expiresAt.toInt - now.toInt < 2 ^ 52 ∧
      ((state.due now).rebinding = false →
        now.toInt < state.rebindAt.toInt ∧ state.rebindAt.toInt ≤ state.expiresAt.toInt) := by
  have hexpires := Int64.lt_iff_toInt_lt.mp hdue.lt_expiresAt
  have hrenew := Int64.le_iff_toInt_le.mp hdue.renewAt_le
  have hlt := h.expiresAt_lt
  refine ⟨hexpires, hrenew, by omega, fun hrebinding => ?_⟩
  obtain ⟨hnot, hearly⟩ := Bool.or_eq_false_iff.mp hrebinding
  have hrebind := Int64.not_le.mp (of_decide_eq_false hearly)
  exact ⟨Int64.lt_iff_toInt_lt.mp hrebind, Int64.le_iff_toInt_le.mp (h.rebindAt_le hnot)⟩

/-- The next message of a lease that is not rebound yet is sent when it is to be rebound, at the
latest. -/
lemma RenewState.Sorted.wait_le (h : state.Sorted) (retryConfig : RetryConfig)
    (hdue : state.IsDue now)
    (hrebinding : (state.due now).rebinding = false) :
    (((state.due now).wait retryConfig now).toNat : ℤ) ≤ state.rebindAt.toInt - now.toInt := by
  obtain ⟨-, -, hlt, hrebind⟩ := h.due_times hdue
  obtain ⟨hnow, hle⟩ := hrebind hrebinding
  have hsince : ((state.rebindAt.since now).toNat : ℤ) = state.rebindAt.toInt - now.toInt :=
    Instant.toNat_since (Int64.le_iff_toInt_le.mpr hnow.le) (by omega)
  rw [RenewState.wait, if_neg (by rw [hrebinding]; exact Bool.false_ne_true),
    Duration.toNat_min, Duration.toNat_min]
  change ((min (min _ (state.rebindAt.since now).toNat) _ : ℕ) : ℤ) ≤ _
  omega

/-- Timeouts of some length make a client wait. -/
lemma RenewState.Sorted.wait_pos (h : state.Sorted) (hdue : state.IsDue now)
    (hconfig : retryConfig.NonZero) : 0 < ((state.due now).wait retryConfig now).toNat := by
  obtain ⟨-, -, hlt, hrebind⟩ := h.due_times hdue
  have hmin := toNat_pos hconfig.minRenewTimeout
  have hmax := toNat_pos hconfig.maxRenewTimeout
  unfold RenewState.wait
  split_ifs with hrebinding
  · rw [Duration.toNat_min, Duration.toNat_max]
    omega
  · obtain ⟨hnow, hle⟩ := hrebind (Bool.not_eq_true _ ▸ hrebinding)
    have hsince : ((state.rebindAt.since now).toNat : ℤ) = state.rebindAt.toInt - now.toInt :=
      Instant.toNat_since (Int64.le_iff_toInt_le.mpr hnow.le) (by omega)
    rw [Duration.toNat_min, Duration.toNat_min, Duration.toNat_max]
    change 0 < min (min (max _ _) (state.rebindAt.since now).toNat) _
    omega

lemma RenewState.Sorted.sent (h : state.Sorted) (hdue : state.IsDue now)
    (hfits : now.toInt + ((state.due now).wait retryConfig now).toNat < 2 ^ 63) :
    (Socket.RenewState.sent retryConfig now (state.due now)).Sorted := by
  obtain ⟨hexpires, hrenew, hlt, hrebind⟩ := h.due_times hdue
  have hsum := Instant.toInt_add hfits
  have hlast := h.expiresAt_lt
  rw [sent_eq]
  split_ifs with hrebinding
  · refine ⟨?_, fun hnot => absurd (hrebinding.symm.trans hnot) (by decide), h.expiresAt_lt⟩
    rw [Int64.le_iff_toInt_le, hsum]
    change state.renewAt.toInt ≤ _
    omega
  · have hrebinding := Bool.not_eq_true _ ▸ hrebinding
    have hwait := h.wait_le retryConfig hdue hrebinding
    obtain ⟨hnow, hle⟩ := hrebind hrebinding
    refine ⟨?_, fun _ => Int64.le_iff_toInt_le.mpr hle, ?_⟩
    · rw [Int64.le_iff_toInt_le, hsum]
      change _ ≤ state.rebindAt.toInt
      omega
    · change state.expiresAt.toInt < (now.add _).toInt + _
      rw [hsum]
      omega

end Timeouts

/-! ### Dispatches -/

/-- The state after a message was sent. -/
def Socket.next (s : Socket) (now : Instant) : ClientState :=
  match s.state with
  | .discovering _ => .discovering (now.add s.retryConfig.discoverTimeout)
  | .requesting state => .requesting { state with
      retryAt := now.add (s.retryConfig.initialRequestTimeout <<< (state.retry / 2).toUInt64)
      retry := state.retry + 1 }
  | .renewing state => .renewing (Socket.RenewState.sent s.retryConfig now (state.due now))

/-- The discovery is restarted. -/
def Socket.Restarts (s s' : Socket) : Prop :=
  s'.state = .discovering 0 ∧ ∀ retryAt, s.state ≠ .discovering retryAt

section Dispatch

variable {cfg : IfaceConfig} {iface : InterfaceInner cfg} {s s' : Socket} {now : Instant}
  {transactionId : BitVec 32} {emit : Message → Bool} {message : Option Message}

/-- A dispatch does nothing before the time that `pollAt` tells, and then it restarts the discovery
or has a message to send. -/
lemma dispatch_cases (hsorted : ∀ state ∈ s.state.lease, state.Sorted)
    (h : s.dispatch iface transactionId emit = .ok (s', message)) :
    (iface.now < s.pollAt ∧ s' = s ∧ message = none) ∨
      s.pollAt ≤ iface.now ∧ (s.Restarts s' ∧ message = none ∨
        ∃ m, message = some m ∧ (emit m → s'.state = s.next iface.now) ∧
          ∀ state ∈ s.state.lease, state.IsDue iface.now) := by
  obtain ⟨ethernetAddr, -, h⟩ := Checked.bind_eq_ok.mp h
  obtain ⟨size, -, h⟩ := Checked.bind_eq_ok.mp h
  obtain ⟨maxSize, -, h⟩ := Checked.bind_eq_ok.mp h
  unfold Socket.pollAt Socket.next Socket.Restarts
  cases hstate : s.state with
  | discovering retryAt =>
    simp only [hstate] at h
    dsimp only
    by_cases hearly : iface.now < retryAt
    · rw [if_pos hearly] at h
      cases h
      exact .inl ⟨hearly, rfl, rfl⟩
    · rw [if_neg hearly] at h
      cases h
      refine .inr ⟨Int64.not_lt.mp hearly, .inr ⟨_, rfl, fun hemit => ?_, nofun⟩⟩
      rw [if_pos hemit]
  | requesting state =>
    simp only [hstate] at h
    dsimp only
    by_cases hearly : iface.now < state.retryAt
    · rw [if_pos hearly] at h
      cases h
      exact .inl ⟨hearly, rfl, rfl⟩
    · rw [if_neg hearly] at h
      refine .inr ⟨Int64.not_lt.mp hearly, ?_⟩
      split_ifs at h with hretries hemit
      · cases h
        exact .inl ⟨⟨rfl, nofun⟩, rfl⟩
      · cases h
        exact .inr ⟨_, rfl, fun _ => rfl, nofun⟩
      · cases h
        exact .inr ⟨_, rfl, fun hemit' => absurd hemit' hemit, nofun⟩
  | renewing state =>
    have hsorted : state.Sorted := hsorted state (by rw [hstate]; rfl)
    simp only [hstate] at h
    dsimp only
    by_cases hexpired : state.expiresAt ≤ iface.now
    · rw [if_pos hexpired] at h
      cases h
      exact .inr ⟨hsorted.pollAt_le_iff.mpr (.inl hexpired), .inl ⟨⟨rfl, nofun⟩, rfl⟩⟩
    · rw [if_neg hexpired] at h
      by_cases hearly : iface.now < state.renewAt ∨
          state.rebinding = true ∧ iface.now < state.rebindAt
      · rw [if_pos hearly] at h
        cases h
        refine .inl ⟨Int64.not_le.mp fun hle => ?_, rfl, rfl⟩
        exact (hsorted.pollAt_le_iff.mp hle).elim hexpired fun hnot => hnot hearly
      · rw [if_neg hearly] at h
        have hdue : state.IsDue iface.now := ⟨Int64.not_le.mp hexpired,
          Int64.not_lt.mp fun hlt => hearly (.inl hlt),
          fun hrebinding => Int64.not_lt.mp fun hlt => hearly (.inr ⟨hrebinding, hlt⟩)⟩
        cases h
        refine .inr ⟨hsorted.pollAt_le_iff.mpr (.inr hearly),
          .inr ⟨_, rfl, fun hemit => ?_, fun state' hstate' => ?_⟩⟩
        · rw [if_pos hemit]
          rfl
        · cases hstate'
          exact hdue

/-- After a message was sent, the next one is to be sent later. -/
lemma lt_pollAt_of_next (hsorted : ∀ state ∈ s.state.lease, state.Sorted)
    (hdue : ∀ state ∈ s.state.lease, state.IsDue now) (hconfig : s.retryConfig.NonZero)
    (hfits : now.toInt + s.wait now < 2 ^ 63) (hnext : s'.state = s.next now) :
    now < s'.pollAt := by
  have hlow := now.le_toInt
  unfold Socket.wait at hfits
  unfold Socket.next at hnext
  unfold Socket.pollAt
  rw [hnext, Int64.lt_iff_toInt_lt]
  cases hstate : s.state with
  | discovering retryAt =>
    rw [hstate] at hfits
    dsimp only at hfits ⊢
    have hpos := toNat_pos hconfig.discoverTimeout
    rw [Instant.toInt_add hfits]
    omega
  | requesting state =>
    rw [hstate] at hfits
    dsimp only at hfits ⊢
    have hpos := Nat.mul_pos (toNat_pos hconfig.initialRequestTimeout)
      (Nat.two_pow_pos (state.retry.toNat / 2))
    have hshift := @toNat_shiftLeft s.retryConfig.initialRequestTimeout state.retry (by omega)
    rw [Instant.toInt_add (by rwa [hshift]), hshift]
    omega
  | renewing state =>
    have hsorted : state.Sorted := hsorted state (by rw [hstate]; rfl)
    have hdue : state.IsDue now := hdue state (by rw [hstate]; rfl)
    rw [hstate] at hfits
    dsimp only at hfits ⊢
    have hpos := hsorted.wait_pos hdue hconfig
    have hsum := Instant.toInt_add hfits
    obtain ⟨hexpires, -, -, hrebind⟩ := hsorted.due_times hdue
    rw [sent_eq]
    split_ifs with hrebinding
    · simp only [Instant.toInt_min, hsum]
      change _ < min _ state.expiresAt.toInt
      omega
    · obtain ⟨hnow, -⟩ := hrebind (Bool.not_eq_true _ ▸ hrebinding)
      simp only [Instant.toInt_min, hsum]
      change _ < min (min _ state.rebindAt.toInt) state.expiresAt.toInt
      omega

end Dispatch

/-! ### Runs -/

def Client.Sorted (c : Client) : Prop := ∀ state ∈ c.socket.state.lease, state.Sorted

section Runs

variable {cfg : IfaceConfig} {c c' : Client} {o : Op cfg} {iface : InterfaceInner cfg}
  {ipRepr : Ipv4.Repr} {repr : UdpRepr} {payload : List UInt8} {transactionId : BitVec 32}
  {emit : Message → Bool} {now : Instant} {dhcpRepr : DhcpRepr} {s' : Socket}
  {message : Option Message}

lemma Client.Sorted.of_lease_eq (h : c.Sorted)
    (hlease : c'.socket.state.lease = c.socket.state.lease) : c'.Sorted := by
  intro state hstate
  rw [hlease] at hstate
  exact h state hstate

lemma Client.sorted_of_none (h : c.socket.state.lease = none) : c.Sorted := by
  intro state hstate
  rw [h] at hstate
  cases hstate

lemma Lease.Granted.sorted {lease : Lease} {server : ServerInfo}
    {maxLeaseDuration : Option Duration} (h : lease.Granted now dhcpRepr maxLeaseDuration server)
    (hclock : now.toInt + (leaseLimit dhcpRepr maxLeaseDuration).toNat < 2 ^ 63) :
    ∀ state ∈ lease.state.lease, state.Sorted := by
  intro state hstate
  have htimed : state.Timed ⟨now, server, leaseLimit dhcpRepr maxLeaseDuration⟩ :=
    h.timed hclock state hstate
  have hle := Int64.le_iff_toInt_le.mp htimed.le_renewAt
  have hexpires := htimed.expiresAt_eq
  have hlimit := htimed.limit_lt
  exact ⟨htimed.renewAt_le, fun _ => htimed.rebindAt_le, by omega⟩

lemma Client.Sorted.process (h : c.Sorted)
    (ho : c.Representable (.process iface ipRepr repr payload))
    (hstep : c.Steps (.process iface ipRepr repr payload) c') : c'.Sorted := by
  obtain ⟨-, rfl⟩ | ⟨source, dhcpRepr, haccepted, hreceives, -⟩ := Client.steps_process hstep
  · exact h
  · rw [Client.Representable] at ho
    generalize hsocket : c'.socket = s' at hreceives
    cases hreceives with
    | ignored => exact h.of_lease_eq (by rw [hsocket]; rfl)
    | offered => exact Client.sorted_of_none (by rw [hsocket]; rfl)
    | granted server lease hserver hgrants hlease =>
      rw [Socket.keepPacket_grants] at hgrants
      intro state hstate
      rw [hsocket] at hstate
      exact hlease.sorted (ho (source, dhcpRepr) haccepted hgrants) state hstate
    | refused => exact Client.sorted_of_none (by rw [hsocket]; rfl)

lemma Client.Sorted.dispatch (h : c.Sorted)
    (ho : c.Representable (.dispatch iface transactionId emit))
    (hstep : c.Steps (.dispatch iface transactionId emit) c') : c'.Sorted := by
  obtain ⟨message, hdispatches, -⟩ := Client.steps_dispatch hstep
  rw [Client.Representable, Socket.pollAt, Socket.wait] at ho
  generalize hsocket : c'.socket = s' at hdispatches
  cases hdispatches with
  | waited => exact h.of_lease_eq (by rw [hsocket])
  | restarted | expired | discovered | requested =>
    exact Client.sorted_of_none (by rw [hsocket]; rfl)
  | refused state hstate =>
    intro state' hstate'
    rw [hsocket] at hstate'
    cases hstate'
    exact (h state (by rw [hstate]; rfl)).due iface.now
  | renewed state message hstate hdue =>
    intro state' hstate'
    rw [hsocket] at hstate'
    cases hstate'
    have hsorted : state.Sorted := h state (by rw [hstate]; rfl)
    rw [hstate] at ho
    refine hsorted.sent hdue (ho (hsorted.pollAt_le_iff.mpr (.inr ?_)))
    rintro (hearly | ⟨hrebinding, hearly⟩)
    · exact Int64.not_le.mpr hearly hdue.renewAt_le
    · exact Int64.not_le.mpr hearly (hdue.rebindAt_le hrebinding)

lemma Client.Sorted.step (h : c.Sorted) (ho : c.Representable o) (hstep : c.Steps o c') :
    c'.Sorted := by
  cases o with
  | process => exact h.process ho hstep
  | dispatch => exact h.dispatch ho hstep
  | reset =>
    cases hstep
    exact Client.sorted_of_none rfl
  | poll =>
    cases hstep
    exact h.of_lease_eq (by rw [Socket.poll_state])
  | set setting =>
    cases hstep
    exact h.of_lease_eq (by rw [Socket.set_state])

/-- In every run in which no sum of a time and a timeout overflows, a dispatch does something
exactly from the time on that `pollAt` tells, and after a message was sent there is nothing to do
until later. -/
theorem dispatch_iff_pollAt (hrun : Run (@Client.Steps cfg) Client.Representable Client.new c)
    (h : c.socket.dispatch iface transactionId emit = .ok (s', message)) :
    (message.isSome ∨ s'.state ≠ c.socket.state ↔ c.socket.pollAt ≤ iface.now) ∧
      (c.Representable (.dispatch iface transactionId emit) → c.socket.retryConfig.NonZero →
        (∀ m ∈ message, emit m) → iface.now < s'.pollAt ∨ c.socket.Restarts s') := by
  have hsorted : c.Sorted :=
    hrun.invariant (fun _ _ _ h ho hstep => h.step ho hstep) (Client.sorted_of_none rfl)
  obtain ⟨hearly, rfl, rfl⟩ | ⟨hdue, ⟨hrestarts, rfl⟩ | ⟨m, rfl, hnext, hdues⟩⟩ :=
    dispatch_cases hsorted h
  · refine ⟨iff_of_false ?_ (Int64.not_le.mpr hearly), fun _ _ _ => .inl hearly⟩
    rintro (hnone | hne)
    · cases hnone
    · exact hne rfl
  · refine ⟨iff_of_true (.inr fun heq => ?_) hdue, fun _ _ _ => .inr hrestarts⟩
    exact hrestarts.2 0 (heq.symm.trans hrestarts.1)
  · refine ⟨iff_of_true (.inl rfl) hdue, fun hfits hconfig hemit => .inl ?_⟩
    exact lt_pollAt_of_next hsorted hdues hconfig (hfits hdue) (hnext (hemit m rfl))

/-- A check for `Representable`. -/
def Client.inRange (c : Client) : Op .default → Bool
  | .process iface ipRepr _ payload =>
    decide (∀ r ∈ c.socket.accepted iface ipRepr.srcAddr payload, c.socket.Grants r.2 →
      iface.now.toInt + (leaseLimit r.2 c.socket.maxLeaseDuration).toNat < 2 ^ 63)
  | .dispatch iface _ _ => decide (iface.now.toInt + c.socket.wait iface.now < 2 ^ 63)
  | _ => true

lemma Client.representable_of_inRange (c : Client) (o : Op .default) (h : c.inRange o = true) :
    c.Representable o := by
  cases o with
  | process =>
    dsimp only [inRange] at h
    have := of_decide_eq_true h
    exact this
  | dispatch => exact fun _ => of_decide_eq_true h
  | _ => trivial

/-- A lease of 100 s that is renewed after 50 s, as `pollAt` told, and then rests. -/
theorem dispatch_iff_pollAt_renewing : ∃ (c : Client) (s' : Socket) (m : Message),
    Run (@Client.Steps .default) Client.Representable Client.new c ∧
      c.socket.state.lease.isSome ∧
      c.socket.dispatch (exampleIface 50) 3 (fun _ => true) = .ok (s', some m) ∧
      c.socket.pollAt ≤ (exampleIface 50).now ∧ (exampleIface 50).now < s'.pollAt := by
  obtain ⟨c, hexec, hc⟩ := Option.any_eq_true _ _ |>.mp (by decide +kernel :
    (Client.exec Client.inRange exampleRun Client.new).any (fun c =>
      c.socket.state.lease.isSome && decide (c.socket.retryConfig = {}) &&
        c.inRange (exampleDispatch 50 3) &&
        (c.socket.dispatch (exampleIface 50) 3 fun _ => true).toOption.any
          (fun r => r.2.isSome && r.1.state.lease.isSome)) = true)
  simp only [Bool.and_eq_true, and_assoc] at hc
  obtain ⟨hlease, hconfig, hrange, hc⟩ := hc
  obtain ⟨⟨s', message⟩, hdispatch, hc⟩ := Checked.exists_of_any hc
  obtain ⟨hsome, hlease'⟩ := Bool.and_eq_true_iff.mp hc
  obtain ⟨m, rfl⟩ := Option.isSome_iff_exists.mp hsome
  have hrun := Client.run_of_exec Client.representable_of_inRange hexec
  have hnonzero : c.socket.retryConfig.NonZero := by
    rw [of_decide_eq_true hconfig]
    exact ⟨by decide, by decide, by decide, by decide⟩
  obtain ⟨hdue, hlater⟩ := dispatch_iff_pollAt hrun hdispatch
  refine ⟨c, s', m, hrun, hlease, hdispatch, hdue.mp (.inl rfl), ?_⟩
  refine (hlater (c.representable_of_inRange _ hrange) hnonzero fun _ _ => rfl).resolve_right ?_
  rintro ⟨hstate, -⟩
  rw [hstate] at hlease'
  cases hlease'

/-- A client whose timeout for requests is the longest duration requests an address again and
again. -/
theorem not_lt_pollAt_of_run :
    ¬ ∀ c : Client, Run (@Client.Steps .default) (fun _ _ => True) Client.new c →
      ∀ (iface : InterfaceInner .default) transactionId emit s' message,
        c.socket.dispatch iface transactionId emit = .ok (s', message) →
        c.socket.retryConfig.NonZero → (∀ m ∈ message, emit m) →
        iface.now < s'.pollAt ∨ ∃ retryAt, s'.state = .discovering retryAt := by
  intro h
  obtain ⟨c, hexec, hc⟩ := Option.any_eq_true _ _ |>.mp (by decide +kernel :
    (Client.exec (fun _ _ => true)
      [.set (.retryConfig { initialRequestTimeout := 0xffffffffffffffff }), exampleDispatch 0 1,
        exampleProcess 0 2 1 1] Client.new).any (fun c =>
      decide (c.socket.retryConfig = { initialRequestTimeout := 0xffffffffffffffff }) &&
        (c.socket.dispatch (exampleIface 0) 2 fun _ => true).toOption.any
          (fun r => decide (r.1.pollAt < 0) && r.1.state.request.isSome)) = true)
  obtain ⟨hconfig, hc⟩ := Bool.and_eq_true_iff.mp hc
  obtain ⟨⟨s', message⟩, hdispatch, hs'⟩ := Checked.exists_of_any hc
  obtain ⟨hearly, hrequest⟩ := Bool.and_eq_true_iff.mp hs'
  have hnonzero : c.socket.retryConfig.NonZero := by
    rw [of_decide_eq_true hconfig]
    exact ⟨by decide, by decide, by decide, by decide⟩
  obtain hlt | ⟨retryAt, hstate⟩ :=
    h c (Client.run_of_exec (fun _ _ _ => trivial) hexec) (exampleIface 0) 2 _ s' message hdispatch
      hnonzero fun _ _ => rfl
  · exact absurd hlt (Int64.not_lt.mpr (Int64.le_of_lt (of_decide_eq_true hearly)))
  · rw [hstate] at hrequest
    cases hrequest

end Runs

end Dhcpv4

end Smoltcp
