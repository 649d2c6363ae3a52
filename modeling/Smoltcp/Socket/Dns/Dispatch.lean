import Smoltcp.Socket.Dns
import Smoltcp.Socket.Tcp.Timer
import Smoltcp.Socket.Udp

/-!
# Sending DNS queries

A pending query has two timers: one for its next transmission, and one after which the next server
is tried. `pollAt` tells the first timer only. A dispatch does what `pollAt` tells, exactly if
nothing but a transmission is to be done (`agrees_iff`).
-/

namespace Smoltcp

/-- A function on packets that returns no error: it ends with a value, or panics. -/
def Outcome.toChecked {α : Type} : Outcome α → Checked α
  | .ok a => .ok a
  | .error (.panic p) => .error p
  | .error .malformed => .error .unreachable

namespace Dns

open Tcp (PollAt)

def retransmitDelay : Duration := .fromMillis 1000

def maxRetransmitDelay : Duration := .fromMillis 10000

def retransmitTimeout : Duration := .fromMillis 10000

def mdnsIpv6Addr : IpAddress := .ipv6 0xff0200000000000000000000000000fb

def mdnsIpv4Addr : IpAddress := .ipv4 0xe00000fb

namespace PendingQuery

variable (pq : PendingQuery)

/-- A query as it is when it is started. -/
def start (name : List UInt8) (type : QueryType) (port txid : UInt16) (mdns : MulticastDns) :
    PendingQuery where
  name
  type
  port
  txid
  timeoutAt := none
  retransmitAt := 0
  delay := retransmitDelay
  serverIdx := 0
  mdns

/-- As per RFC 6762 any DNS query ending in .local. MUST be sent as mdns, so the servers are
overwritten for those queries. -/
def serversOf (servers : List IpAddress) : List IpAddress :=
  match pq.mdns with
  | .enabled => [mdnsIpv6Addr, mdnsIpv4Addr]
  | .disabled => servers

def dstPort : UInt16 :=
  match pq.mdns with
  | .enabled => mdnsDnsPort
  | .disabled => dnsPort

/-- After the timeout the next server is tried. -/
def checkTimeout (now : Instant) : PendingQuery :=
  let timeout := pq.timeoutAt.getD (now.add retransmitTimeout)
  if timeout < now then
    { pq with
      timeoutAt := some (now.add retransmitTimeout)
      retransmitAt := 0
      delay := retransmitDelay
      serverIdx := pq.serverIdx + 1 }
  else { pq with timeoutAt := some timeout }

def request : DnsRepr := ⟨pq.txid, .query, flagRecursionDesired, ⟨pq.name, pq.type⟩⟩

/-- After a transmission the next one takes twice as long. -/
def sent (now : Instant) : PendingQuery :=
  { pq with
    retransmitAt := now.add pq.delay
    delay := min maxRetransmitDelay (pq.delay * 2) }

end PendingQuery

/-- What a dispatch finds out about a pending query. -/
inductive Turn where
  | failed
  | waiting (pq : PendingQuery)
  | ready (pq : PendingQuery) (d : Udp.Datagram)

section

variable {cfg : IfaceConfig} (servers : List IpAddress) (hopLimit : UInt8)
  (iface : InterfaceInner cfg)

def PendingQuery.serve (pq : PendingQuery) : Checked Turn :=
  let servers := pq.serversOf servers
  let pq := pq.checkTimeout iface.now
  -- Check if we've run out of servers to try.
  if servers.length ≤ pq.serverIdx then .ok .failed
  else do
    let dstAddr ← Checked.index servers pq.serverIdx
    if dstAddr.isUnspecified then return .failed
    else if iface.now < pq.retransmitAt then return .waiting pq
    else
      let payload ← Checked.slice (List.replicate 512 0) 0 pq.request.bufferLen
      let payload ← (pq.request.emit payload).toChecked
      let udpRepr : UdpRepr := ⟨pq.port, pq.dstPort⟩
      match ← iface.getSourceAddress dstAddr with
      | none => return .failed
      | some srcAddr =>
        let ipRepr ← IpRepr.new srcAddr dstAddr .udp (udpRepr.headerLen + payload.length) hopLimit
        return .ready pq ⟨ipRepr, udpRepr, payload⟩

/-- The loop over the queries. It ends with the first one that is ready. -/
def dispatchQueries (emit : Udp.Datagram → Bool) :
    List (Option State) → Checked (List (Option State) × Option Udp.Datagram)
  | some (.pending pq) :: queries => do
    match ← pq.serve servers hopLimit iface with
    | .failed =>
      let (queries, offer) ← dispatchQueries emit queries
      return (some .failure :: queries, offer)
    | .waiting pq =>
      let (queries, offer) ← dispatchQueries emit queries
      return (some (.pending pq) :: queries, offer)
    | .ready pq d =>
      let pq := if emit d then pq.sent iface.now else pq
      return (some (.pending pq) :: queries, some d)
  | q :: queries => do
    let (queries, offer) ← dispatchQueries emit queries
    return (q :: queries, offer)
  | [] => .ok ([], none)

end

namespace Socket

variable (s : Socket)

def dispatch {cfg : IfaceConfig} (iface : InterfaceInner cfg) (emit : Udp.Datagram → Bool) :
    Checked (Socket × Option Udp.Datagram) := do
  let (queries, offer) ← dispatchQueries s.servers (s.hopLimit.getD 64) iface emit s.queries
  return ({ s with queries }, offer)

/-- When each of the pending queries is to be transmitted. -/
def pollTimes : List PollAt :=
  s.queries.filterMap fun
    | some (.pending pq) => some (.time pq.retransmitAt)
    | _ => none

def pollAt : PollAt :=
  match s.pollTimes with
  | [] => .ingress
  | p :: ps => ps.foldl .min p

end Socket

/-! ### Agreement -/

namespace PendingQuery

variable (servers : List IpAddress) (now : Instant) (pq : PendingQuery)

/-- There is a server to send the query to. -/
def Settled : Prop :=
  ∃ addr, (pq.serversOf servers)[pq.serverIdx]? = some addr ∧ ¬ addr.isUnspecified

/-- The timeout is set and has not passed, and there is a server. -/
structure Quiet : Prop where
  timeout : ∃ timeout, pq.timeoutAt = some timeout ∧ ¬ timeout < now
  settled : pq.Settled servers

/-- After the timeout has been looked at there is a server, and the query is not to be transmitted
yet. -/
structure Waits : Prop where
  settled : (pq.checkTimeout now).Settled servers
  retransmitAt : now < (pq.checkTimeout now).retransmitAt

end PendingQuery

namespace Socket

variable {cfg : IfaceConfig} (s : Socket) (iface : InterfaceInner cfg) (emit : Udp.Datagram → Bool)

/-- Something is handed over, or a query changes. -/
def Acts : Prop :=
  ∃ s' offer, s.dispatch iface emit = .ok (s', offer) ∧ (offer ≠ none ∨ s'.queries ≠ s.queries)

/-- A query that was pending fails. -/
def Fails (queries queries' : List (Option State)) : Prop :=
  ∃ (i : ℕ) (pq : PendingQuery),
    queries[i]? = some (some (.pending pq)) ∧ queries'[i]? = some (some .failure)

/-- Something is handed over, or a query fails. -/
def Serves : Prop :=
  ∃ s' offer, s.dispatch iface emit = .ok (s', offer) ∧ (offer ≠ none ∨ Fails s.queries s'.queries)

/-- `pollAt` is at or before now exactly if there is something to do. -/
structure Agrees : Prop where
  due_of_acts : s.Acts iface emit → s.pollAt.Due iface.now
  serves_of_due : s.pollAt.Due iface.now → s.Serves iface emit

/-- A pending query is to be transmitted. -/
def TransmissionDue (now : Instant) : Prop :=
  ∃ pq, some (.pending pq) ∈ s.queries ∧ pq.retransmitAt ≤ now

end Socket

section

variable {cfg : IfaceConfig} {servers : List IpAddress} {hopLimit : UInt8}
  {iface : InterfaceInner cfg} {pq : PendingQuery} {emit : Udp.Datagram → Bool}

lemma serversOf_checkTimeout (now : Instant) :
    (pq.checkTimeout now).serversOf servers = pq.serversOf servers := by
  unfold PendingQuery.checkTimeout
  dsimp only
  split_ifs <;> rfl

lemma bufferLen_checkTimeout (now : Instant) :
    (pq.checkTimeout now).request.bufferLen = pq.request.bufferLen := by
  unfold PendingQuery.checkTimeout
  dsimp only
  split_ifs <;> rfl

/-- What a turn says about the timers of a query. -/
inductive PendingQuery.Served (servers : List IpAddress) (now : Instant) (pq : PendingQuery) :
    Turn → Prop where
  | failed (h : ¬ pq.Waits servers now) : Served servers now pq .failed
  | waiting (h : pq.Waits servers now) : Served servers now pq (.waiting (pq.checkTimeout now))
  | ready (d : Udp.Datagram) (h : ¬ pq.Waits servers now) :
      Served servers now pq (.ready (pq.checkTimeout now) d)

/-- A query whose request fits the buffer is served without a panic. -/
lemma exists_serve (hfits : pq.request.bufferLen ≤ 512) :
    ∃ turn, pq.serve servers hopLimit iface = .ok turn ∧ pq.Served servers iface.now turn := by
  have hservers := @serversOf_checkTimeout servers pq iface.now
  have hlen := @bufferLen_checkTimeout pq iface.now
  unfold PendingQuery.serve
  dsimp only
  by_cases hidx : (pq.serversOf servers).length ≤ (pq.checkTimeout iface.now).serverIdx
  · rw [if_pos hidx]
    refine ⟨.failed, rfl, .failed fun hwaits => ?_⟩
    obtain ⟨addr, haddr, -⟩ := hwaits.settled
    rw [hservers, List.getElem?_eq_none hidx] at haddr
    cases haddr
  rw [if_neg hidx]
  obtain ⟨dstAddr, hdst⟩ : ∃ dstAddr,
      (pq.serversOf servers)[(pq.checkTimeout iface.now).serverIdx]? = some dstAddr :=
    ⟨_, List.getElem?_eq_getElem (not_le.mp hidx)⟩
  rw [Checked.index_of hdst, Checked.ok_bind]
  by_cases hunspecified : dstAddr.isUnspecified
  · rw [if_pos hunspecified]
    refine ⟨.failed, rfl, .failed fun hwaits => ?_⟩
    obtain ⟨addr, haddr, hspecified⟩ := hwaits.settled
    rw [hservers, hdst] at haddr
    cases haddr
    exact hspecified hunspecified
  rw [if_neg hunspecified]
  by_cases hwait : iface.now < (pq.checkTimeout iface.now).retransmitAt
  · rw [if_pos hwait]
    exact ⟨_, rfl, .waiting ⟨⟨dstAddr, by rw [hservers, hdst], hunspecified⟩, hwait⟩⟩
  rw [if_neg hwait]
  have hnot : ¬ pq.Waits servers iface.now := fun h => hwait h.retransmitAt
  rw [← hlen] at hfits
  have hslice : ((List.replicate 512 (0 : UInt8)).take
      (pq.checkTimeout iface.now).request.bufferLen).length =
      (pq.checkTimeout iface.now).request.bufferLen := by
    rw [List.length_take, List.length_replicate, Nat.min_eq_left hfits]
  obtain ⟨payload, hemit⟩ := (pq.checkTimeout iface.now).request.exists_emit hslice
  rw [Checked.slice_of (Nat.zero_le _) (by rwa [List.length_replicate]), Checked.ok_bind,
    List.drop_zero, hemit]
  obtain ⟨srcAddr, hsrc, hversion⟩ := @InterfaceInner.exists_getSourceAddress _ iface _ hunspecified
  rw [Outcome.toChecked, Checked.ok_bind, hsrc, Checked.ok_bind]
  cases srcAddr with
  | none => exact ⟨.failed, rfl, .failed hnot⟩
  | some srcAddr =>
    dsimp only
    obtain ⟨ipRepr, hnew⟩ := IpRepr.new_of_version_eq (hversion srcAddr rfl) .udp
      (UdpRepr.headerLen ⟨(pq.checkTimeout iface.now).port, (pq.checkTimeout iface.now).dstPort⟩ +
        payload.length) hopLimit
    rw [hnew]
    exact ⟨_, rfl, .ready _ hnot⟩

/-- What a dispatch does to the queries. -/
inductive Dispatched (servers : List IpAddress) (now : Instant) :
    List (Option State) → List (Option State) → Option Udp.Datagram → Prop where
  | nil : Dispatched servers now [] [] none
  | other {q : Option State} {queries queries' : List (Option State)} {offer : Option Udp.Datagram}
      (hq : ∀ pq, q ≠ some (.pending pq)) (h : Dispatched servers now queries queries' offer) :
      Dispatched servers now (q :: queries) (q :: queries') offer
  | failed {pq : PendingQuery} {queries queries' : List (Option State)}
      {offer : Option Udp.Datagram} (hpq : ¬ pq.Waits servers now)
      (h : Dispatched servers now queries queries' offer) :
      Dispatched servers now (some (.pending pq) :: queries) (some .failure :: queries') offer
  | waiting {pq : PendingQuery} {queries queries' : List (Option State)}
      {offer : Option Udp.Datagram} (hpq : pq.Waits servers now)
      (h : Dispatched servers now queries queries' offer) :
      Dispatched servers now (some (.pending pq) :: queries)
        (some (.pending (pq.checkTimeout now)) :: queries') offer
  | ready {pq : PendingQuery} (pq' : PendingQuery) (queries : List (Option State))
      (d : Udp.Datagram) (hpq : ¬ pq.Waits servers now) :
      Dispatched servers now (some (.pending pq) :: queries) (some (.pending pq') :: queries)
        (some d)

lemma exists_dispatchQueries {queries : List (Option State)}
    (hfits : ∀ pq, some (.pending pq) ∈ queries → pq.request.bufferLen ≤ 512) :
    ∃ queries' offer, dispatchQueries servers hopLimit iface emit queries = .ok (queries', offer) ∧
      Dispatched servers iface.now queries queries' offer := by
  induction queries with
  | nil => exact ⟨[], none, rfl, .nil⟩
  | cons q queries ih =>
    obtain ⟨queries', offer, hrest, hdispatched⟩ := ih fun pq hpq =>
      hfits pq (List.mem_cons_of_mem _ hpq)
    by_cases hq : ∃ pq, q = some (.pending pq)
    · obtain ⟨pq, rfl⟩ := hq
      obtain ⟨turn, hturn, hserved⟩ :=
        @exists_serve _ servers hopLimit iface pq (hfits pq List.mem_cons_self)
      rw [dispatchQueries, hturn, Checked.ok_bind]
      cases hserved with
      | failed hnot =>
        dsimp only
        rw [hrest]
        exact ⟨_, _, rfl, .failed hnot hdispatched⟩
      | waiting hwaits =>
        dsimp only
        rw [hrest]
        exact ⟨_, _, rfl, .waiting hwaits hdispatched⟩
      | ready d hnot => exact ⟨_, _, rfl, .ready _ _ d hnot⟩
    · have heq : dispatchQueries servers hopLimit iface emit (q :: queries) =
          .ok (q :: queries', offer) := by
        rw [dispatchQueries, hrest]
        · rfl
        · exact fun pq hpq => hq ⟨pq, hpq⟩
      exact ⟨_, _, heq, .other (fun pq hpq => hq ⟨pq, hpq⟩) hdispatched⟩

/-! ### What a dispatch amounts to -/

variable {now : Instant} {queries queries' : List (Option State)} {offer : Option Udp.Datagram}

lemma mem_cons_pending {q : Option State} {p : PendingQuery → Prop} :
    (∃ pq, some (.pending pq) ∈ q :: queries ∧ p pq) ↔
      (∃ pq, q = some (.pending pq) ∧ p pq) ∨ ∃ pq, some (.pending pq) ∈ queries ∧ p pq := by
  constructor
  · rintro ⟨pq, hmem, hp⟩
    rcases List.mem_cons.mp hmem with rfl | hmem
    · exact .inl ⟨pq, rfl, hp⟩
    · exact .inr ⟨pq, hmem, hp⟩
  · rintro (⟨pq, rfl, hp⟩ | ⟨pq, hmem, hp⟩)
    · exact ⟨pq, List.mem_cons_self, hp⟩
    · exact ⟨pq, List.mem_cons_of_mem _ hmem, hp⟩

lemma fails_cons {q q' : Option State} : Socket.Fails (q :: queries) (q' :: queries') ↔
    (∃ pq, q = some (.pending pq) ∧ q' = some .failure) ∨ Socket.Fails queries queries' := by
  constructor
  · rintro ⟨i, pq, hq, hq'⟩
    cases i with
    | zero => exact .inl ⟨pq, Option.some.inj hq, Option.some.inj hq'⟩
    | succ i => exact .inr ⟨i, pq, hq, hq'⟩
  · rintro (⟨pq, rfl, rfl⟩ | ⟨i, pq, hq, hq'⟩)
    · exact ⟨0, pq, rfl, rfl⟩
    · exact ⟨i + 1, pq, hq, hq'⟩

/-- Something is done exactly if some query does not wait, or has its timer set. -/
lemma Dispatched.acts_iff (h : Dispatched servers now queries queries' offer) :
    (offer ≠ none ∨ queries' ≠ queries) ↔
      ∃ pq, some (.pending pq) ∈ queries ∧ (¬ pq.Waits servers now ∨ pq.checkTimeout now ≠ pq) := by
  induction h with
  | nil => simp
  | other hq _ ih =>
    have hnone : ∀ {p : PendingQuery → Prop}, ¬ ∃ pq, _ = some (State.pending pq) ∧ p pq :=
      fun ⟨pq, hpq, _⟩ => hq pq hpq
    rw [mem_cons_pending, or_iff_right hnone, ← ih]
    simp only [ne_eq, List.cons.injEq, true_and]
  | failed hpq =>
    refine iff_of_true (.inr ?_) ⟨_, List.mem_cons_self, .inl hpq⟩
    simp
  | ready pq' queries d hpq => exact iff_of_true (.inl nofun) ⟨_, List.mem_cons_self, .inl hpq⟩
  | @waiting pq queries queries' offer hpq _ ih =>
    have hhead : (∃ pq₁, some (State.pending pq) = some (.pending pq₁) ∧
        (¬ pq₁.Waits servers now ∨ pq₁.checkTimeout now ≠ pq₁)) ↔ pq.checkTimeout now ≠ pq := by
      constructor
      · rintro ⟨_, ⟨⟩, hnot | hne⟩
        · exact absurd hpq hnot
        · exact hne
      · exact fun hne => ⟨pq, rfl, .inr hne⟩
    rw [mem_cons_pending, hhead, ← ih]
    simp only [ne_eq, List.cons.injEq, Option.some.injEq, State.pending.injEq, not_and_or]
    exact or_left_comm

/-- Something is handed over or fails exactly if some query does not wait. -/
lemma Dispatched.serves_iff (h : Dispatched servers now queries queries' offer) :
    (offer ≠ none ∨ Socket.Fails queries queries') ↔
      ∃ pq, some (.pending pq) ∈ queries ∧ ¬ pq.Waits servers now := by
  induction h with
  | nil => simp [Socket.Fails]
  | other hq _ ih =>
    have hnone : ∀ {p : PendingQuery → Prop}, ¬ ∃ pq, _ = some (State.pending pq) ∧ p pq :=
      fun ⟨pq, hpq, _⟩ => hq pq hpq
    rw [mem_cons_pending, or_iff_right hnone, ← ih, fails_cons, or_iff_right hnone]
  | failed hpq =>
    exact iff_of_true (.inr (fails_cons.mpr (.inl ⟨_, rfl, rfl⟩))) ⟨_, List.mem_cons_self, hpq⟩
  | ready pq' queries d hpq => exact iff_of_true (.inl nofun) ⟨_, List.mem_cons_self, hpq⟩
  | @waiting pq queries queries' offer hpq _ ih =>
    have hhead : ¬ ∃ pq₁, some (State.pending pq) = some (.pending pq₁) ∧
        ¬ pq₁.Waits servers now := by
      rintro ⟨_, ⟨⟩, hnot⟩
      exact hnot hpq
    have hfails : ¬ ∃ pq₁, some (State.pending pq) = some (.pending pq₁) ∧
        some (State.pending (pq.checkTimeout now)) = some .failure := by
      rintro ⟨_, -, hfailure⟩
      cases hfailure
    rw [mem_cons_pending, or_iff_right hhead, ← ih, fails_cons, or_iff_right hfails]

end

namespace PendingQuery

variable {servers : List IpAddress} {now : Instant} {pq : PendingQuery}

/-- Nothing is done with a query that waits and whose timer is set. -/
lemma quiet_iff (h : now < pq.retransmitAt) :
    pq.Quiet servers now ↔ pq.Waits servers now ∧ pq.checkTimeout now = pq := by
  have hkept : pq.Quiet servers now → pq.checkTimeout now = pq := by
    rintro ⟨⟨timeout, htimeout, hlt⟩, -⟩
    unfold checkTimeout
    rw [htimeout, Option.getD_some, if_neg hlt, ← htimeout]
  constructor
  · intro hquiet
    have hsame := hkept hquiet
    exact ⟨⟨by rw [hsame]; exact hquiet.settled, by rwa [hsame]⟩, hsame⟩
  · rintro ⟨hwaits, hsame⟩
    refine ⟨?_, by rw [← hsame]; exact hwaits.settled⟩
    have htimeout := congrArg PendingQuery.timeoutAt hsame
    have hserver := congrArg PendingQuery.serverIdx hsame
    unfold checkTimeout at htimeout hserver
    dsimp only at htimeout hserver
    split_ifs at htimeout hserver with hlt
    · exact absurd hserver (Nat.succ_ne_self _)
    · dsimp only at htimeout
      exact ⟨_, htimeout.symm, hlt⟩

/-- A query that is to be transmitted does not wait, unless the clock is before zero. -/
lemma not_waits (hnow : 0 ≤ now) (h : pq.retransmitAt ≤ now) : ¬ pq.Waits servers now := by
  intro hwaits
  have hlt := hwaits.retransmitAt
  unfold checkTimeout at hlt
  dsimp only at hlt
  split_ifs at hlt
  · exact absurd hlt (Int64.not_lt.mpr hnow)
  · exact absurd hlt (Int64.not_lt.mpr h)

end PendingQuery

/-! ### When to poll -/

lemma due_foldl {now : Instant} {ps : List PollAt} {p : PollAt} :
    (ps.foldl .min p).Due now ↔ p.Due now ∨ ∃ q ∈ ps, q.Due now := by
  induction ps generalizing p with
  | nil => simp
  | cons q ps ih =>
    rw [List.foldl_cons, ih, PollAt.due_min, or_assoc, List.exists_mem_cons_iff]

namespace Socket

variable {cfg : IfaceConfig} {s : Socket} {iface : InterfaceInner cfg}
  {emit : Udp.Datagram → Bool}

lemma mem_pollTimes {p : PollAt} :
    p ∈ s.pollTimes ↔ ∃ pq, some (.pending pq) ∈ s.queries ∧ p = .time pq.retransmitAt := by
  unfold pollTimes
  rw [List.mem_filterMap]
  constructor
  · rintro ⟨q, hmem, hq⟩
    match q, hmem, hq with
    | some (.pending pq), hmem, hq => exact ⟨pq, hmem, (Option.some.inj hq).symm⟩
  · rintro ⟨pq, hmem, rfl⟩
    exact ⟨_, hmem, rfl⟩

lemma due_pollAt (now : Instant) : s.pollAt.Due now ↔ s.TransmissionDue now := by
  have htimes : s.pollAt.Due now ↔ ∃ p ∈ s.pollTimes, p.Due now := by
    unfold pollAt
    cases s.pollTimes with
    | nil => simp [PollAt.Due]
    | cons p ps => rw [due_foldl, List.exists_mem_cons_iff]
  rw [htimes]
  constructor
  · rintro ⟨p, hp, hdue⟩
    obtain ⟨pq, hmem, rfl⟩ := mem_pollTimes.mp hp
    exact ⟨pq, hmem, hdue⟩
  · rintro ⟨pq, hmem, hdue⟩
    exact ⟨_, mem_pollTimes.mpr ⟨pq, hmem, rfl⟩, hdue⟩

/-- The requests of all pending queries fit the buffer. -/
def Fits (s : Socket) : Prop :=
  ∀ pq, some (.pending pq) ∈ s.queries → pq.request.bufferLen ≤ 512

lemma exists_dispatch (hfits : s.Fits) : ∃ queries' offer,
    s.dispatch iface emit = .ok ({ s with queries := queries' }, offer) ∧
      Dispatched s.servers iface.now s.queries queries' offer := by
  obtain ⟨queries', offer, hqueries, hdispatched⟩ :=
    @exists_dispatchQueries _ s.servers (s.hopLimit.getD 64) iface emit _ hfits
  refine ⟨queries', offer, ?_, hdispatched⟩
  unfold dispatch
  rw [hqueries]
  rfl

lemma acts_iff (hfits : s.Fits) : s.Acts iface emit ↔ ∃ pq, some (.pending pq) ∈ s.queries ∧
    (¬ pq.Waits s.servers iface.now ∨ pq.checkTimeout iface.now ≠ pq) := by
  obtain ⟨queries', offer, hdispatch, hdispatched⟩ := @exists_dispatch _ s iface emit hfits
  rw [← hdispatched.acts_iff]
  constructor
  · rintro ⟨s', offer', heq, hacts⟩
    rw [hdispatch] at heq
    cases heq
    exact hacts
  · exact fun hacts => ⟨_, offer, hdispatch, hacts⟩

lemma serves_iff (hfits : s.Fits) : s.Serves iface emit ↔
    ∃ pq, some (.pending pq) ∈ s.queries ∧ ¬ pq.Waits s.servers iface.now := by
  obtain ⟨queries', offer, hdispatch, hdispatched⟩ := @exists_dispatch _ s iface emit hfits
  rw [← hdispatched.serves_iff]
  constructor
  · rintro ⟨s', offer', heq, hserves⟩
    rw [hdispatch] at heq
    cases heq
    exact hserves
  · exact fun hserves => ⟨_, offer, hdispatch, hserves⟩

/-- With a clock that is not before zero, a dispatch serves a query whenever `pollAt` tells so. -/
theorem serves_of_due (hfits : s.Fits) (hnow : 0 ≤ iface.now) (h : s.pollAt.Due iface.now) :
    s.Serves iface emit := by
  obtain ⟨pq, hmem, hle⟩ := (due_pollAt _).mp h
  exact (serves_iff hfits).mpr ⟨pq, hmem, PendingQuery.not_waits hnow hle⟩

/-- A dispatch does something exactly from the time on that `pollAt` tells: if a transmission is
due, some query must not merely wait, which none that is to be transmitted does unless the clock is
before zero; if none is due, all timeouts must be set and not have passed, and all servers must
exist. -/
theorem agrees_iff (hfits : s.Fits) : s.Agrees iface emit ↔
      (s.TransmissionDue iface.now →
        ∃ pq, some (.pending pq) ∈ s.queries ∧ ¬ pq.Waits s.servers iface.now) ∧
      (¬ s.TransmissionDue iface.now →
        ∀ pq, some (.pending pq) ∈ s.queries → pq.Quiet s.servers iface.now) := by
  have hagrees : s.Agrees iface emit ↔ (s.Acts iface emit → s.TransmissionDue iface.now) ∧
      (s.TransmissionDue iface.now → s.Serves iface emit) := by
    rw [← due_pollAt]
    exact ⟨fun h => ⟨h.due_of_acts, h.serves_of_due⟩, fun h => ⟨h.1, h.2⟩⟩
  rw [hagrees, serves_iff hfits, and_comm]
  refine and_congr_right fun _ => ?_
  rw [← not_imp_not, acts_iff hfits]
  have hlt : ¬ s.TransmissionDue iface.now → ∀ pq, some (.pending pq) ∈ s.queries →
      iface.now < pq.retransmitAt := by
    intro hdue pq hmem
    exact Int64.not_le.mp fun hle => hdue ⟨pq, hmem, hle⟩
  constructor
  · intro h hdue pq hmem
    rw [PendingQuery.quiet_iff (hlt hdue pq hmem)]
    by_contra hnot
    exact h hdue ⟨pq, hmem, not_and_or.mp hnot⟩
  · rintro h hdue ⟨pq, hmem, hnot⟩
    exact not_and_or.mpr hnot ((PendingQuery.quiet_iff (hlt hdue pq hmem)).mp (h hdue pq hmem))

/-- An interface with the address 10.0.0.1/8 and some time. -/
def exampleClock (now : Instant) : InterfaceInner .default :=
  { InterfaceInner.new 1514 {} (.ethernet 0x020000000001) now 1 1 with
    ipAddrs := [InterfaceInner.exampleIpv4Cidr] }

/-- A query, and one for a name that ends in .local, after their fourth transmissions. -/
def exampleWaiting : Socket :=
  ⟨[.ipv4 0x08080808],
    [some (.pending ⟨[1, 97, 0], .a, 49152, 7, some 10000000, 15000000, 10000000, 0, .disabled⟩),
      some (.pending ⟨[5, 108, 111, 99, 97, 108, 0], .aaaa, 49153, 8, some 10000000, 15000000,
        10000000, 0, .enabled⟩)], none⟩

lemma forall_pending_exampleWaiting {P : PendingQuery → Prop} :
    (∀ pq, some (.pending pq) ∈ exampleWaiting.queries → P pq) ↔
      P ⟨[1, 97, 0], .a, 49152, 7, some 10000000, 15000000, 10000000, 0, .disabled⟩ ∧
      P ⟨[5, 108, 111, 99, 97, 108, 0], .aaaa, 49153, 8, some 10000000, 15000000, 10000000, 0,
        .enabled⟩ := by
  simp [exampleWaiting]

/-- The two queries are transmitted after 0, 1, 3 and 7 seconds, and after 9 seconds both wait. -/
theorem agrees_iff_waiting :
    [0, 0, 1000000, 1000000, 3000000, 3000000, 7000000, 7000000].foldlM
        (fun s t => do return (← dispatch s (exampleClock t) (fun _ => true)).1)
        ⟨[.ipv4 0x08080808], [some (.pending (.start [1, 97, 0] .a 49152 7 .disabled)),
          some (.pending (.start [5, 108, 111, 99, 97, 108, 0] .aaaa 49153 8 .enabled))], none⟩ =
      .ok exampleWaiting ∧
    Agrees exampleWaiting (exampleClock 9000000) (fun _ => true) := by
  have hfits : exampleWaiting.Fits := forall_pending_exampleWaiting.mpr (by decide)
  refine ⟨by decide +kernel, (agrees_iff hfits).mpr ⟨?_, fun _ => ?_⟩⟩
  · rintro ⟨pq, hmem, hle⟩
    refine absurd hle ?_
    revert pq
    exact forall_pending_exampleWaiting.mpr (by decide)
  · exact forall_pending_exampleWaiting.mpr
      ⟨⟨⟨_, rfl, by decide⟩, _, rfl, by decide⟩, ⟨_, rfl, by decide⟩, _, rfl, by decide⟩

/-- A query is transmitted after 0, 1, 3 and 7 seconds. `pollAt` then tells 15 seconds, but one
second after the timeout of 10 seconds the query fails. -/
theorem not_agrees :
    [0, 1000000, 3000000, 7000000].foldlM
        (fun s t => do return (← dispatch s (exampleClock t) (fun _ => true)).1)
        ⟨[.ipv4 0x08080808], [some (.pending (.start [1, 97, 0] .a 49152 7 .disabled))], none⟩ =
      .ok ⟨[.ipv4 0x08080808], [some (.pending
        ⟨[1, 97, 0], .a, 49152, 7, some 10000000, 15000000, 10000000, 0, .disabled⟩)], none⟩ ∧
    ¬ Agrees ⟨[.ipv4 0x08080808], [some (.pending
        ⟨[1, 97, 0], .a, 49152, 7, some 10000000, 15000000, 10000000, 0, .disabled⟩)], none⟩
      (exampleClock 11000000) (fun _ => true) := by
  refine ⟨by decide +kernel, fun h => ?_⟩
  have hdue := h.due_of_acts ⟨⟨[.ipv4 0x08080808], [some .failure], none⟩, none, rfl,
    .inr (by decide)⟩
  exact absurd hdue (by decide)

end Socket

end Dns

end Smoltcp
