import Smoltcp.Iface.Lookup
import Smoltcp.Lib.Machine

/-!
# The neighbor cache over its history

What the cache answers is read off what happened to it: a neighbor is known from its last fill on,
up to its expiry, unless the cache was flushed or the neighbor evicted since (`remembered`).
Requests for hardware addresses are at least a second apart.
-/

namespace Smoltcp

namespace NeighborCache

open Heapless

inductive Op where
  | fill (protocolAddr : IpAddress) (hardwareAddr : HardwareAddress) (timestamp : Instant)
  | fillWithExpiration (protocolAddr : IpAddress) (hardwareAddr : HardwareAddress)
      (expiresAt : Instant)
  | resetExpiryIfExisting (protocolAddr : IpAddress) (sourceHardwareAddr : HardwareAddress)
      (timestamp : Instant)
  | limitRate (timestamp : Instant)
  | flush
  | lookup (protocolAddr : IpAddress) (timestamp : Instant)
  deriving DecidableEq, Repr

inductive Outcome where
  | done
  /-- The neighbor is filled in, and the neighbors are not in the cache any more. -/
  | filled (evicted : List IpAddress)
  | answer (answer : NeighborAnswer)
  deriving DecidableEq, Repr

variable {capacity : ℕ}

/-- The neighbors of one cache that are not in the other. -/
def missing (cache cache' : NeighborCache capacity) : List IpAddress :=
  cache.storage.keys.filter fun key => key ∉ cache'.storage.keys

def step (cache : NeighborCache capacity) : Op → Checked (NeighborCache capacity × Outcome)
  | .fill protocolAddr hardwareAddr timestamp => do
    let cache' ← cache.fill protocolAddr hardwareAddr timestamp
    return (cache', .filled (cache.missing cache'))
  | .fillWithExpiration protocolAddr hardwareAddr expiresAt => do
    let cache' ← cache.fillWithExpiration protocolAddr hardwareAddr expiresAt
    return (cache', .filled (cache.missing cache'))
  | .resetExpiryIfExisting protocolAddr sourceHardwareAddr timestamp =>
    .ok (cache.resetExpiryIfExisting protocolAddr sourceHardwareAddr timestamp, .done)
  | .limitRate timestamp => .ok (cache.limitRate timestamp, .done)
  | .flush => .ok (cache.flush, .done)
  | .lookup protocolAddr timestamp => do
    return (cache, .answer (← cache.lookup protocolAddr timestamp))

/-- What is to be remembered of a neighbor after one more operation. -/
def remember (addr : IpAddress) (last : Option Neighbor) : Op × Outcome → Option Neighbor
  | (.fill protocolAddr hardwareAddr timestamp, .filled evicted) =>
    if addr = protocolAddr then some ⟨hardwareAddr, timestamp.add entryLifetime⟩
    else if addr ∈ evicted then none
    else last
  | (.fillWithExpiration protocolAddr hardwareAddr expiresAt, .filled evicted) =>
    if addr = protocolAddr then some ⟨hardwareAddr, expiresAt⟩
    else if addr ∈ evicted then none
    else last
  | (.resetExpiryIfExisting protocolAddr sourceHardwareAddr timestamp, _) =>
    last.map fun neighbor =>
      if addr = protocolAddr ∧ sourceHardwareAddr = neighbor.hardwareAddr then
        { neighbor with expiresAt := timestamp.add entryLifetime }
      else neighbor
  | (.flush, _) => none
  | _ => last

/-- What is to be remembered of a neighbor after a history: the hardware address that it was last
filled in with and its latest expiry. -/
def remembered (history : List (Op × Outcome)) (addr : IpAddress) : Option Neighbor :=
  history.foldl (remember addr) none

/-- The address that the operation fills in. -/
def Op.filled : Op → Option IpAddress
  | .fill protocolAddr _ _ | .fillWithExpiration protocolAddr _ _ => some protocolAddr
  | _ => none

/-- As many neighbors are to be remembered as the cache can hold. -/
def Full (capacity : ℕ) (history : List (Op × Outcome)) : Prop :=
  ∃ known : List IpAddress, known.Nodup ∧ known.length = capacity ∧
    ∀ addr ∈ known, remembered history addr ≠ none

/-- The addresses of the operation are unicast addresses. -/
def Op.Unicast : Op → Prop
  | .fill protocolAddr hardwareAddr _ | .fillWithExpiration protocolAddr hardwareAddr _ =>
    protocolAddr.isUnicast ∧ hardwareAddr.isUnicast = .ok true
  | .lookup protocolAddr _ => protocolAddr.isUnicast
  | _ => True

/-- The hardware address is one of a medium with a link layer. -/
def Op.HasLinkLayer : Op → Prop
  | .fill _ hardwareAddr _ | .fillWithExpiration _ hardwareAddr _ => hardwareAddr ≠ .ip
  | _ => True

variable {cache cache' : NeighborCache capacity} {addr key : IpAddress} {hw : HardwareAddress}
  {expiresAt : Instant} {op : Op} {outcome : Outcome}

/-! ### What a fill does -/

/-- The effect of a fill. -/
structure Fills (cache cache' : NeighborCache capacity) (addr : IpAddress) (hw : HardwareAddress)
    (expiresAt : Instant) (evicted : List IpAddress) : Prop where
  get : ∀ key, cache'.storage.get key = if key = addr then some ⟨hw, expiresAt⟩
    else if key ∈ evicted then none else cache.storage.get key
  silentUntil : cache'.silentUntil = cache.silentUntil
  /-- A neighbor that is there already, or that there is room for, evicts none. -/
  room : cache.storage.get addr ≠ none ∨ cache.storage.entries.length < capacity → evicted = []
  /-- Else the neighbor that expires first makes room. -/
  full : cache.storage.get addr = none → cache.storage.entries.length = capacity →
    ∃ victim neighbor, evicted = [victim] ∧ cache.storage.get victim = some neighbor ∧
      ∀ key other, cache.storage.get key = some other → neighbor.expiresAt ≤ other.expiresAt

lemma missing_eq_nil (h : ∀ key, cache.storage.get key ≠ none → cache'.storage.get key ≠ none) :
    cache.missing cache' = [] := by
  refine List.filter_eq_nil_iff.mpr fun key hkey => ?_
  have hkept := h key (mt LinearMap.get_eq_none_iff.mp (not_not.mpr hkey))
  rw [ne_eq, LinearMap.get_eq_none_iff, not_not] at hkept
  simpa using hkept

lemma missing_eq_singleton (hkey : key ∈ cache.storage.keys) (hgone : key ∉ cache'.storage.keys)
    (h : ∀ other ∈ cache.storage.keys, other ≠ key → other ∈ cache'.storage.keys) :
    cache.missing cache' = [key] := by
  have hcongr : cache.missing cache' = cache.storage.keys.filter fun other => other = key := by
    refine List.filter_congr fun other hother => ?_
    rw [decide_eq_decide]
    constructor
    · intro hnot
      by_contra hne
      exact hnot (h other hother hne)
    · rintro rfl
      exact hgone
  have hcount : cache.storage.keys.count key = 1 :=
    List.count_eq_one_of_mem cache.storage.nodup_keys hkey
  rw [hcongr, List.filter_eq, hcount]
  rfl

/-- The oldest mapping expires first. -/
lemma expiresAt_oldest (h : cache.oldest = some key) :
    ∃ neighbor, cache.storage.get key = some neighbor ∧
      ∀ other n, cache.storage.get other = some n → neighbor.expiresAt ≤ n.expiresAt := by
  obtain ⟨e, he, rfl⟩ := Option.map_eq_some_iff.mp h
  refine ⟨e.2, LinearMap.get_eq_some_iff.mpr (List.minOn?_mem he), fun other n hn => ?_⟩
  have hle := List.apply_get_minOn?_le_of_mem (f := fun e => e.2.expiresAt)
    (LinearMap.get_eq_some_iff.mp hn)
  simpa only [he, Option.get_some] using hle

/-- The effect of a fill that there is no need to make room for. -/
lemma Fills.of_insert {storage : LinearMap IpAddress Neighbor capacity} {old : Option Neighbor}
    (h : cache.storage.insert addr ⟨hw, expiresAt⟩ = some (storage, old)) :
    Fills cache { cache with storage } addr hw expiresAt
      (cache.missing { cache with storage }) := by
  have hget : ∀ key, storage.get key =
      if key = addr then some ⟨hw, expiresAt⟩ else cache.storage.get key :=
    fun key => LinearMap.get_insert h
  have hmissing : cache.missing { cache with storage } = [] := by
    refine missing_eq_nil fun key hkey => ?_
    rw [hget]
    split_ifs
    · exact Option.some_ne_none _
    · exact hkey
  rw [hmissing]
  refine ⟨fun key => ?_, rfl, fun _ => rfl, fun hnone hlength => ?_⟩
  · rw [if_neg (List.not_mem_nil)]
    exact hget key
  · exact absurd (LinearMap.insert_eq_none_iff.mpr ⟨hnone, hlength⟩) (h ▸ Option.some_ne_none _)

/-- The effect of a fill that the oldest neighbor makes room for. -/
lemma Fills.of_evict {victim : IpAddress} {storage : LinearMap IpAddress Neighbor capacity}
    {old : Option Neighbor} (hnone : cache.storage.insert addr ⟨hw, expiresAt⟩ = none)
    (hvictim : cache.oldest = some victim)
    (h : (cache.storage.remove victim).insert addr ⟨hw, expiresAt⟩ = some (storage, old)) :
    Fills cache { cache with storage } addr hw expiresAt
      (cache.missing { cache with storage }) := by
  obtain ⟨hnot, hlength⟩ := LinearMap.insert_eq_none_iff.mp hnone
  obtain ⟨neighbor, hneighbor, hmin⟩ := expiresAt_oldest hvictim
  have hget : ∀ key, storage.get key = if key = addr then some ⟨hw, expiresAt⟩
      else if key = victim then none else cache.storage.get key := by
    intro key
    rw [LinearMap.get_insert h, LinearMap.get_remove]
  have hne : victim ≠ addr := by
    rintro rfl
    rw [hnot] at hneighbor
    cases hneighbor
  have hmissing : cache.missing { cache with storage } = [victim] := by
    refine missing_eq_singleton (LinearMap.mem_keys_iff.mpr ⟨_, hneighbor⟩) ?_ ?_
    · rw [← LinearMap.get_eq_none_iff, hget, if_neg hne, if_pos rfl]
    · intro other hother hne'
      obtain ⟨n, hn⟩ := LinearMap.mem_keys_iff.mp hother
      refine LinearMap.mem_keys_iff.mpr ?_
      rw [hget]
      split_ifs
      · exact ⟨_, rfl⟩
      · exact ⟨n, hn⟩
  rw [hmissing]
  refine ⟨fun key => ?_, rfl, fun hroom => ?_, fun _ _ => ⟨victim, neighbor, rfl, hneighbor, hmin⟩⟩
  · simp only [List.mem_singleton]
    exact hget key
  · rcases hroom with hthere | hlt
    · exact absurd hnot hthere
    · omega

lemma fills_of_fillWithExpiration
    (h : cache.fillWithExpiration addr hw expiresAt = .ok cache') :
    Fills cache cache' addr hw expiresAt (cache.missing cache') := by
  obtain ⟨_, -, h⟩ := Checked.bind_eq_ok.mp h
  obtain ⟨_, -, h⟩ := Checked.bind_eq_ok.mp h
  obtain ⟨_, -, h⟩ := Checked.bind_eq_ok.mp h
  dsimp only at h
  cases hinsert : cache.storage.insert addr ⟨hw, expiresAt⟩ with
  | some r =>
    rw [hinsert] at h
    cases h
    exact .of_insert hinsert
  | none =>
    rw [hinsert] at h
    obtain ⟨victim, hvictim, h⟩ := Checked.bind_eq_ok.mp h
    have holdest : cache.oldest = some victim := by
      cases hold : cache.oldest with
      | none =>
        rw [hold] at hvictim
        cases hvictim
      | some key =>
        rw [hold] at hvictim
        cases hvictim
        rfl
    cases hinsert' : (cache.storage.remove victim).insert addr ⟨hw, expiresAt⟩ with
    | none =>
      rw [hinsert'] at h
      cases h
    | some r =>
      obtain ⟨storage, old⟩ := r
      rw [hinsert'] at h
      cases old with
      | some old => cases h
      | none =>
        cases h
        exact .of_evict hinsert holdest hinsert'

/-- Whether a hardware address is a unicast address can be told unless there is none. -/
lemma exists_isUnicast (h : hw ≠ .ip) : ∃ unicast, hw.isUnicast = .ok unicast := by
  cases hw with
  | ip => exact absurd rfl h
  | ethernet addr => exact ⟨_, rfl⟩
  | ieee802154 addr => exact ⟨_, rfl⟩

/-- The two assertions on the addresses of a fill. -/
lemma assert_unicast (hlink : hw ≠ .ip) {α : Type} (rest : Checked α) :
    ((Checked.assert addr.isUnicast >>= fun _ => hw.isUnicast >>= fun unicast =>
        Checked.assert (unicast = true) >>= fun _ => rest) = rest ∧
      addr.isUnicast ∧ hw.isUnicast = .ok true) ∨
    ((Checked.assert addr.isUnicast >>= fun _ => hw.isUnicast >>= fun unicast =>
        Checked.assert (unicast = true) >>= fun _ => rest) = .error .assertFailed ∧
      ¬ (addr.isUnicast ∧ hw.isUnicast = .ok true)) := by
  obtain ⟨unicast, hunicast⟩ := exists_isUnicast hlink
  by_cases hu : addr.isUnicast
  case neg => exact .inr ⟨by rw [Checked.assert, if_neg hu, Checked.error_bind], fun h => hu h.1⟩
  rw [Checked.assert_of hu, Checked.ok_bind, hunicast, Checked.ok_bind]
  cases unicast with
  | true => exact .inl ⟨by rw [Checked.assert_of rfl, Checked.ok_bind], hu, rfl⟩
  | false =>
    refine .inr ⟨?_, fun h => Bool.false_ne_true (Except.ok.inj h.2)⟩
    rw [Checked.assert, if_neg Bool.false_ne_true, Checked.error_bind]

lemma fillWithExpiration_cases (hcap : 0 < capacity) (hlink : hw ≠ .ip) :
    ((∃ cache', cache.fillWithExpiration addr hw expiresAt = .ok cache') ∧
      addr.isUnicast ∧ hw.isUnicast = .ok true) ∨
    (cache.fillWithExpiration addr hw expiresAt = .error .assertFailed ∧
      ¬ (addr.isUnicast ∧ hw.isUnicast = .ok true)) := by
  by_cases hunicast : addr.isUnicast ∧ hw.isUnicast = .ok true
  · obtain ⟨cache', hok, -⟩ :=
      @fillWithExpiration_eq_ok _ cache _ _ hcap hunicast.1 hunicast.2 expiresAt
    exact .inl ⟨⟨cache', hok⟩, hunicast⟩
  · refine .inr ⟨?_, hunicast⟩
    rcases assert_unicast hlink _ with ⟨-, h⟩ | ⟨h, -⟩
    · exact absurd h hunicast
    · exact h

/-- A fill checks its addresses twice. -/
lemma fill_eq {timestamp : Instant}
    (h : addr.isUnicast ∧ hw.isUnicast = .ok true) :
    cache.fill addr hw timestamp =
      cache.fillWithExpiration addr hw (timestamp.add entryLifetime) := by
  rw [fill, Checked.assert_of h.1, Checked.ok_bind, h.2, Checked.ok_bind, Checked.assert_of rfl,
    Checked.ok_bind]

lemma fill_cases {timestamp : Instant} (hcap : 0 < capacity) (hlink : hw ≠ .ip) :
    ((∃ cache', cache.fill addr hw timestamp = .ok cache') ∧
      addr.isUnicast ∧ hw.isUnicast = .ok true) ∨
    (cache.fill addr hw timestamp = .error .assertFailed ∧
      ¬ (addr.isUnicast ∧ hw.isUnicast = .ok true)) := by
  by_cases hunicast : addr.isUnicast ∧ hw.isUnicast = .ok true
  · rw [fill_eq hunicast]
    exact fillWithExpiration_cases hcap hlink
  · refine .inr ⟨?_, hunicast⟩
    rcases assert_unicast hlink _ with ⟨-, h⟩ | ⟨h, -⟩
    · exact absurd h hunicast
    · exact h

lemma fills_of_fill {timestamp : Instant} (h : cache.fill addr hw timestamp = .ok cache') :
    Fills cache cache' addr hw (timestamp.add entryLifetime) (cache.missing cache') := by
  obtain ⟨_, -, h⟩ := Checked.bind_eq_ok.mp h
  obtain ⟨_, -, h⟩ := Checked.bind_eq_ok.mp h
  obtain ⟨_, -, h⟩ := Checked.bind_eq_ok.mp h
  exact fills_of_fillWithExpiration h

/-! ### One operation -/

lemma limitRate_storage (cache : NeighborCache capacity) (timestamp : Instant) :
    (cache.limitRate timestamp).storage = cache.storage := by
  cases cache
  rfl

lemma get_resetExpiryIfExisting {timestamp : Instant} (key : IpAddress) :
    (cache.resetExpiryIfExisting addr hw timestamp).storage.get key =
      (cache.storage.get key).map fun neighbor =>
        if key = addr ∧ hw = neighbor.hardwareAddr then
          { neighbor with expiresAt := timestamp.add entryLifetime }
        else neighbor := by
  unfold resetExpiryIfExisting
  cases hget : cache.storage.get addr with
  | none =>
    dsimp only
    cases hkey : cache.storage.get key with
    | none => rfl
    | some neighbor =>
      rw [Option.map_some, if_neg]
      rintro ⟨rfl, -⟩
      rw [hget] at hkey
      cases hkey
  | some neighbor =>
    dsimp only
    split_ifs with hsame
    · dsimp only
      rw [LinearMap.get_replace (LinearMap.mem_keys_iff.mpr ⟨_, hget⟩)]
      split_ifs with heq
      · subst heq
        rw [hget, Option.map_some, if_pos ⟨rfl, hsame⟩]
      · cases cache.storage.get key with
        | none => rfl
        | some other => rw [Option.map_some, if_neg fun h => heq h.1]
    · cases hkey : cache.storage.get key with
      | none => rfl
      | some other =>
        rw [Option.map_some, if_neg]
        rintro ⟨rfl, hother⟩
        rw [hget] at hkey
        cases hkey
        exact hsame hother

/-- What the cache holds changes with an operation as what is to be remembered does. -/
lemma get_step (h : cache.step op = .ok (cache', outcome)) (key : IpAddress) :
    cache'.storage.get key = remember key (cache.storage.get key) (op, outcome) := by
  cases op with
  | fill addr hw timestamp =>
    obtain ⟨cache₁, hfill, h⟩ := Checked.bind_eq_ok.mp h
    cases h
    exact (fills_of_fill hfill).get key
  | fillWithExpiration addr hw expiresAt =>
    obtain ⟨cache₁, hfill, h⟩ := Checked.bind_eq_ok.mp h
    cases h
    exact (fills_of_fillWithExpiration hfill).get key
  | resetExpiryIfExisting addr hw timestamp =>
    cases h
    exact get_resetExpiryIfExisting key
  | limitRate timestamp =>
    obtain ⟨hcache, houtcome⟩ := Prod.mk.inj (Except.ok.inj h)
    rw [← hcache, ← houtcome, limitRate_storage]
    rfl
  | flush =>
    cases h
    rfl
  | lookup addr timestamp =>
    obtain ⟨answer, -, h⟩ := Checked.bind_eq_ok.mp h
    cases h
    rfl

/-- An operation succeeds exactly on unicast addresses. Otherwise it fails by an assertion. -/
lemma step_cases (hcap : 0 < capacity) (hlink : op.HasLinkLayer) :
    ((∃ r, cache.step op = .ok r) ∧ op.Unicast) ∨
      (cache.step op = .error .assertFailed ∧ ¬ op.Unicast) := by
  cases op with
  | fill addr hw timestamp =>
    rcases @fill_cases _ cache _ _ timestamp hcap hlink with ⟨⟨cache', hok⟩, hunicast⟩ |
      ⟨herr, hnot⟩
    · exact .inl ⟨⟨_, by rw [step, hok, Checked.ok_bind]; rfl⟩, hunicast⟩
    · exact .inr ⟨by rw [step, herr, Checked.error_bind], hnot⟩
  | fillWithExpiration addr hw expiresAt =>
    rcases @fillWithExpiration_cases _ cache _ _ expiresAt hcap hlink with
      ⟨⟨cache', hok⟩, hunicast⟩ | ⟨herr, hnot⟩
    · exact .inl ⟨⟨_, by rw [step, hok, Checked.ok_bind]; rfl⟩, hunicast⟩
    · exact .inr ⟨by rw [step, herr, Checked.error_bind], hnot⟩
  | resetExpiryIfExisting addr hw timestamp => exact .inl ⟨⟨_, rfl⟩, trivial⟩
  | limitRate timestamp => exact .inl ⟨⟨_, rfl⟩, trivial⟩
  | flush => exact .inl ⟨⟨_, rfl⟩, trivial⟩
  | lookup addr timestamp =>
    rw [step, lookup]
    by_cases hu : addr.isUnicast
    · rw [Checked.assert_of hu, Checked.ok_bind]
      dsimp only
      cases cache.storage.get addr with
      | none => exact .inl ⟨⟨_, rfl⟩, hu⟩
      | some neighbor => exact .inl ⟨⟨_, rfl⟩, hu⟩
    · exact .inr ⟨by rw [Checked.assert, if_neg hu]; rfl, hu⟩

/-- While the rate is limited no neighbor is said not to be found. -/
lemma not_lt_of_lookup_eq_notFound {timestamp : Instant}
    (h : cache.lookup addr timestamp = .ok .notFound) : ¬ timestamp < cache.silentUntil := by
  obtain ⟨_, -, h⟩ := Checked.bind_eq_ok.mp h
  intro hlt
  dsimp only at h
  rw [if_pos hlt] at h
  cases hget : cache.storage.get addr with
  | none =>
    rw [hget] at h
    cases h
  | some neighbor =>
    rw [hget] at h
    have hanswer := Except.ok.inj h
    split_ifs at hanswer

/-! ### Runs -/

lemma get_run {ops : List Op} {outcomes : List Outcome}
    (h : Machine.run step cache ops = .ok (cache', outcomes)) (key : IpAddress) :
    cache'.storage.get key = (ops.zip outcomes).foldl (remember key) (cache.storage.get key) := by
  induction ops generalizing cache outcomes with
  | nil =>
    cases h
    rfl
  | cons op ops ih =>
    obtain ⟨⟨cache₁, outcome⟩, hstep, h⟩ := Checked.bind_eq_ok.mp h
    obtain ⟨⟨cache₂, rest⟩, hrun, h⟩ := Checked.bind_eq_ok.mp h
    cases h
    rw [List.zip_cons_cons, List.foldl_cons, ← get_step hstep]
    exact ih hrun

/-- Only an assertion on an address can fail. -/
lemma run_error {ops : List Op} {p : Panic} (hcap : 0 < capacity)
    (hlink : ∀ op ∈ ops, op.HasLinkLayer) (h : Machine.run step cache ops = .error p) :
    p = .assertFailed ∧ ∃ op ∈ ops, ¬ op.Unicast := by
  induction ops generalizing cache with
  | nil => cases h
  | cons op ops ih =>
    rw [Machine.run] at h
    rcases @step_cases _ cache _ hcap (hlink op (List.mem_cons_self ..)) with
      ⟨⟨⟨cache₁, outcome⟩, hok⟩, -⟩ | ⟨herr, hnot⟩
    · rw [hok, Checked.ok_bind] at h
      dsimp only at h
      cases hrun : Machine.run step cache₁ ops with
      | error p' =>
        rw [hrun] at h
        cases h
        obtain ⟨hp, op', hop', hnot⟩ :=
          ih (fun op hop => hlink op (List.mem_cons_of_mem _ hop)) hrun
        exact ⟨hp, op', List.mem_cons_of_mem _ hop', hnot⟩
      | ok r =>
        rw [hrun] at h
        cases h
    · rw [herr] at h
      cases h
      exact ⟨rfl, op, List.mem_cons_self .., hnot⟩

/-- The neighbors of an empty cache. -/
lemma get_run_new {ops : List Op} {outcomes : List Outcome}
    (h : Machine.run step (new capacity) ops = .ok (cache', outcomes)) :
    cache'.storage.get = remembered (ops.zip outcomes) := by
  funext key
  rw [get_run h]
  rfl

end NeighborCache

/-! ### Requests -/

namespace InterfaceInner

variable {cfg : IfaceConfig} {iface : InterfaceInner cfg} {emit : Packet → Emission}
  {frag : Fragmenter} {sent : Dispatched cfg}

/-- An operation on the neighbor cache, or the lookup of a destination by an interface that has
it. -/
inductive Use (cfg : IfaceConfig) where
  | cache (op : NeighborCache.Op)
  | lookup (iface : InterfaceInner cfg) (emit : Packet → Emission) (dstAddr : IpAddress)
      (frag : Fragmenter)

/-- What becomes of the cache, and when requests are sent. -/
def use (cache : NeighborCache cfg.neighborCacheCount) :
    Use cfg → Checked (NeighborCache cfg.neighborCacheCount × List Instant)
  | .cache op => do
    let (cache, _) ← cache.step op
    return (cache, [])
  | .lookup iface emit dstAddr frag => do
    match ← { iface with neighborCache := cache }.lookupHardwareAddr emit dstAddr frag with
    | .ok _ => return (cache, [])
    | .error pending => return (pending.iface.neighborCache, pending.sent.map fun _ => iface.now)

/-- The rate is limited by the lookup of a destination only, and the limit is not beyond what an
instant can be. -/
def Use.Proper : Use cfg → Prop
  | .cache (.limitRate _) => False
  | .cache _ => True
  | .lookup iface _ _ _ => iface.now.toInt + 1000000 < 2 ^ 63

lemma dispatchTo_sends {dst : HardwareAddress} {ipv4Id : UInt16} {packet : Packet}
    {emission : Emission} (h : iface.dispatchTo dst ipv4Id packet emission frag = .ok sent) :
    sent.iface.neighborCache = iface.neighborCache ∧ sent.sent.length ≤ 1 ∧
      sent.result = .ok () := by
  have htoList : ∀ {α β : Type} (o : Option α) (f : α → β), (o.toList.map f).length ≤ 1 := by
    intro α β o f
    cases o <;> simp
  unfold dispatchTo at h
  split at h
  · cases h
  · split at h
    · split_ifs at h
      · cases h
        exact ⟨rfl, le_rfl, rfl⟩
      · obtain ⟨⟨frag', frame⟩, -, h⟩ := Checked.bind_eq_ok.mp h
        cases h
        refine ⟨?_, htoList _ _, rfl⟩
        dsimp only
        split_ifs <;> rfl
    · cases h
  · obtain ⟨addr, -, h⟩ := Checked.bind_eq_ok.mp h
    obtain ⟨⟨frag', frame⟩, -, h⟩ := Checked.bind_eq_ok.mp h
    cases h
    exact ⟨rfl, htoList _ _, rfl⟩
  · split_ifs at h
    · cases h
      exact ⟨rfl, Nat.zero_le _, rfl⟩
    · obtain ⟨octets, -, h⟩ := Checked.bind_eq_ok.mp h
      cases h
      exact ⟨rfl, le_rfl, rfl⟩

/-- A request is one transmission, and none if it fails. -/
lemma request_sends {nextHop : IpAddress} (h : iface.request emit nextHop frag = .ok sent) :
    sent.iface.neighborCache = iface.neighborCache ∧ sent.sent.length ≤ 1 ∧
      (∀ e, sent.result = .error e → sent.sent = []) := by
  unfold request at h
  split at h
  · obtain ⟨addr, -, h⟩ := Checked.bind_eq_ok.mp h
    split at h
    · cases h
      exact ⟨rfl, Nat.zero_le _, fun _ _ => rfl⟩
    · cases h
      exact ⟨rfl, le_rfl, nofun⟩
  · cases h
    exact ⟨rfl, Nat.zero_le _, fun _ _ => rfl⟩
  · obtain ⟨octets, -, h⟩ := Checked.bind_eq_ok.mp h
    obtain ⟨srcAddr, -, h⟩ := Checked.bind_eq_ok.mp h
    obtain ⟨dstAddr, -, h⟩ := Checked.bind_eq_ok.mp h
    obtain ⟨dst, -, h⟩ := Checked.bind_eq_ok.mp h
    obtain ⟨hcache, hlength, hresult⟩ := dispatchTo_sends h
    obtain ⟨ipv4Id, hid⟩ := nextIpv4FragIdent_eq iface
    refine ⟨?_, hlength, fun e he => ?_⟩
    · rw [hcache, hid]
    · rw [hresult] at he
      cases he

/-- A lookup that sends something limits the rate, and sends nothing while the rate is limited. -/
lemma lookupHardwareAddr_sends {dstAddr : IpAddress}
    (h : iface.lookupHardwareAddr emit dstAddr frag = .ok (.error sent)) :
    sent.iface.neighborCache = iface.neighborCache ∧ sent.sent = [] ∨
    sent.iface.neighborCache = iface.neighborCache.limitRate iface.now ∧ sent.sent.length ≤ 1 ∧
      ¬ iface.now < iface.neighborCache.silentUntil := by
  unfold lookupHardwareAddr at h
  split_ifs at h
  · obtain ⟨dst, -, h⟩ := Checked.bind_eq_ok.mp h
    cases h
  · obtain ⟨dst, -, h⟩ := Checked.bind_eq_ok.mp h
    cases h
  obtain ⟨nextHop, -, h⟩ := Checked.bind_eq_ok.mp h
  cases nextHop with
  | none =>
    cases h
    exact .inl ⟨rfl, rfl⟩
  | some nextHop =>
    obtain ⟨answer, hanswer, h⟩ := Checked.bind_eq_ok.mp h
    cases answer with
    | found hw => cases h
    | rateLimited =>
      cases h
      exact .inl ⟨rfl, rfl⟩
    | notFound =>
      obtain ⟨requested, hrequest, h⟩ := Checked.bind_eq_ok.mp h
      obtain ⟨hcache, hlength, hfailed⟩ := request_sends hrequest
      cases hresult : requested.result with
      | error e =>
        rw [hresult] at h
        cases h
        exact .inl ⟨hcache, hfailed e hresult⟩
      | ok u =>
        rw [hresult] at h
        cases h
        refine .inr ⟨?_, hlength, NeighborCache.not_lt_of_lookup_eq_notFound hanswer⟩
        dsimp only
        rw [hcache]

lemma toInt_silentTime {t : Instant} (h : t.toInt + 1000000 < 2 ^ 63) :
    (t.add NeighborCache.silentTime).toInt = t.toInt + 1000000 := by
  have ht := t.le_toInt
  have hcast : NeighborCache.silentTime.toInt64.toInt = 1000000 := by decide
  rw [Instant.add, Int64.toInt_add, hcast, Int.bmod_eq_of_le_mul_two]
  · push_cast; omega
  · push_cast; omega

lemma silentUntil_step {op : NeighborCache.Op} {outcome : NeighborCache.Outcome}
    {cache cache' : NeighborCache cfg.neighborCacheCount}
    (hop : (Use.cache op : Use cfg).Proper) (h : cache.step op = .ok (cache', outcome)) :
    cache'.silentUntil = cache.silentUntil := by
  cases op with
  | fill addr hw timestamp =>
    obtain ⟨cache₁, hfill, h⟩ := Checked.bind_eq_ok.mp h
    cases h
    exact (NeighborCache.fills_of_fill hfill).silentUntil
  | fillWithExpiration addr hw expiresAt =>
    obtain ⟨cache₁, hfill, h⟩ := Checked.bind_eq_ok.mp h
    cases h
    exact (NeighborCache.fills_of_fillWithExpiration hfill).silentUntil
  | resetExpiryIfExisting addr hw timestamp =>
    cases h
    unfold NeighborCache.resetExpiryIfExisting
    split
    · split_ifs <;> rfl
    · rfl
  | limitRate timestamp => exact hop.elim
  | flush =>
    cases h
    rfl
  | lookup addr timestamp =>
    obtain ⟨answer, -, h⟩ := Checked.bind_eq_ok.mp h
    cases h
    rfl

/-- One use: what is sent is sent after the rate was limited, and limits the rate again. -/
lemma use_cases {cache cache' : NeighborCache cfg.neighborCacheCount} {u : Use cfg}
    {times : List Instant} (hu : u.Proper) (h : use cache u = .ok (cache', times)) :
    cache.silentUntil.toInt ≤ cache'.silentUntil.toInt ∧ times.length ≤ 1 ∧
      ∀ t ∈ times, cache.silentUntil.toInt ≤ t.toInt ∧
        t.toInt + 1000000 = cache'.silentUntil.toInt := by
  cases u with
  | cache op =>
    obtain ⟨⟨cache₁, outcome⟩, hstep, h⟩ := Checked.bind_eq_ok.mp h
    cases h
    rw [silentUntil_step hu hstep]
    exact ⟨le_rfl, Nat.zero_le _, nofun⟩
  | lookup iface emit dstAddr frag =>
    obtain ⟨r, hlookup, h⟩ := Checked.bind_eq_ok.mp h
    cases r with
    | ok dst =>
      cases h
      exact ⟨le_rfl, Nat.zero_le _, nofun⟩
    | error pending =>
      cases h
      rcases lookupHardwareAddr_sends hlookup with ⟨hcache, hsent⟩ | ⟨hcache, hlength, hnow⟩
      · rw [hcache, hsent]
        exact ⟨le_rfl, Nat.zero_le _, nofun⟩
      · rw [hcache]
        have hsilent := toInt_silentTime hu
        rw [Int64.lt_iff_toInt_lt, not_lt] at hnow
        dsimp only at hnow
        refine ⟨?_, by rwa [List.length_map], fun t ht => ?_⟩
        · dsimp only [NeighborCache.limitRate]
          omega
        · obtain ⟨_, -, rfl⟩ := List.mem_map.mp ht
          exact ⟨hnow, hsilent.symm⟩

/-- Requests are at least a second apart. -/
lemma pairwise_requests {cache cache' : NeighborCache cfg.neighborCacheCount}
    {uses : List (Use cfg)}
    {times : List (List Instant)} (huses : ∀ u ∈ uses, u.Proper)
    (h : Machine.run use cache uses = .ok (cache', times)) :
    (∀ t ∈ times.flatten, cache.silentUntil.toInt ≤ t.toInt) ∧
      times.flatten.Pairwise fun t t' => t.toInt + 1000000 ≤ t'.toInt := by
  induction uses generalizing cache times with
  | nil =>
    cases h
    exact ⟨nofun, .nil⟩
  | cons u uses ih =>
    obtain ⟨⟨cache₁, now⟩, huse, h⟩ := Checked.bind_eq_ok.mp h
    obtain ⟨⟨cache₂, rest⟩, hrun, h⟩ := Checked.bind_eq_ok.mp h
    cases h
    obtain ⟨hmono, hlength, hnow⟩ := use_cases (huses u (List.mem_cons_self ..)) huse
    obtain ⟨hafter, hpairwise⟩ := ih (fun u hu => huses u (List.mem_cons_of_mem _ hu)) hrun
    rw [List.flatten_cons]
    constructor
    · intro t ht
      rcases List.mem_append.mp ht with ht | ht
      · exact (hnow t ht).1
      · exact hmono.trans (hafter t ht)
    · refine List.pairwise_append.mpr ⟨?_, hpairwise, fun t ht t' ht' => ?_⟩
      · match now, hlength with
        | [], _ => exact .nil
        | [t], _ => exact List.pairwise_singleton _ _
      · rw [(hnow t ht).2]
        exact hafter t' ht'

end InterfaceInner

namespace NeighborCache

open Heapless

variable {capacity : ℕ} {cache cache' : NeighborCache capacity} {addr : IpAddress} {op : Op}
  {outcome : Outcome}

lemma full_iff {history : List (Op × Outcome)} (h : cache.storage.get = remembered history) :
    Full capacity history ↔ cache.storage.entries.length = capacity := by
  have hlength : cache.storage.keys.length = cache.storage.entries.length := List.length_map _
  constructor
  · rintro ⟨known, hnodup, hcapacity, hknown⟩
    have hsubset : known ⊆ cache.storage.keys := by
      intro addr haddr
      have hne := hknown addr haddr
      rw [← h] at hne
      exact LinearMap.mem_keys_iff.mpr (Option.ne_none_iff_exists'.mp hne)
    have hle := (List.subperm_of_subset hnodup hsubset).length_le
    have := cache.storage.length_le
    omega
  · intro hfull
    refine ⟨cache.storage.keys, cache.storage.nodup_keys, hlength.trans hfull, ?_⟩
    intro addr haddr
    rw [← h]
    exact Option.ne_none_iff_exists'.mpr (LinearMap.mem_keys_iff.mp haddr)

lemma fills_of_step (hfill : op.filled = some addr) (h : cache.step op = .ok (cache', outcome)) :
    ∃ hw expiresAt evicted, outcome = .filled evicted ∧
      Fills cache cache' addr hw expiresAt evicted := by
  cases op with
  | fill addr' hw timestamp =>
    cases hfill
    obtain ⟨cache₁, hok, h⟩ := Checked.bind_eq_ok.mp h
    cases h
    exact ⟨hw, _, _, rfl, fills_of_fill hok⟩
  | fillWithExpiration addr' hw expiresAt =>
    cases hfill
    obtain ⟨cache₁, hok, h⟩ := Checked.bind_eq_ok.mp h
    cases h
    exact ⟨hw, expiresAt, _, rfl, fills_of_fillWithExpiration hok⟩
  | resetExpiryIfExisting | limitRate | flush | lookup => cases hfill

/-- The cache is a bounded map whose entries expire. Only assertions on addresses fail. A neighbor
is found exactly if it is remembered and not expired. A fill evicts nothing if the neighbor is there
already or there is room, and else the one neighbor that expires first. Requests by lookups, which
alone limit the rate, are at least a second apart. -/
theorem refines_history {cfg : IfaceConfig} {ops : List Op}
    (hlink : ∀ op ∈ ops, op.HasLinkLayer) :
    (∀ p, Machine.run step (new cfg.neighborCacheCount) ops = .error p →
      p = .assertFailed ∧ ∃ op ∈ ops, ¬ op.Unicast) ∧
    (∀ cache outcomes, Machine.run step (new cfg.neighborCacheCount) ops = .ok (cache, outcomes) →
      (∀ addr t hw, cache.lookup addr t = .ok (.found hw) ↔ addr.isUnicast ∧
        ∃ neighbor, remembered (ops.zip outcomes) addr = some neighbor ∧ t < neighbor.expiresAt ∧
          hw = neighbor.hardwareAddr) ∧
      ∀ op addr cache' outcome, op.filled = some addr → cache.step op = .ok (cache', outcome) →
        ∃ evicted, outcome = .filled evicted ∧
          (remembered (ops.zip outcomes) addr ≠ none ∨
              ¬ Full cfg.neighborCacheCount (ops.zip outcomes) → evicted = []) ∧
          (remembered (ops.zip outcomes) addr = none →
            Full cfg.neighborCacheCount (ops.zip outcomes) →
            ∃ victim neighbor, evicted = [victim] ∧
              remembered (ops.zip outcomes) victim = some neighbor ∧
              ∀ key other, remembered (ops.zip outcomes) key = some other →
                neighbor.expiresAt ≤ other.expiresAt)) ∧
    ∀ (cache cache' : NeighborCache cfg.neighborCacheCount) (uses : List (InterfaceInner.Use cfg))
      (times : List (List Instant)), (∀ u ∈ uses, u.Proper) →
      Machine.run InterfaceInner.use cache uses = .ok (cache', times) →
      times.flatten.Pairwise fun t t' => t.toInt + 1000000 ≤ t'.toInt := by
  refine ⟨fun p hrun => run_error cfg.neighborCacheCount_pos hlink hrun, ?_, ?_⟩
  · intro cache outcomes hrun
    have hget := get_run_new hrun
    refine ⟨fun addr t hw => ?_, fun op addr cache' outcome hfill hstep => ?_⟩
    · rw [← hget]
      exact lookup_eq_found_iff
    · obtain ⟨hw, expiresAt, evicted, houtcome, hfills⟩ := fills_of_step hfill hstep
      have hle := cache.storage.length_le
      rw [full_iff hget, ← hget]
      refine ⟨evicted, houtcome, fun hroom => hfills.room (hroom.imp_right fun hnot => ?_),
        hfills.full⟩
      omega
  · intro cache cache' uses times huses hrun
    exact (InterfaceInner.pairwise_requests huses hrun).2

/-- A neighbor that was filled in at the start and seen again 50 s later is known after 60 s. -/
theorem refines_history_refreshed :
    ∃ cache outcomes, Machine.run step (new 8)
        [.fill (.ipv4 0x0A000001) (.ethernet 2) 0,
          .resetExpiryIfExisting (.ipv4 0x0A000001) (.ethernet 2) 50000000] =
      .ok (cache, outcomes) ∧
      cache.lookup (.ipv4 0x0A000001) 60000000 = .ok (.found (.ethernet 2)) := by
  obtain ⟨⟨cache, outcomes⟩, hrun, houtcomes⟩ := @Checked.exists_of_any _ (Machine.run step (new 8)
      [.fill (.ipv4 0x0A000001) (.ethernet 2) 0,
        .resetExpiryIfExisting (.ipv4 0x0A000001) (.ethernet 2) 50000000])
    (fun r => decide (r.2 = [.filled [], .done])) (by decide +kernel)
  obtain rfl : outcomes = [.filled [], .done] := of_decide_eq_true houtcomes
  have hlink : ∀ op ∈ [Op.fill (.ipv4 0x0A000001) (.ethernet 2) 0,
      .resetExpiryIfExisting (.ipv4 0x0A000001) (.ethernet 2) 50000000], op.HasLinkLayer := by
    intro op hop
    rcases List.mem_cons.mp hop with rfl | hop
    · nofun
    · obtain rfl := List.mem_singleton.mp hop
      trivial
  obtain ⟨-, hok, -⟩ := @refines_history .default _ hlink
  obtain ⟨hfound, -⟩ := hok cache _ hrun
  refine ⟨cache, _, hrun, (hfound _ _ _).mpr ?_⟩
  exact ⟨by decide, ⟨.ethernet 2, 110000000⟩, by decide +kernel, by decide, rfl⟩

end NeighborCache

end Smoltcp
