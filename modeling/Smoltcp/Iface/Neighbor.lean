import Smoltcp.Lib.LinearMap
import Smoltcp.Time
import Smoltcp.Wire.Address
import Smoltcp.Wire.HardwareAddress

/-!
# The neighbor cache

A neighbor mapping translates from a protocol address to a hardware address, until it expires. The
map is of bounded size; the mapping that expires first makes room for a new one. What was filled in
is found at the same instant (`lookup_fill`).
-/

namespace Smoltcp

/-- A cached neighbor. -/
structure Neighbor where
  hardwareAddr : HardwareAddress
  expiresAt : Instant
  deriving DecidableEq, Repr

/-- An answer to a neighbor cache lookup. -/
inductive NeighborAnswer where
  /-- The neighbor address is in the cache and not expired. -/
  | found (addr : HardwareAddress)
  /-- The neighbor address is not in the cache, or has expired. -/
  | notFound
  /-- The neighbor address is not in the cache, or has expired, and a lookup has been made
  recently. -/
  | rateLimited
  deriving DecidableEq, Repr

namespace NeighborAnswer

def isFound : NeighborAnswer → Bool
  | .found _ => true
  | _ => false

end NeighborAnswer

/-- A neighbor cache backed by a map. -/
structure NeighborCache (capacity : ℕ) where
  storage : Heapless.LinearMap IpAddress Neighbor capacity
  silentUntil : Instant

namespace NeighborCache

variable {capacity : ℕ}

/-- Minimum delay between discovery requests. -/
def silentTime : Duration := Duration.fromMillis 1000

/-- Neighbor entry lifetime. -/
def entryLifetime : Duration := Duration.fromMillis 60000

def new (capacity : ℕ) : NeighborCache capacity where
  storage := .new capacity
  silentUntil := Instant.fromMillis 0

section Operations

variable (cache : NeighborCache capacity)

def resetExpiryIfExisting (protocolAddr : IpAddress) (sourceHardwareAddr : HardwareAddress)
    (timestamp : Instant) : NeighborCache capacity :=
  match cache.storage.get protocolAddr with
  | some neighbor =>
    if sourceHardwareAddr = neighbor.hardwareAddr then
      let neighbor := { neighbor with expiresAt := timestamp.add entryLifetime }
      { cache with storage := cache.storage.replace protocolAddr neighbor }
    else cache
  | none => cache

/-- The key whose mapping expires first; of several the first one. -/
def oldest : Option IpAddress :=
  (cache.storage.entries.minOn? fun e => e.2.expiresAt).map Prod.fst

def fillWithExpiration (protocolAddr : IpAddress) (hardwareAddr : HardwareAddress)
    (expiresAt : Instant) : Checked (NeighborCache capacity) := do
  Checked.assert protocolAddr.isUnicast
  Checked.assert (← hardwareAddr.isUnicast)
  let neighbor : Neighbor := ⟨hardwareAddr, expiresAt⟩
  match cache.storage.insert protocolAddr neighbor with
  | some (storage, _) => return { cache with storage }
  | none =>
    -- The cache is full, and an entry needs to be evicted.
    let oldProtocolAddr ← Checked.unwrap cache.oldest
    match (cache.storage.remove oldProtocolAddr).insert protocolAddr neighbor with
    | some (storage, none) => return { cache with storage }
    | _ => .error .unreachable

def fill (protocolAddr : IpAddress) (hardwareAddr : HardwareAddress) (timestamp : Instant) :
    Checked (NeighborCache capacity) := do
  Checked.assert protocolAddr.isUnicast
  Checked.assert (← hardwareAddr.isUnicast)
  cache.fillWithExpiration protocolAddr hardwareAddr (timestamp.add entryLifetime)

def lookup (protocolAddr : IpAddress) (timestamp : Instant) : Checked NeighborAnswer := do
  Checked.assert protocolAddr.isUnicast
  let silent : NeighborAnswer := if timestamp < cache.silentUntil then .rateLimited else .notFound
  match cache.storage.get protocolAddr with
  | some neighbor =>
    return if timestamp < neighbor.expiresAt then .found neighbor.hardwareAddr else silent
  | none => return silent

def limitRate (timestamp : Instant) : NeighborCache capacity :=
  { cache with silentUntil := timestamp.add silentTime }

def flush : NeighborCache capacity := { cache with storage := cache.storage.clear }

end Operations

/-! ### What is found -/

variable {cache : NeighborCache capacity} {addr addr' : IpAddress} {hw : HardwareAddress}
  {t : Instant}

lemma lookup_eq_found_iff : cache.lookup addr t = .ok (.found hw) ↔ addr.isUnicast ∧
    ∃ neighbor, cache.storage.get addr = some neighbor ∧ t < neighbor.expiresAt ∧
      hw = neighbor.hardwareAddr := by
  by_cases hu : addr.isUnicast
  · rw [lookup, Checked.assert_of hu, Checked.ok_bind]
    cases hget : cache.storage.get addr with
    | none =>
      simp only [Checked.pure_eq_ok, Except.ok.injEq, reduceCtorEq, false_and, exists_false,
        and_false, iff_false]
      split_ifs <;> simp
    | some neighbor =>
      simp only [Checked.pure_eq_ok, Except.ok.injEq, Option.some.injEq, exists_eq_left', hu,
        true_and]
      by_cases hlt : t < neighbor.expiresAt
      · simp only [hlt, if_true, NeighborAnswer.found.injEq, true_and]
        exact eq_comm
      · simp only [hlt, if_false, false_and, iff_false]
        split_ifs <;> simp
  · simp only [hu, false_and, iff_false]
    intro h
    obtain ⟨u, hassert, -⟩ := Checked.bind_eq_ok.mp h
    exact hu (Checked.assert_eq_ok.mp hassert)

/-- There is an oldest mapping, unless there is none at all. -/
lemma exists_oldest (h : cache.storage.entries ≠ []) :
    ∃ key ∈ cache.storage.keys, cache.oldest = some key := by
  obtain ⟨e, he⟩ := Option.isSome_iff_exists.mp
    (List.isSome_minOn?_iff (f := fun e => e.2.expiresAt) |>.mpr h)
  refine ⟨e.1, List.mem_map_of_mem (List.minOn?_mem he), ?_⟩
  rw [oldest, he]
  rfl

/-- A mapping that is filled in is there afterwards, in place of another one if need be. -/
lemma fillWithExpiration_eq_ok (hcap : 0 < capacity) (hu : addr.isUnicast)
    (hhw : hw.isUnicast = .ok true) (expiresAt : Instant) :
    ∃ cache', cache.fillWithExpiration addr hw expiresAt = .ok cache' ∧
      cache'.silentUntil = cache.silentUntil ∧
      cache'.storage.get addr = some ⟨hw, expiresAt⟩ := by
  rw [fillWithExpiration, Checked.assert_of hu, Checked.ok_bind, hhw, Checked.ok_bind,
    Checked.assert_of rfl, Checked.ok_bind]
  cases hins : cache.storage.insert addr ⟨hw, expiresAt⟩ with
  | some r =>
    simp only [hins]
    refine ⟨_, rfl, rfl, ?_⟩
    rw [Heapless.LinearMap.get_insert hins, if_pos rfl]
  | none =>
    obtain ⟨hget, hlen⟩ := Heapless.LinearMap.insert_eq_none_iff.mp hins
    have hne : cache.storage.entries ≠ [] := by
      intro hnil
      rw [hnil] at hlen
      exact hcap.ne hlen
    obtain ⟨key, hkey, hold⟩ := exists_oldest hne
    simp only [hins, hold, Checked.unwrap, Checked.ok_bind]
    have hroom := Heapless.LinearMap.length_remove hkey
    cases hins' : (cache.storage.remove key).insert addr ⟨hw, expiresAt⟩ with
    | none =>
      obtain ⟨-, hfull⟩ := Heapless.LinearMap.insert_eq_none_iff.mp hins'
      omega
    | some r =>
      obtain ⟨storage, old⟩ := r
      have hold' : old = none := by
        rw [Heapless.LinearMap.old_of_insert hins', Heapless.LinearMap.get_remove]
        split_ifs
        · rfl
        · exact hget
      subst hold'
      refine ⟨_, rfl, rfl, ?_⟩
      rw [Heapless.LinearMap.get_insert hins', if_pos rfl]

/-- What was filled in is found, at the same instant. -/
lemma lookup_fill (hcap : 0 < capacity) (hu : addr.isUnicast) (hhw : hw.isUnicast = .ok true)
    (ht : t < t.add entryLifetime) :
    ∃ cache', cache.fill addr hw t = .ok cache' ∧ cache'.lookup addr t = .ok (.found hw) := by
  obtain ⟨cache', hfill, -, hget⟩ : ∃ cache',
      cache.fillWithExpiration addr hw (t.add entryLifetime) = .ok cache' ∧ _ :=
    fillWithExpiration_eq_ok hcap hu hhw (t.add entryLifetime)
  refine ⟨cache', ?_, lookup_eq_found_iff.mpr ⟨hu, _, hget, ht, rfl⟩⟩
  rw [fill, Checked.assert_of hu, Checked.ok_bind, hhw, Checked.ok_bind, Checked.assert_of rfl,
    Checked.ok_bind, hfill]

end NeighborCache

end Smoltcp
