import Smoltcp.Iface.Interface
import Smoltcp.Lib.Prefix

/-!
# Longest prefix match

A block contains the addresses that agree with its address on its prefix, whichever way the mask is
computed. The routing table is searched for the longest prefix that matches, and holds at most one
default route of each version that was added as such.
-/

namespace Smoltcp

open BitVec (AgreeOn)

/-! ### Prefixes -/

/-- Two addresses of one version agree on their first `n` bits. -/
def IpAddress.SharesPrefix (n : ℕ) : IpAddress → IpAddress → Prop
  | .ipv4 a, .ipv4 b => AgreeOn n a b
  | .ipv6 a, .ipv6 b => AgreeOn n a b
  | _, _ => False

lemma Ipv4.Cidr.netmask_eq (cidr : Ipv4.Cidr) :
    cidr.netmask = BitVec.allOnes 32 <<< (32 - cidr.prefixLen) := by
  unfold netmask
  split_ifs with hzero
  · rw [hzero]
    rfl
  · rfl

lemma Ipv4.Cidr.containsAddr_iff (cidr : Ipv4.Cidr) (addr : Ipv4.Address) :
    cidr.containsAddr addr ↔ AgreeOn cidr.prefixLen cidr.address addr := by
  rw [containsAddr, netmask_eq]
  exact BitVec.and_mask_eq_iff cidr.prefixLen_le _ _

lemma append_singleton_append_inj {α : Type} {as bs rest : List α} {x y : α} :
    as ++ [x] ++ rest = bs ++ [y] ++ rest ↔ as = bs ∧ x = y := by
  simp [-List.append_assoc]

/-- The octets that a mask leaves are those of the prefix, and the first bits of the next one. -/
lemma Ipv6.mask_eq_iff {n : ℕ} (h : n ≤ 128) (a b : Ipv6.Address) :
    mask a n = mask b n ↔ AgreeOn n a b := by
  have htake : (octets a).take (n / 8) = (octets b).take (n / 8) ↔
      ∀ i < n / 8, Octets.get (octets a) i = Octets.get (octets b) i := by
    rw [List.ext_getElem_iff]
    have hlen : min (n / 8) 16 = n / 8 := by omega
    simp only [List.length_take, length_octets, hlen, true_and, List.getElem_take]
    refine forall_congr' fun i => ?_
    constructor
    · intro heq hi
      have := heq hi hi
      simpa [Octets.get, show i < 16 by omega] using this
    · intro heq hi _
      have := heq hi
      simpa [Octets.get, show i < 16 by omega] using this
  rw [Octets.agreeOn_iff_octets h]
  change _ ↔ (∀ i < n / 8, Octets.get (octets a) i = Octets.get (octets b) i) ∧
    AgreeOn (n % 8) (Octets.get (octets a) (n / 8)).toBitVec
      (Octets.get (octets b) (n / 8)).toBitVec
  rw [← htake, ← Octets.and_octetMask_eq_iff (by omega)]
  unfold mask
  by_cases hidx : n / 8 < 16
  · simp only [if_pos hidx, append_singleton_append_inj]
  · simp only [if_neg hidx]
    -- there is no octet behind the last one
    have hnone (addr : Address) : Octets.get (octets addr) (n / 8) = 0 := by
      rw [Octets.get, List.getElem?_eq_none (by rw [length_octets]; omega), Option.getD_none]
    rw [hnone a, hnone b, eq_self_iff_true, and_true]

lemma Ipv6.Cidr.containsAddr_iff (cidr : Ipv6.Cidr) (addr : Ipv6.Address) :
    cidr.containsAddr addr ↔ AgreeOn cidr.prefixLen cidr.address addr := by
  rw [containsAddr, mask_eq_iff cidr.prefixLen_le]
  constructor
  · rintro (hzero | h)
    · rw [hzero]
      nofun
    · exact h
  · exact .inr

/-- A block contains the addresses that have its prefix. -/
lemma IpCidr.containsAddr_iff (cidr : IpCidr) (addr : IpAddress) :
    cidr.containsAddr addr ↔ cidr.address.SharesPrefix cidr.prefixLen addr := by
  cases cidr with
  | ipv4 cidr =>
    cases addr with
    | ipv4 addr => exact cidr.containsAddr_iff addr
    | ipv6 addr => exact Iff.rfl
  | ipv6 cidr =>
    cases addr with
    | ipv4 addr => exact Iff.rfl
    | ipv6 addr => exact cidr.containsAddr_iff addr

/-! ### Default routes -/

inductive RouteTableFull where
  | routeTableFull
  deriving DecidableEq, Repr

def ipv4Default : IpCidr := .ipv4 ⟨0, 0, Nat.zero_le _⟩

def ipv6Default : IpCidr := .ipv6 ⟨0, 0, Nat.zero_le _⟩

namespace Route

/-- A route to 0.0.0.0/0 via the gateway, with no expiry. -/
def newIpv4Gateway (gateway : Ipv4.Address) : Route := ⟨ipv4Default, .ipv4 gateway, none, none⟩

/-- A route to ::/0 via the gateway, with no expiry. -/
def newIpv6Gateway (gateway : Ipv6.Address) : Route := ⟨ipv6Default, .ipv6 gateway, none, none⟩

end Route

/-- A routing table in a vector of fixed capacity. -/
structure RouteTable (maxRouteCount : ℕ) where
  routes : Routes
  length_le : routes.storage.length ≤ maxRouteCount

namespace RouteTable

variable {maxRouteCount : ℕ} (table : RouteTable maxRouteCount)

/-- Remove the first route to a block. -/
def removeDefault (default : IpCidr) : RouteTable maxRouteCount × Option Route :=
  match table.routes.storage.findIdx? fun route => route.cidr = default with
  | some i =>
    (⟨⟨table.routes.storage.eraseIdx i⟩,
      (List.length_eraseIdx_le _ _).trans table.length_le⟩, table.routes.storage[i]?)
  | none => (table, none)

/-- `storage.push(route)`, unless the vector is full. -/
def push (route : Route) : Option (RouteTable maxRouteCount) :=
  if h : table.routes.storage.length < maxRouteCount then
    some ⟨⟨table.routes.storage ++ [route]⟩, by rw [List.length_append]; exact h⟩
  else none

/-- Replace the first route to a block. The previous one is returned, if there is one. -/
def addDefault (default : IpCidr) (route : Route) :
    RouteTable maxRouteCount × Except RouteTableFull (Option Route) :=
  let (table, old) := table.removeDefault default
  match table.push route with
  | some table => (table, .ok old)
  | none => (table, .error .routeTableFull)

/-- Add a default ipv4 gateway. -/
def addDefaultIpv4Route (gateway : Ipv4.Address) :
    RouteTable maxRouteCount × Except RouteTableFull (Option Route) :=
  table.addDefault ipv4Default (.newIpv4Gateway gateway)

/-- Add a default ipv6 gateway. -/
def addDefaultIpv6Route (gateway : Ipv6.Address) :
    RouteTable maxRouteCount × Except RouteTableFull (Option Route) :=
  table.addDefault ipv6Default (.newIpv6Gateway gateway)

/-- A removal makes room. -/
lemma addDefault_error {table : RouteTable maxRouteCount} {default : IpCidr} {route : Route}
    {e : RouteTableFull} (h : (table.addDefault default route).2 = .error e) :
    (table.addDefault default route).1 = table := by
  unfold addDefault removeDefault at h ⊢
  cases hfind : table.routes.storage.findIdx? fun route => route.cidr = default with
  | some i =>
    obtain ⟨hlt, -⟩ := List.findIdx?_eq_some_iff_getElem.mp hfind
    have hroom : (table.routes.storage.eraseIdx i).length < maxRouteCount := by
      have := table.length_le
      rw [List.length_eraseIdx_of_lt hlt]
      omega
    rw [hfind] at h
    simp [push, hroom] at h
  | none =>
    rw [hfind] at h
    dsimp only at h ⊢
    cases hpush : table.push route with
    | some table' =>
      rw [hpush] at h
      cases h
    | none => rfl

end RouteTable

/-! ### Lookup -/

/-- The route has not expired at an instant, and the address has its prefix. -/
def Route.Applies (route : Route) (addr : IpAddress) (timestamp : Instant) : Prop :=
  (∀ expiresAt ∈ route.expiresAt, timestamp ≤ expiresAt) ∧
    route.cidr.address.SharesPrefix route.cidr.prefixLen addr

lemma Route.matching_iff (route : Route) (addr : IpAddress) (timestamp : Instant) :
    route.matching addr timestamp ↔ route.Applies addr timestamp := by
  rw [matching, Applies, IpCidr.containsAddr_iff]
  simp only [Int64.not_lt]

/-- The routes that a lookup picks one of. -/
lemma mem_matching (routes : Routes) {addr : IpAddress} {timestamp : Instant} {route : Route} :
    route ∈ (routes.storage.filter fun route => route.matching addr timestamp).reverse ↔
      route ∈ routes.storage ∧ route.Applies addr timestamp := by
  rw [List.mem_reverse, List.mem_filter, decide_eq_true_iff, Route.matching_iff]

/-- The router of a route that applies, none of the others having a longer prefix. -/
def Routes.IsLongest (routes : Routes) (addr : IpAddress) (timestamp : Instant)
    (router : IpAddress) : Prop :=
  ∃ route ∈ routes.storage, route.Applies addr timestamp ∧ route.viaRouter = router ∧
    ∀ other ∈ routes.storage, other.Applies addr timestamp →
      other.cidr.prefixLen ≤ route.cidr.prefixLen

/-- The lookup is a longest prefix match. -/
lemma Routes.lookup_spec (routes : Routes) {addr : IpAddress} (h : addr.isUnicast)
    (timestamp : Instant) : ∃ router, routes.lookup addr timestamp = .ok router ∧
      (∀ r ∈ router, routes.IsLongest addr timestamp r) ∧
      (router = none ↔ ∀ route ∈ routes.storage, ¬ route.Applies addr timestamp) := by
  rw [lookup, Checked.assert_of h, Checked.ok_bind]
  refine ⟨_, rfl, ?_, ?_⟩
  · intro r hr
    obtain ⟨route, hroute, rfl⟩ := Option.map_eq_some_iff.mp hr
    obtain ⟨hmem, hmatch⟩ := (mem_matching routes).mp (List.maxOn?_mem hroute)
    refine ⟨route, hmem, hmatch, rfl, ?_⟩
    intro other hother happlies
    have hle := List.le_apply_get_maxOn?_of_mem (f := fun route : Route => route.cidr.prefixLen)
      ((mem_matching routes).mpr ⟨hother, happlies⟩)
    simpa only [hroute, Option.get_some] using hle
  · rw [Option.map_eq_none_iff, ← Option.not_isSome_iff_eq_none, List.isSome_maxOn?_iff, not_not]
    constructor
    · intro hnil route hmem happlies
      have hin := (mem_matching routes).mpr ⟨hmem, happlies⟩
      rw [hnil] at hin
      cases hin
    · intro hnone
      refine List.eq_nil_iff_forall_not_mem.mpr fun route hin => ?_
      obtain ⟨hmem, happlies⟩ := (mem_matching routes).mp hin
      exact hnone route hmem happlies

/-! ### Routing -/

/-- The address has the prefix of a block of the interface. -/
def InterfaceInner.IsOnLink {cfg : IfaceConfig} (iface : InterfaceInner cfg) (addr : IpAddress) :
    Prop :=
  ∃ cidr ∈ iface.ipAddrs, cidr.address.SharesPrefix cidr.prefixLen addr

section Routing

variable {cfg : IfaceConfig} {iface : InterfaceInner cfg} {addr : IpAddress} {timestamp : Instant}
  {maxRouteCount : ℕ}

lemma InterfaceInner.inSameNetwork_iff : iface.inSameNetwork addr ↔ iface.IsOnLink addr := by
  simp only [inSameNetwork, IsOnLink, IpCidr.containsAddr_iff]

/-- Destinations that are not on the link are routed by the table. -/
lemma InterfaceInner.route_spec (iface : InterfaceInner cfg) (addr : IpAddress)
    (timestamp : Instant) :
    (iface.IsOnLink addr ∨ addr.isBroadcast → iface.route addr timestamp = .ok (some addr)) ∧
      (¬ (iface.IsOnLink addr ∨ addr.isBroadcast) →
        iface.route addr timestamp = iface.routes.lookup addr timestamp) := by
  rw [← inSameNetwork_iff, route]
  exact ⟨fun h => if_pos h, fun h => if_neg h⟩

/-- Blocks contain the addresses that have their prefix, the lookup is a longest prefix match, what
is not on the link is routed by it, and a table that is full stays as it is. -/
theorem InterfaceInner.route_longest (iface : InterfaceInner cfg) (addr : IpAddress)
    (timestamp : Instant) (table : RouteTable maxRouteCount) :
    (∀ (cidr : IpCidr) (other : IpAddress),
      cidr.containsAddr other ↔ cidr.address.SharesPrefix cidr.prefixLen other) ∧
    (addr.isUnicast → ∃ router, iface.routes.lookup addr timestamp = .ok router ∧
      (∀ r ∈ router, iface.routes.IsLongest addr timestamp r) ∧
      (router = none ↔ ∀ route ∈ iface.routes.storage, ¬ route.Applies addr timestamp)) ∧
    (iface.route addr timestamp = .ok (some addr) ↔
      addr.isBroadcast ∨ iface.IsOnLink addr ∨
        iface.routes.lookup addr timestamp = .ok (some addr)) ∧
    (∀ gateway e, (table.addDefaultIpv4Route gateway).2 = .error e →
      (table.addDefaultIpv4Route gateway).1 = table) ∧
    ∀ gateway e, (table.addDefaultIpv6Route gateway).2 = .error e →
      (table.addDefaultIpv6Route gateway).1 = table := by
  refine ⟨IpCidr.containsAddr_iff, fun h => iface.routes.lookup_spec h timestamp, ?_,
    fun _ _ => RouteTable.addDefault_error, fun _ _ => RouteTable.addDefault_error⟩
  obtain ⟨hdirect, htable⟩ := iface.route_spec addr timestamp
  by_cases hlink : iface.IsOnLink addr ∨ addr.isBroadcast
  · exact iff_of_true (hdirect hlink) (by tauto)
  · rw [htable hlink]
    tauto

/-- With the address 192.168.0.1/24 and a default route via 10.0.0.1, packets to 10.0.0.1 are sent
to 10.0.0.1, which is not on the link. -/
theorem InterfaceInner.route_self_off_link :
    ∃ (iface : InterfaceInner .default) (addr : IpAddress), addr.isUnicast ∧
      iface.route addr 0 = .ok (some addr) ∧ ¬ (addr.isBroadcast ∨ iface.IsOnLink addr) := by
  refine ⟨{ InterfaceInner.new 1514 {} (.ethernet 0x020000000001) 0 1 1 with
    ipAddrs := [.ipv4 ⟨0xc0a80001, 24, by decide⟩]
    routes := ⟨[.newIpv4Gateway 0x0a000001]⟩ }, .ipv4 0x0a000001, by decide,
    by decide, ?_⟩
  rw [← inSameNetwork_iff]
  decide

end Routing

end Smoltcp
