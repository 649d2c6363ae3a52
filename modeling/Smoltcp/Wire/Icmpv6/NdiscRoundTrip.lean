import Smoltcp.Wire.Fields
import Smoltcp.Wire.Icmpv6.Ndisc
import Smoltcp.Wire.IpRoundTrip

/-!
# Neighbor discovery messages parse back

The options are emitted one behind the other, each filled up to a multiple of 8 octets with what was
in the buffer. A link-layer address of 2 octets is read back with what follows it, and the option
that a redirect is emitted with is not the one that is read.
-/

namespace Smoltcp

open Octets (ofU16 ofU32)
open Outcome

/-! ### Emitting -/

/-- The number of whole seconds. -/
def Duration.secs (d : Duration) : UInt64 := d / 1000000

/-- `Packet::payload_mut().copy_from_slice(data)`. -/
def Ipv6Packet.copyPayload (buf data : List UInt8) : Outcome (List UInt8) := do
  copyAt buf ipv6HeaderLen (← totalLen buf) data

namespace NdiscOption

def Kind.toByte : Kind → UInt8
  | .sourceLinkLayerAddr => 0x1
  | .targetLinkLayerAddr => 0x2
  | .prefixInformation => 0x3
  | .redirectedHeader => 0x4
  | .mtu => 0x5
  | .unknown value => value

variable (buf : List UInt8)

def setOptionType (value : Kind) : Outcome (List UInt8) := write buf 0 [value.toByte]

def setDataLen (value : UInt8) : Outcome (List UInt8) := write buf 1 [value]

def setLinkLayerAddr (addr : RawHardwareAddress) : Outcome (List UInt8) := write buf 2 addr.octets

end NdiscOption

def NdiscPrefixInformation.flags (info : NdiscPrefixInformation) : UInt8 :=
  (if info.onLink then 0b10000000 else 0) ||| (if info.addrconf then 0b01000000 else 0)

namespace NdiscOptionRepr

open NdiscOption

/-- The length field of an option, in units of 8 octets. -/
def units (len : ℕ) : UInt8 := .ofNat ((len + 7) / 8)

/-- Emit an option. -/
def emit : NdiscOptionRepr → List UInt8 → Outcome (List UInt8)
  | .sourceLinkLayerAddr addr, buf => do
    let buf ← setOptionType buf .sourceLinkLayerAddr
    let buf ← setDataLen buf (units (addr.len + 2))
    setLinkLayerAddr buf addr
  | .targetLinkLayerAddr addr, buf => do
    let buf ← setOptionType buf .targetLinkLayerAddr
    let buf ← setDataLen buf (units (addr.len + 2))
    setLinkLayerAddr buf addr
  | .prefixInformation info, buf => do
    let buf ← write buf 12 (ofU32 0)
    let buf ← setOptionType buf .prefixInformation
    let buf ← setDataLen buf 4
    let buf ← write buf 2 [info.prefixLen]
    let buf ← write buf 3 [info.flags]
    let buf ← write buf 4 (ofU32 (.ofNat 32 info.validLifetime.secs.toNat))
    let buf ← write buf 8 (ofU32 (.ofNat 32 info.preferredLifetime.secs.toNat))
    write buf 16 (Ipv6.octets info.addr)
  | .redirectedHeader redirected, buf => do
    let buf ← write buf 2 (List.replicate 6 0)
    let buf ← setOptionType buf .redirectedHeader
    let buf ← setDataLen buf (units (8 + redirected.header.bufferLen + redirected.data.length))
    let packet ← sliceFrom (← data buf) 6
    let packet ← redirected.header.emit packet
    let packet ← Ipv6Packet.copyPayload packet redirected.data
    write buf 8 packet
  | .mtu value, buf => do
    let buf ← setOptionType buf .mtu
    let buf ← setDataLen buf 1
    write buf 4 (ofU32 value)
  | .unknown type length octets, buf => do
    let buf ← setOptionType buf (.unknown type)
    let buf ← setDataLen buf length
    copyAt buf 2 (length.toNat * 8) octets

end NdiscOptionRepr

def NeighborFlags.toByte (flags : NeighborFlags) : UInt8 :=
  (if flags.router then 0b10000000 else 0) ||| (if flags.solicited then 0b01000000 else 0) |||
    (if flags.override then 0b00100000 else 0)

namespace NdiscRepr

open Icmpv6 Icmpv6Packet

section Setters

variable (buf : List UInt8)

def routerFlags (managed other : Bool) : UInt8 :=
  (if managed then 0b10000000 else 0) ||| (if other then 0b01000000 else 0)

/-- Emit an option into the type-specific data from an offset on. -/
def emitOption (offset : ℕ) (opt : NdiscOptionRepr) : Outcome (List UInt8) := do
  let start ← headerLen buf
  let pkt ← sliceFrom (← sliceFrom buf start) offset
  write buf (start + offset) (← opt.emit pkt)

/-- Emit an option that may be there, and go on behind it. -/
def emitSome (offset : ℕ) : Option NdiscOptionRepr → Outcome (List UInt8 × ℕ)
  | some opt => do return (← emitOption buf offset opt, offset + opt.bufferLen)
  | none => .ok (buf, offset)

end Setters

/-- Emit a message of neighbor discovery. -/
def emit (repr : NdiscRepr) (buf : List UInt8) : Outcome (List UInt8) :=
  match repr with
  | .routerSolicit lladdr => do
    let buf ← setMsgType buf .routerSolicit
    let buf ← setMsgCode buf 0
    let buf ← clearReserved buf
    let (buf, _) ← emitSome buf 0 (lladdr.map .sourceLinkLayerAddr)
    return buf
  | .routerAdvert hopLimit managed other routerLifetime reachableTime retransTime lladdr mtu
      prefixInfo => do
    let buf ← setMsgType buf .routerAdvert
    let buf ← setMsgCode buf 0
    let buf ← write buf 4 [hopLimit]
    let buf ← write buf 5 [routerFlags managed other]
    let buf ← write buf 6 (ofU16 routerLifetime.secs.toUInt16)
    let buf ← write buf 8 (ofU32 (.ofNat 32 reachableTime.totalMillis.toNat))
    let buf ← write buf 12 (ofU32 (.ofNat 32 retransTime.totalMillis.toNat))
    let (buf, offset) ← emitSome buf 0 (lladdr.map .sourceLinkLayerAddr)
    let (buf, offset) ← emitSome buf offset (mtu.map .mtu)
    let (buf, _) ← emitSome buf offset (prefixInfo.map .prefixInformation)
    return buf
  | .neighborSolicit targetAddr lladdr => do
    let buf ← setMsgType buf .neighborSolicit
    let buf ← setMsgCode buf 0
    let buf ← clearReserved buf
    let buf ← write buf 8 (Ipv6.octets targetAddr)
    let (buf, _) ← emitSome buf 0 (lladdr.map .sourceLinkLayerAddr)
    return buf
  | .neighborAdvert flags targetAddr lladdr => do
    let buf ← setMsgType buf .neighborAdvert
    let buf ← setMsgCode buf 0
    let buf ← clearReserved buf
    let buf ← write buf 4 [flags.toByte]
    let buf ← write buf 8 (Ipv6.octets targetAddr)
    let (buf, _) ← emitSome buf 0 (lladdr.map .targetLinkLayerAddr)
    return buf
  | .redirect targetAddr destAddr lladdr redirectedHdr => do
    let buf ← setMsgType buf .redirect
    let buf ← setMsgCode buf 0
    let buf ← clearReserved buf
    let buf ← write buf 8 (Ipv6.octets targetAddr)
    let buf ← write buf 24 (Ipv6.octets destAddr)
    let (buf, offset) ← emitSome buf 0 (lladdr.map .targetLinkLayerAddr)
    let (buf, _) ← emitSome buf offset (redirectedHdr.map .redirectedHeader)
    return buf

end NdiscRepr

/-! ### What the fields hold -/

/-- A whole number of seconds that fits in so many bits. -/
def Duration.FitsSecs (bits : ℕ) (d : Duration) : Prop := ∃ n < 2 ^ bits, d = fromSecs (.ofNat n)

/-- A whole number of milliseconds that fits in so many bits. -/
def Duration.FitsMillis (bits : ℕ) (d : Duration) : Prop :=
  ∃ n < 2 ^ bits, d = fromMillis (.ofNat n)

/-- An address of a medium that is enabled: a short one, an Ethernet address, or an extended one. -/
structure RawHardwareAddress.Supported (cfg : HardwareConfig) (addr : RawHardwareAddress) :
    Prop where
  len_eq : addr.len = 2 ∨ addr.len = 6 ∨ addr.len = 8
  len_le : addr.len ≤ cfg.maxHardwareAddressLen

structure NdiscPrefixInformation.Fits (info : NdiscPrefixInformation) : Prop where
  valid : info.validLifetime.FitsSecs 32
  preferred : info.preferredLifetime.FitsSecs 32

/-- A protocol that is not the number of another one. -/
def IpProtocol.IsCanonical (protocol : IpProtocol) : Prop := .ofByte protocol.toByte = protocol

namespace NdiscRepr

/-- The values of a message fit their fields. -/
def Fits (cfg : HardwareConfig) : NdiscRepr → Prop
  | .routerSolicit lladdr => ∀ addr ∈ lladdr, addr.Supported cfg
  | .routerAdvert _ _ _ routerLifetime reachableTime retransTime lladdr _ prefixInfo =>
    routerLifetime.FitsSecs 16 ∧ reachableTime.FitsMillis 32 ∧ retransTime.FitsMillis 32 ∧
      (∀ addr ∈ lladdr, addr.Supported cfg) ∧ ∀ info ∈ prefixInfo, info.Fits
  | .neighborSolicit _ lladdr => ∀ addr ∈ lladdr, addr.Supported cfg
  | .neighborAdvert _ _ lladdr => ∀ addr ∈ lladdr, addr.Supported cfg
  | .redirect _ _ lladdr redirectedHdr =>
    (∀ addr ∈ lladdr, addr.Supported cfg) ∧
      ∀ redirected ∈ redirectedHdr, redirected.data.length = redirected.header.payloadLen

/-- What it takes for a message to parse back. -/
def ParsesBack : NdiscRepr → Prop
  | .routerSolicit lladdr => ∀ addr ∈ lladdr, addr.len ≠ 2
  | .routerAdvert _ _ _ _ _ _ lladdr _ _ => ∀ addr ∈ lladdr, addr.len ≠ 2
  | .neighborSolicit _ lladdr => ∀ addr ∈ lladdr, addr.len ≠ 2
  | .neighborAdvert _ _ lladdr => ∀ addr ∈ lladdr, addr.len ≠ 2
  | .redirect _ _ lladdr redirectedHdr =>
    lladdr = none ∧ ∀ redirected ∈ redirectedHdr,
      redirected.data.length ≤ 1992 ∧ redirected.header.nextHeader.IsCanonical

end NdiscRepr

/-! ### Durations and flags -/

namespace Duration

variable {bits : ℕ} {d : Duration}

lemma toNat_fromSecs {n : ℕ} (h : n < 2 ^ 32) :
    (fromSecs (.ofNat n)).toNat = n * 1000000 := by
  rw [fromSecs, UInt64.toNat_mul, UInt64.toNat_ofNat']
  change n % 2 ^ 64 * 1000000 % 2 ^ 64 = _
  omega

lemma toNat_fromMillis {n : ℕ} (h : n < 2 ^ 32) : (fromMillis (.ofNat n)).toNat = n * 1000 := by
  rw [fromMillis, UInt64.toNat_mul, UInt64.toNat_ofNat']
  change n % 2 ^ 64 * 1000 % 2 ^ 64 = _
  omega

lemma FitsSecs.secs (h : d.FitsSecs bits) (hbits : bits ≤ 32) :
    d.secs.toNat < 2 ^ bits ∧ fromSecs (.ofNat d.secs.toNat) = d := by
  obtain ⟨n, hn, rfl⟩ := h
  have hlt : n < 2 ^ 32 := lt_of_lt_of_le hn (Nat.pow_le_pow_right two_pos hbits)
  have hsecs : (fromSecs (.ofNat n)).secs.toNat = n := by
    rw [Duration.secs, UInt64.toNat_div, toNat_fromSecs hlt]
    exact Nat.mul_div_cancel n (by decide)
  rw [hsecs]
  exact ⟨hn, rfl⟩

lemma FitsMillis.totalMillis (h : d.FitsMillis bits) (hbits : bits ≤ 32) :
    d.totalMillis.toNat < 2 ^ bits ∧ fromMillis (.ofNat d.totalMillis.toNat) = d := by
  obtain ⟨n, hn, rfl⟩ := h
  have hlt : n < 2 ^ 32 := lt_of_lt_of_le hn (Nat.pow_le_pow_right two_pos hbits)
  have hmillis : (fromMillis (.ofNat n)).totalMillis.toNat = n := by
    rw [Duration.totalMillis, UInt64.toNat_div, toNat_fromMillis hlt]
    exact Nat.mul_div_cancel n (by decide)
  rw [hmillis]
  exact ⟨hn, rfl⟩

/-- Seconds that are written in 16 bits. -/
lemma FitsSecs.read16 (h : d.FitsSecs 16) : fromSecs d.secs.toUInt16.toUInt64 = d := by
  obtain ⟨hlt, hd⟩ := h.secs (by decide)
  have hsecs : d.secs.toUInt16.toUInt64 = .ofNat d.secs.toNat := by
    apply UInt64.toNat_inj.mp
    rw [UInt16.toNat_toUInt64, UInt64.toNat_toUInt16, UInt64.toNat_ofNat']
    omega
  rw [hsecs, hd]

/-- Seconds that are written in 32 bits. -/
lemma FitsSecs.read32 (h : d.FitsSecs 32) :
    fromSecs (.ofNat (BitVec.ofNat 32 d.secs.toNat).toNat) = d := by
  obtain ⟨hlt, hd⟩ := h.secs le_rfl
  rw [BitVec.toNat_ofNat, Nat.mod_eq_of_lt hlt, hd]

lemma FitsMillis.read32 (h : d.FitsMillis 32) :
    fromMillis (.ofNat (BitVec.ofNat 32 d.totalMillis.toNat).toNat) = d := by
  obtain ⟨hlt, hd⟩ := h.totalMillis le_rfl
  rw [BitVec.toNat_ofNat, Nat.mod_eq_of_lt hlt, hd]

end Duration

lemma NdiscPrefixInformation.flags_eq (info : NdiscPrefixInformation) :
    decide (info.flags &&& 0b10000000 ≠ 0) = info.onLink ∧
      decide (info.flags &&& 0b01000000 ≠ 0) = info.addrconf := by
  rw [flags]
  cases info.onLink <;> cases info.addrconf <;> decide

lemma NdiscRepr.routerFlags_eq (managed other : Bool) :
    decide (routerFlags managed other &&& 0b10000000 ≠ 0) = managed ∧
      decide (routerFlags managed other &&& 0b01000000 ≠ 0) = other := by
  cases managed <;> cases other <;> decide

lemma NeighborFlags.ofByte_toByte (flags : NeighborFlags) : ofByte flags.toByte = flags := by
  obtain ⟨router, solicited, override⟩ := flags
  cases router <;> cases solicited <;> cases override <;> decide

/-! ### The header of an IPv6 packet -/

/-- A header that was written has taken no room. -/
lemma Ipv6Repr.length_of_emit {repr : Ipv6Repr} {buf out : List UInt8}
    (h : repr.emit buf = .ok out) : out.length = buf.length := by
  obtain ⟨buf₁, hversion, h⟩ := bind_eq_ok.mp h
  obtain ⟨buf₂, hclass, h⟩ := bind_eq_ok.mp h
  obtain ⟨buf₃, hflow, h⟩ := bind_eq_ok.mp h
  obtain ⟨buf₄, hlength, h⟩ := bind_eq_ok.mp h
  obtain ⟨buf₅, hhop, h⟩ := bind_eq_ok.mp h
  obtain ⟨buf₆, hnext, h⟩ := bind_eq_ok.mp h
  obtain ⟨buf₇, hsrc, hdst⟩ := bind_eq_ok.mp h
  obtain ⟨first, -, hversion⟩ := bind_eq_ok.mp hversion
  obtain ⟨first, -, hclass⟩ := bind_eq_ok.mp hclass
  obtain ⟨half, hfirst, hclass⟩ := bind_eq_ok.mp hclass
  obtain ⟨second, -, hsecond⟩ := bind_eq_ok.mp hclass
  obtain ⟨second, -, hflow⟩ := bind_eq_ok.mp hflow
  rw [length_of_write hdst, length_of_write hsrc, length_of_write hnext, length_of_write hhop,
    length_of_write hlength, length_of_write hflow, length_of_write hsecond,
    length_of_write hfirst, length_of_write hversion]

/-! ### One option -/

lemma Icmpv6Packet.addressAt_parts {parts : List (List UInt8)} {rest : List UInt8} {n : ℕ} (k : ℕ)
    {addr : Ipv6.Address} (hk : parts[k]? = some (Ipv6.octets addr))
    (hn : ((parts.map List.length).take k).sum = n) :
    addressAt (parts.flatten ++ rest) n = .ok addr := by
  rw [addressAt, slice_parts k hk hn (by rw [Ipv6.length_octets]), ok_bind, Ipv6.fromBytes,
    copyFromSlice_of (by rw [Ipv6.length_octets, List.length_replicate]), ok_bind, Ipv6.octets,
    Octets.toU128_ofU128]
  rfl

namespace NdiscOption

/-- Octets that begin with an option, whatever is behind them. -/
structure Begins (enc : List UInt8) (kind : Kind) (units : UInt8) : Prop where
  optionType : ∀ rest, optionType (enc ++ rest) = .ok kind
  dataLen : ∀ rest, dataLen (enc ++ rest) = .ok units
  length_eq : units.toNat * 8 = enc.length
  pos : 1 ≤ units.toNat
  minLen_le : kind.minLen ≤ enc.length

namespace Begins

variable {enc : List UInt8} {kind : Kind} {units : UInt8}

lemma of_cons {b : UInt8} {body : List UInt8} (hkind : Kind.ofByte b = kind)
    (hlen : units.toNat * 8 = body.length + 2) (hmin : kind.minLen ≤ body.length + 2) :
    Begins (b :: units :: body) kind units := by
  refine ⟨fun rest => ?_, fun rest => ?_, hlen, by omega, hmin⟩
  · rw [NdiscOption.optionType, index_of (a := b) rfl, ok_bind, hkind]
    rfl
  · exact index_of rfl

lemma checkLen (h : Begins enc kind units) (rest : List UInt8) :
    checkLen (enc ++ rest) = .ok () := by
  have hlen := h.length_eq
  have hpos := h.pos
  have hmin := h.minLen_le
  rw [NdiscOption.checkLen, if_neg (by rw [List.length_append, minOptLen]; omega), h.dataLen,
    ok_bind]
  dsimp only
  rw [reject_of_not (by rw [List.length_append]; omega), ok_bind, h.optionType, ok_bind,
    reject_of_not (by omega)]

lemma newChecked (h : Begins enc kind units) (rest : List UInt8) :
    newChecked (enc ++ rest) = .ok () := by
  have hpos := h.pos
  rw [NdiscOption.newChecked, h.checkLen, ok_bind, h.dataLen, ok_bind, reject_of_not]
  rintro rfl
  exact absurd hpos (by decide)

end Begins

end NdiscOption

namespace NdiscOptionRepr

open NdiscOption

variable {cfg : HardwareConfig}

/-- Octets that an option is parsed from, whatever is behind them. -/
structure Encodes (cfg : HardwareConfig) (enc : List UInt8) (opt : NdiscOptionRepr) : Prop where
  begins : ∃ kind units, Begins enc kind units
  parse : ∀ rest, parse cfg (enc ++ rest) = .ok opt

/-- What an option is read back as. -/
inductive ReadsAs : NdiscOptionRepr → NdiscOptionRepr → Prop
  | sourceLinkLayerAddr {addr addr' : RawHardwareAddress} (h : addr' = addr ↔ addr.len ≠ 2) :
      ReadsAs (.sourceLinkLayerAddr addr) (.sourceLinkLayerAddr addr')
  | targetLinkLayerAddr {addr addr' : RawHardwareAddress} (h : addr' = addr ↔ addr.len ≠ 2) :
      ReadsAs (.targetLinkLayerAddr addr) (.targetLinkLayerAddr addr')
  | prefixInformation (info : NdiscPrefixInformation) :
      ReadsAs (.prefixInformation info) (.prefixInformation info)
  | redirectedHeader {redirected redirected' : NdiscRedirectedHeader}
      (h : redirected' = redirected ↔ redirected.header.nextHeader.IsCanonical) :
      ReadsAs (.redirectedHeader redirected) (.redirectedHeader redirected')
  | mtu (value : BitVec 32) : ReadsAs (.mtu value) (.mtu value)

/-- What an option is emitted as, and read back as. -/
structure Emits (cfg : HardwareConfig) (opt : NdiscOptionRepr) (buf rest enc : List UInt8)
    (opt' : NdiscOptionRepr) : Prop where
  emit : opt.emit (buf ++ rest) = .ok (enc ++ rest)
  length_eq : enc.length = buf.length
  encodes : Encodes cfg enc opt'
  readsAs : ReadsAs opt opt'

lemma toNat_units {len : ℕ} (h : len ≤ 2040) : (units len).toNat = (len + 7) / 8 := by
  rw [units, UInt8.toNat_ofNat', Nat.mod_eq_of_lt (by omega)]

/-! #### Link-layer addresses -/

/-- An address is written behind the type and the length. -/
lemma emit_addr {kind : Kind} {addr : RawHardwareAddress} {buf : List UInt8}
    (hbuf : 2 + addr.len ≤ buf.length) (rest : List UInt8) : (do
      let buf ← setOptionType (buf ++ rest) kind
      let buf ← setDataLen buf (units (addr.len + 2))
      setLinkLayerAddr buf addr) =
    .ok (kind.toByte :: units (addr.len + 2) :: addr.octets ++ buf.drop (2 + addr.len) ++
      rest) := by
  obtain ⟨parts, pad, hparts, rfl⟩ := List.exists_parts [1, 1, addr.len] (l := buf)
    (by simp only [List.sum_cons, List.sum_nil]; omega)
  simp only [List.map_eq_cons_iff, List.map_eq_nil_iff] at hparts
  obtain ⟨p, _, rfl, hp, q, _, rfl, hq, r, _, rfl, hr, rfl⟩ := hparts
  have hlen : [p, q, r].flatten.length = 2 + addr.len := by
    simp only [List.length_flatten, List.map_cons, List.map_nil, List.sum_cons, List.sum_nil]
    omega
  unfold setOptionType setDataLen setLinkLayerAddr
  rw [List.append_assoc, write_parts 0 (by simp [hp]) (by rfl), ok_bind,
    write_parts 1 (by simp [hq]) (by simp), ok_bind,
    write_parts 2 (by simp only [List.set, List.map_cons, hr]; rfl) (by simp),
    List.drop_left' hlen]
  simp

/-- An address that is read with what follows it. -/
lemma exists_linkLayerAddr {addr : RawHardwareAddress} (h : addr.Supported cfg) {b : UInt8}
    {pad : List UInt8} (hpad : 2 + addr.len + pad.length = addrLen addr) :
    ∃ addr', (∀ rest, linkLayerAddr
        (b :: units (addr.len + 2) :: addr.octets ++ pad ++ rest) cfg = .ok addr') ∧
      (addr' = addr ↔ addr.len ≠ 2) := by
  obtain ⟨hlen, hle⟩ := h
  have hmax := cfg.len_le
  have hunits : (units (addr.len + 2)).toNat * 8 = addrLen addr := by
    rw [toNat_units (by omega), addrLen, Nat.add_comm addr.len]
  generalize hn : min cfg.maxHardwareAddressLen (addrLen addr - 2) = n
  have hn' : n = addr.len ∧ addr.len ≠ 2 ∨ n = 6 ∧ addr.len = 2 := by
    rw [addrLen] at hn
    omega
  have hroom : n ≤ (addr.octets ++ pad).length := by
    have : addr.octets.length = addr.len := rfl
    rw [List.length_append, ← hn]
    omega
  refine ⟨⟨(addr.octets ++ pad).take n⟩, fun rest => ?_, ?_⟩
  · have hdata : dataLen (b :: units (addr.len + 2) :: addr.octets ++ pad ++ rest) =
        .ok (units (addr.len + 2)) := index_of rfl
    have hslice : slice (b :: units (addr.len + 2) :: addr.octets ++ pad ++ rest) 2 (n + 2) =
        .ok ((addr.octets ++ pad).take n) := by
      have hsplit : b :: units (addr.len + 2) :: addr.octets ++ pad ++ rest =
          [b, units (addr.len + 2)] ++ (addr.octets ++ pad).take n ++
            ((addr.octets ++ pad).drop n ++ rest) := by
        have htake := List.take_append_drop n (addr.octets ++ pad)
        rw [List.append_assoc [b, units (addr.len + 2)], ← List.append_assoc (List.take n _),
          htake]
        rfl
      rw [hsplit, slice_append (by rfl) (by rw [List.length_take_of_le hroom, Nat.add_comm])]
    rw [linkLayerAddr, hdata, ok_bind, hunits, sub_of_le (by rw [addrLen]; omega), ok_bind, hn,
      hslice]
    rfl
  · obtain ⟨rfl, hne⟩ | ⟨rfl, htwo⟩ := hn'
    · refine iff_of_true ?_ hne
      rw [RawHardwareAddress.len, List.take_left' rfl]
    · refine iff_of_false (fun heq => ?_) (not_not.mpr htwo)
      have hsix := congrArg RawHardwareAddress.len heq
      rw [RawHardwareAddress.len, List.length_take_of_le hroom] at hsix
      omega

/-- The octets of an option of a link-layer address. -/
lemma begins_addr {kind : Kind} (hkind : Kind.ofByte kind.toByte = kind) (hmin : kind.minLen = 0)
    {addr : RawHardwareAddress} (h : addr.Supported cfg) {pad : List UInt8}
    (hpad : 2 + addr.len + pad.length = addrLen addr) :
    Begins (kind.toByte :: units (addr.len + 2) :: addr.octets ++ pad) kind
      (units (addr.len + 2)) := by
  have hlen := h.len_eq
  have hoctets : (addr.octets ++ pad).length + 2 = addrLen addr := by
    rw [List.length_append, ← hpad, RawHardwareAddress.len]
    omega
  refine .of_cons hkind ?_ ?_
  · change _ = (addr.octets ++ pad).length + 2
    rw [hoctets, toNat_units (by omega), addrLen, Nat.add_comm addr.len]
  · rw [hmin]
    exact Nat.zero_le _

lemma one_le_units {len : ℕ} (hpos : 1 ≤ len) (hlen : len ≤ 2040) : 1 ≤ units len := by
  have := toNat_units hlen
  rw [UInt8.le_iff_toNat_le]
  change 1 ≤ _
  omega

/-- The two options of a link-layer address differ in their type only. -/
lemma exists_emits_addr {kind : Kind} (option : RawHardwareAddress → NdiscOptionRepr)
    (hkind : Kind.ofByte kind.toByte = kind) (hmin : kind.minLen = 0)
    (hemit : ∀ addr buf, (option addr).emit buf = do
      let buf ← setOptionType buf kind
      let buf ← setDataLen buf (units (addr.len + 2))
      setLinkLayerAddr buf addr)
    (hparse : ∀ {enc u}, Begins enc kind u → 1 ≤ u → ∀ rest, parse cfg (enc ++ rest) = do
      return option (← linkLayerAddr (enc ++ rest) cfg))
    (hreads : ∀ {addr addr'}, (addr' = addr ↔ addr.len ≠ 2) → ReadsAs (option addr) (option addr'))
    {addr : RawHardwareAddress} (h : addr.Supported cfg) {buf : List UInt8}
    (hbuf : buf.length = addrLen addr) (rest : List UInt8) :
    ∃ enc opt', Emits cfg (option addr) buf rest enc opt' := by
  have hlen := h.len_eq
  have hle : 2 + addr.len ≤ buf.length := by
    rw [hbuf, addrLen]
    omega
  have hpad : 2 + addr.len + (buf.drop (2 + addr.len)).length = addrLen addr := by
    rw [List.length_drop]
    omega
  have hbegins := begins_addr hkind hmin h hpad
  obtain ⟨addr', hread, hiff⟩ := exists_linkLayerAddr h (b := kind.toByte) hpad
  refine ⟨_, option addr', ?_, ?_, ⟨⟨kind, _, hbegins⟩, fun rest => ?_⟩, hreads hiff⟩
  · rw [hemit, emit_addr hle rest]
  · rw [hbuf, ← hpad, List.length_append, List.length_cons, List.length_cons,
      RawHardwareAddress.len]
    omega
  · rw [hparse hbegins (one_le_units (by omega) (by omega)), hread]
    rfl

lemma exists_emits_sourceLinkLayerAddr {addr : RawHardwareAddress} (h : addr.Supported cfg)
    {buf : List UInt8} (hbuf : buf.length = addrLen addr) (rest : List UInt8) :
    ∃ enc opt', Emits cfg (.sourceLinkLayerAddr addr) buf rest enc opt' := by
  refine exists_emits_addr .sourceLinkLayerAddr rfl rfl (fun _ _ => rfl) ?_
    .sourceLinkLayerAddr h hbuf rest
  intro enc u hbegins hu rest
  rw [parse, hbegins.checkLen, ok_bind, hbegins.dataLen, ok_bind, hbegins.optionType, ok_bind]
  exact if_pos hu

lemma exists_emits_targetLinkLayerAddr {addr : RawHardwareAddress} (h : addr.Supported cfg)
    {buf : List UInt8} (hbuf : buf.length = addrLen addr) (rest : List UInt8) :
    ∃ enc opt', Emits cfg (.targetLinkLayerAddr addr) buf rest enc opt' := by
  refine exists_emits_addr .targetLinkLayerAddr rfl rfl (fun _ _ => rfl) ?_
    .targetLinkLayerAddr h hbuf rest
  intro enc u hbegins hu rest
  rw [parse, hbegins.checkLen, ok_bind, hbegins.dataLen, ok_bind, hbegins.optionType, ok_bind]
  exact if_pos hu

/-! #### Numbers and prefixes -/

lemma exists_emits_mtu (value : BitVec 32) {buf : List UInt8} (hbuf : buf.length = 8)
    (rest : List UInt8) : ∃ enc opt', Emits cfg (.mtu value) buf rest enc opt' := by
  obtain ⟨parts, pad, hparts, rfl⟩ := List.exists_parts [1, 1, 2, 4] (l := buf)
    (by simp [hbuf])
  simp only [List.map_eq_cons_iff, List.map_eq_nil_iff] at hparts
  obtain ⟨a, _, rfl, ha, b, _, rfl, hb, c, _, rfl, hc, d, _, rfl, hd, rfl⟩ := hparts
  have hpad : pad = [] := by
    apply List.eq_nil_of_length_eq_zero
    simp only [List.length_append, List.length_flatten, List.map_cons, List.map_nil, List.sum_cons,
      List.sum_nil] at hbuf
    omega
  have hbegins : Begins (0x5 :: 1 :: (c ++ ofU32 value)) .mtu 1 :=
    .of_cons rfl (by simp [hc]) (Nat.zero_le _)
  have henc : ∀ rest : List UInt8, 0x5 :: 1 :: (c ++ ofU32 value) ++ rest =
      [[0x5], [1], c, ofU32 value].flatten ++ rest := by
    intro rest
    simp
  refine ⟨_, .mtu value, ?_, ?_, ⟨⟨_, _, hbegins⟩, fun rest => ?_⟩, .mtu value⟩
  · rw [henc, hpad, List.append_nil, emit, setOptionType, write_parts 0 (by simp [ha]) (by rfl),
      ok_bind, setDataLen, write_parts 1 (by simp [hb]) (by simp), ok_bind,
      write_parts 3 (by simp [hd]) (by simp [hc])]
    rfl
  · rw [hbuf]
    simp [hc]
  · have hread : readU32 (0x5 :: 1 :: (c ++ ofU32 value) ++ rest) 4 = .ok value := by
      rw [henc]
      exact readU32_parts 3 rfl (by simp [hc])
    rw [parse, hbegins.checkLen, ok_bind, hbegins.dataLen, ok_bind, hbegins.optionType, ok_bind]
    dsimp only
    rw [if_pos rfl, hread]
    rfl

lemma exists_emits_prefixInformation {info : NdiscPrefixInformation} (h : info.Fits)
    {buf : List UInt8} (hbuf : buf.length = 32) (rest : List UInt8) :
    ∃ enc opt', Emits cfg (.prefixInformation info) buf rest enc opt' := by
  obtain ⟨parts, pad, hparts, rfl⟩ := List.exists_parts [1, 1, 1, 1, 4, 4, 4, 16] (l := buf)
    (by simp [hbuf])
  simp only [List.map_eq_cons_iff, List.map_eq_nil_iff] at hparts
  obtain ⟨a, _, rfl, ha, b, _, rfl, hb, c, _, rfl, hc, d, _, rfl, hd, e, _, rfl, he, f, _, rfl, hf,
    g, _, rfl, hg, p, _, rfl, hp, rfl⟩ := hparts
  have hpad : pad = [] := by
    apply List.eq_nil_of_length_eq_zero
    simp only [List.length_append, List.length_flatten, List.map_cons, List.map_nil, List.sum_cons,
      List.sum_nil] at hbuf
    omega
  generalize hvalid : BitVec.ofNat 32 info.validLifetime.secs.toNat = valid
  generalize hpreferred : BitVec.ofNat 32 info.preferredLifetime.secs.toNat = preferred
  generalize henc : [[0x3], [4], [info.prefixLen], [info.flags], ofU32 valid, ofU32 preferred,
    ofU32 0, Ipv6.octets info.addr] = fields
  have hbegins : Begins fields.flatten .prefixInformation 4 := by
    rw [← henc]
    exact .of_cons rfl (by simp) (by simp [Kind.minLen])
  have hsizes : fields.map List.length = [1, 1, 1, 1, 4, 4, 4, 16] := by
    rw [← henc]
    simp
  refine ⟨fields.flatten, .prefixInformation info, ?_, ?_, ⟨⟨_, _, hbegins⟩, fun rest => ?_⟩,
    .prefixInformation info⟩
  · rw [hpad, List.append_nil, emit, write_parts 6 (by simp [hg]) (by simp [*]), ok_bind,
      setOptionType, write_parts 0 (by simp [ha]) (by rfl), ok_bind, setDataLen,
      write_parts 1 (by simp [hb]) (by simp), ok_bind, write_parts 2 (by simp [hc]) (by simp),
      ok_bind, write_parts 3 (by simp [hd]) (by simp), ok_bind,
      write_parts 4 (by simp [he]) (by simp), ok_bind, write_parts 5 (by simp [hf]) (by simp),
      ok_bind, write_parts 7 (by simp [hp]) (by simp), hvalid, hpreferred, ← henc]
    rfl
  · rw [List.length_flatten, hsizes, hbuf]
    rfl
  · have hprefix : Icmpv6Packet.addressAt (fields.flatten ++ rest) 16 = .ok info.addr := by
      exact Icmpv6Packet.addressAt_parts 7 (by rw [← henc]; rfl) (by rw [hsizes]; rfl)
    rw [parse, hbegins.checkLen, ok_bind, hbegins.dataLen, ok_bind, hbegins.optionType, ok_bind]
    dsimp only
    rw [if_pos rfl, index_parts 3 (by rw [← henc]; rfl) (by rw [hsizes]; rfl), ok_bind,
      readU32_parts 4 (by rw [← henc]; rfl) (by rw [hsizes]; rfl), ok_bind,
      readU32_parts 5 (by rw [← henc]; rfl) (by rw [hsizes]; rfl), ok_bind,
      index_parts 2 (by rw [← henc]; rfl) (by rw [hsizes]; rfl), ok_bind, hprefix, ok_bind,
      ← hvalid, ← hpreferred, h.valid.read32, h.preferred.read32, info.flags_eq.1, info.flags_eq.2]
    rfl

/-! #### Redirected headers -/

/-- The headers that are read back as they are. -/
lemma redirected_eq_iff (redirected : NdiscRedirectedHeader) :
    (⟨{ redirected.header with
        nextHeader := .ofByte redirected.header.nextHeader.toByte }, redirected.data⟩ :
      NdiscRedirectedHeader) = redirected ↔ redirected.header.nextHeader.IsCanonical := by
  obtain ⟨⟨src, dst, nextHeader, payloadLen, hopLimit⟩, octets⟩ := redirected
  simp [IpProtocol.IsCanonical]

/-- A header with its payload is written into a buffer with room for more. -/
lemma emit_redirected {redirected : NdiscRedirectedHeader}
    (hlen : redirected.data.length = redirected.header.payloadLen)
    (hlt : redirected.header.payloadLen < 2 ^ 16) {header payload : List UInt8}
    (hheader : header.length = ipv6HeaderLen) (hpayload : payload.length = redirected.data.length)
    (pad : List UInt8) : (do
      let packet ← redirected.header.emit (header ++ (payload ++ pad))
      Ipv6Packet.copyPayload packet redirected.data) =
    .ok (redirected.header.octets ++ (redirected.data ++ pad)) := by
  have hframed := Ipv6Repr.framed_octets redirected.header (payload ++ pad)
    (by rw [List.length_append]; omega)
  have hread := Ipv6Repr.readPayloadLen_octets redirected.header (payload ++ pad)
  have hoctets := Ipv6Repr.length_octets redirected.header
  have htotal : Ipv6Packet.totalLen (redirected.header.octets ++ (payload ++ pad)) =
      .ok (ipv6HeaderLen + redirected.data.length) := by
    rw [Ipv6Packet.totalLen, hframed.payloadLen_eq, hread, ok_bind, UInt16.toNat_ofNat',
      Nat.mod_eq_of_lt hlt, ← hlen]
    rfl
  rw [Ipv6Repr.emit_append _ hheader, ok_bind, Ipv6Packet.copyPayload, htotal, ok_bind,
    copyAt_of (by simp only [List.length_append]; omega) rfl, ← hoctets,
    ← Nat.add_zero redirected.header.octets.length, List.overwrite_append_right,
    List.overwrite_zero, List.drop_left' hpayload]

lemma exists_emits_redirectedHeader {redirected : NdiscRedirectedHeader}
    (hlen : redirected.data.length = redirected.header.payloadLen)
    (hroom : redirected.data.length ≤ 1992) {buf : List UInt8}
    (hbuf : buf.length = bufferLen (.redirectedHeader redirected)) (rest : List UInt8) :
    ∃ enc opt', Emits cfg (.redirectedHeader redirected) buf rest enc opt' := by
  rw [bufferLen, Ipv6Repr.bufferLen, ipv6HeaderLen] at hbuf
  obtain ⟨parts, pad, hparts, rfl⟩ :=
    List.exists_parts [1, 1, 6, 40, redirected.data.length] (l := buf)
      (by simp only [List.sum_cons, List.sum_nil]; omega)
  simp only [List.map_eq_cons_iff, List.map_eq_nil_iff] at hparts
  obtain ⟨a, _, rfl, ha, b, _, rfl, hb, c, _, rfl, hc, d, _, rfl, hd, e, _, rfl, he, rfl⟩ := hparts
  simp only [List.length_append, List.length_flatten, List.map_cons, List.map_nil, List.sum_cons,
    List.sum_nil, ha, hb, hc, hd, he] at hbuf
  generalize hu : units (8 + redirected.header.bufferLen + redirected.data.length) = u
  have hunits : u.toNat * 8 = 48 + redirected.data.length + pad.length := by
    rw [← hu, toNat_units (by rw [Ipv6Repr.bufferLen, ipv6HeaderLen]; omega), Ipv6Repr.bufferLen,
      ipv6HeaderLen]
    omega
  have hoctets := Ipv6Repr.length_octets redirected.header
  rw [ipv6HeaderLen] at hoctets
  generalize hbody : List.replicate 6 0 ++ redirected.header.octets ++ redirected.data ++ pad = body
  have hbodyLen : body.length + 2 = 48 + redirected.data.length + pad.length := by
    simp only [← hbody, List.length_append, List.length_replicate]
    omega
  have hbegins : Begins (0x4 :: u :: body) .redirectedHeader u := by
    refine .of_cons rfl (by rw [hunits, hbodyLen]) ?_
    rw [hbodyLen, Kind.minLen]
    omega
  have hemit := emit_redirected hlen (by omega) hd he pad
  obtain ⟨packet, hheader, hcopy⟩ := bind_eq_ok.mp hemit
  -- the data of the option ends where the option does
  have hdata : ∀ x : UInt8, ∀ body rest : List UInt8, body.length + 2 = u.toNat * 8 →
      NdiscOption.data (x :: u :: body ++ rest) = .ok body := by
    intro x body rest hlen
    have hdataLen : dataLen (x :: u :: body ++ rest) = .ok u := index_of rfl
    rw [NdiscOption.data, hdataLen, ok_bind]
    exact slice_append (l := [x, u]) rfl (by rw [← hlen, Nat.add_comm])
  have hsix : ∀ tail : List UInt8,
      sliceFrom (List.replicate 6 (0 : UInt8) ++ tail) 6 = .ok tail := by
    intro tail
    rw [sliceFrom_of (by simp), List.drop_left' (by simp)]
  refine ⟨0x4 :: u :: body, .redirectedHeader ⟨{ redirected.header with
    nextHeader := .ofByte redirected.header.nextHeader.toByte }, redirected.data⟩, ?_, ?_,
    ⟨⟨_, _, hbegins⟩, fun rest => ?_⟩, .redirectedHeader (redirected_eq_iff redirected)⟩
  · have hsplit : [[Kind.redirectedHeader.toByte], [u], List.replicate 6 0, d, e].flatten ++
        (pad ++ rest) = 0x4 :: u :: (List.replicate 6 0 ++ (d ++ (e ++ pad))) ++ rest := by
      simp [Kind.toByte]
    rw [emit, List.append_assoc, write_parts 2 (by simp [hc]) (by simp [ha, hb]), ok_bind,
      setOptionType, write_parts 0 (by simp [ha]) (by rfl), ok_bind, setDataLen, hu,
      write_parts 1 (by simp [hb]) (by simp), ok_bind]
    simp only [List.set]
    rw [hsplit, hdata _ _ _ (by simp only [List.length_append, List.length_replicate]; omega),
      ok_bind, hsix, ok_bind, hheader, ok_bind, hcopy, ok_bind]
    have hwrite := write_append (l := 0x4 :: u :: List.replicate 6 0) (m := d ++ (e ++ pad))
      (d := redirected.header.octets ++ (redirected.data ++ pad)) (r := rest) (n := 8) (by simp)
      (by simp only [List.length_append]; omega)
    simp only [List.append_assoc, List.cons_append] at hwrite ⊢
    rw [hwrite, ← hbody]
    simp
  · simp only [List.length_append, List.length_flatten, List.map_cons, List.map_nil, List.sum_cons,
      List.sum_nil, ha, hb, hc, hd, he, List.length_cons]
    omega
  · have hparse := Ipv6Repr.parse_octets redirected.header (redirected.data ++ pad)
      (by omega) (by rw [List.length_append]; omega)
    have hframed := Ipv6Repr.framed_octets redirected.header (redirected.data ++ pad)
      (by rw [List.length_append]; omega)
    have hslice : sliceAt (redirected.header.octets ++ (redirected.data ++ pad)) ipv6HeaderLen
        redirected.header.payloadLen = .ok redirected.data := by
      rw [← List.append_assoc]
      exact sliceAt_append hoctets hlen
    have hsplit : body = List.replicate 6 0 ++
        (redirected.header.octets ++ (redirected.data ++ pad)) := by
      rw [← hbody]
      simp
    rw [parse, hbegins.checkLen, ok_bind, hbegins.dataLen, ok_bind, hbegins.optionType, ok_bind]
    dsimp only
    have hsix' : ¬ u < 6 := by
      rw [UInt8.lt_iff_toNat_lt]
      change ¬ _ < 6
      omega
    rw [if_neg hsix', hdata _ _ _ (by omega), ok_bind, hsplit, hsix, ok_bind,
      Ipv6Packet.checkLen_eq_ok_iff.mpr hframed, ok_bind, hparse, ok_bind, Ipv6Repr.bufferLen]
    dsimp only
    rw [hslice]
    rfl

/-- No more than this fits behind a header in an option: then the length is wrong. -/
lemma length_le_of_emit {redirected : NdiscRedirectedHeader} {buf out : List UInt8}
    (h : emit (.redirectedHeader redirected) buf = .ok out) : redirected.data.length ≤ 1992 := by
  obtain ⟨buf₁, -, h⟩ := bind_eq_ok.mp h
  obtain ⟨buf₂, -, h⟩ := bind_eq_ok.mp h
  obtain ⟨buf₃, -, h⟩ := bind_eq_ok.mp h
  obtain ⟨content, hdata, h⟩ := bind_eq_ok.mp h
  obtain ⟨packet, hfrom, h⟩ := bind_eq_ok.mp h
  obtain ⟨packet', hheader, h⟩ := bind_eq_ok.mp h
  obtain ⟨packet'', hcopy, -⟩ := bind_eq_ok.mp h
  obtain ⟨u, -, hslice⟩ := bind_eq_ok.mp hdata
  obtain ⟨-, hu, rfl⟩ := slice_eq_ok.mp hslice
  obtain ⟨-, -, rfl⟩ := slice_eq_ok.mp hfrom
  obtain ⟨total, -, hcopy⟩ := bind_eq_ok.mp hcopy
  have hroom := length_of_copyAt hcopy
  have hlen := Ipv6Repr.length_of_emit hheader
  have hbyte := u.toNat_lt
  simp only [List.length_drop, List.length_take] at hlen
  rw [ipv6HeaderLen] at hroom
  omega

/-- The values of an option fit its fields. -/
def Fits (cfg : HardwareConfig) : NdiscOptionRepr → Prop
  | .sourceLinkLayerAddr addr => addr.Supported cfg
  | .targetLinkLayerAddr addr => addr.Supported cfg
  | .prefixInformation info => info.Fits
  | .redirectedHeader redirected =>
    redirected.data.length = redirected.header.payloadLen ∧ redirected.data.length ≤ 1992
  | .mtu _ => True
  | .unknown .. => False

lemma exists_emits {opt : NdiscOptionRepr} (h : opt.Fits cfg) {buf : List UInt8}
    (hbuf : buf.length = opt.bufferLen) (rest : List UInt8) :
    ∃ enc opt', Emits cfg opt buf rest enc opt' := by
  cases opt with
  | sourceLinkLayerAddr addr => exact exists_emits_sourceLinkLayerAddr h hbuf rest
  | targetLinkLayerAddr addr => exact exists_emits_targetLinkLayerAddr h hbuf rest
  | prefixInformation info => exact exists_emits_prefixInformation h hbuf rest
  | redirectedHeader redirected => exact exists_emits_redirectedHeader h.1 h.2 hbuf rest
  | mtu value => exact exists_emits_mtu value hbuf rest
  | unknown type length octets => exact h.elim

end NdiscOptionRepr

/-! ### The options of a message -/

/-- Options that were read one behind the other. -/
lemma NdiscOptions.parse_flatten {cfg : HardwareConfig} {encs : List (List UInt8)}
    {opts : List NdiscOptionRepr} (h : List.Forall₂ (NdiscOptionRepr.Encodes cfg) encs opts)
    (pre : List UInt8) (options : NdiscOptions) :
    parse cfg (pre ++ encs.flatten) pre.length options = .ok (opts.foldl set options) := by
  induction h generalizing pre options with
  | nil =>
    rw [parse.eq_def, if_neg (by simp)]
    rfl
  | @cons enc opt encs opts henc hrest ih =>
    obtain ⟨⟨kind, units, hbegins⟩, hparse⟩ := henc
    have hlen := hbegins.length_eq
    have hpos := hbegins.pos
    have hsplit : pre ++ (enc :: encs).flatten = (pre ++ enc) ++ encs.flatten := by simp
    have hpkt : sliceFrom (pre ++ enc ++ encs.flatten) pre.length = .ok (enc ++ encs.flatten) := by
      rw [List.append_assoc, sliceFrom_of (by simp), List.drop_left]
    have hih := ih (pre ++ enc) (options.set opt)
    rw [List.length_append, ← hlen] at hih
    rw [hsplit, parse.eq_def,
      if_pos (by rw [List.length_append, List.length_append]; omega), hpkt, ok_bind,
      hbegins.newChecked, ok_bind, hparse, setParsed, ok_bind, hbegins.dataLen, ok_bind]
    dsimp only
    rw [dif_neg (by omega), hih]
    rfl

namespace NdiscRepr

open Icmpv6 Icmpv6Packet
open NdiscOptionRepr (Encodes ReadsAs exists_emits)

variable {cfg : HardwareConfig}

/-- Emit options one behind the other. -/
def emitAll : List NdiscOptionRepr → ℕ → List UInt8 → Outcome (List UInt8 × ℕ)
  | [], offset, buf => .ok (buf, offset)
  | opt :: opts, offset, buf => do
    emitAll opts (offset + opt.bufferLen) (← emitOption buf offset opt)

lemma emitSome_eq (buf : List UInt8) (offset : ℕ) (opt : Option NdiscOptionRepr) :
    emitSome buf offset opt = emitAll opt.toList offset buf := by
  cases opt with
  | none => rfl
  | some opt => rfl

lemma emitAll_append (first second : List NdiscOptionRepr) (offset : ℕ) (buf : List UInt8) :
    emitAll (first ++ second) offset buf =
      emitAll first offset buf >>= fun (buf, offset) => emitAll second offset buf := by
  induction first generalizing offset buf with
  | nil => rfl
  | cons opt first ih =>
    rw [List.cons_append, emitAll, emitAll, bind_assoc]
    exact bind_congr fun buf => ih _ buf

/-- The options that are emitted fill the room behind the header. -/
lemma exists_emitAll {opts : List NdiscOptionRepr} (h : ∀ o ∈ opts, o.Fits cfg)
    {header : List UInt8} (hheader : ∀ tail, headerLen (header ++ tail) = .ok header.length)
    (pre rest : List UInt8)
    (hrest : rest.length = (opts.map NdiscOptionRepr.bufferLen).sum) :
    ∃ encs opts' offset,
      emitAll opts pre.length (header ++ (pre ++ rest)) =
        .ok (header ++ (pre ++ encs.flatten), offset) ∧
      List.Forall₂ (Encodes cfg) encs opts' ∧ List.Forall₂ ReadsAs opts opts' := by
  induction opts generalizing pre rest with
  | nil =>
    obtain rfl := List.eq_nil_of_length_eq_zero hrest
    exact ⟨[], [], pre.length, rfl, .nil, .nil⟩
  | cons opt opts ih =>
    rw [List.map_cons, List.sum_cons] at hrest
    have htake : (rest.take opt.bufferLen).length = opt.bufferLen :=
      List.length_take_of_le (by omega)
    obtain ⟨enc, opt', hemits⟩ := exists_emits (h opt List.mem_cons_self) htake
      (rest.drop opt.bufferLen)
    obtain ⟨encs, opts', offset, hall, hencodes, hreads⟩ :=
      ih (fun o ho => h o (List.mem_cons_of_mem _ ho)) (pre ++ enc) (rest.drop opt.bufferLen)
        (by rw [List.length_drop]; omega)
    have hemit := hemits.emit
    rw [List.take_append_drop] at hemit
    have henc : enc.length = opt.bufferLen := hemits.length_eq.trans htake
    have hoption : emitOption (header ++ (pre ++ rest)) pre.length opt =
        .ok (header ++ (pre ++ enc ++ rest.drop opt.bufferLen)) := by
      have hwrite := write_append (l := header ++ pre) (m := rest)
        (d := enc ++ rest.drop opt.bufferLen) (r := []) (n := header.length + pre.length) (by simp)
        (by rw [List.length_append, List.length_drop]; omega)
      simp only [List.append_nil, List.append_assoc] at hwrite
      rw [emitOption, hheader, ok_bind, sliceFrom_of (by simp), ok_bind, List.drop_left,
        sliceFrom_of (by simp), ok_bind, List.drop_left, hemit, ok_bind, hwrite, List.append_assoc]
    refine ⟨enc :: encs, opt' :: opts', offset, ?_, .cons hemits.encodes hencodes,
      .cons hemits.readsAs hreads⟩
    rw [List.length_append, henc] at hall
    rw [emitAll, hoption, ok_bind, hall, List.flatten_cons, List.append_assoc]

/-! ### The header of a message -/

/-- The options that a message is emitted with. -/
def optionList : NdiscRepr → List NdiscOptionRepr
  | .routerSolicit lladdr => (lladdr.map .sourceLinkLayerAddr).toList
  | .routerAdvert _ _ _ _ _ _ lladdr mtu prefixInfo =>
    (lladdr.map .sourceLinkLayerAddr).toList ++
      ((mtu.map .mtu).toList ++ (prefixInfo.map .prefixInformation).toList)
  | .neighborSolicit _ lladdr => (lladdr.map .sourceLinkLayerAddr).toList
  | .neighborAdvert _ _ lladdr => (lladdr.map .targetLinkLayerAddr).toList
  | .redirect _ _ lladdr redirectedHdr =>
    (lladdr.map .targetLinkLayerAddr).toList ++ (redirectedHdr.map .redirectedHeader).toList

def message : NdiscRepr → Message
  | .routerSolicit _ => .routerSolicit
  | .routerAdvert .. => .routerAdvert
  | .neighborSolicit .. => .neighborSolicit
  | .neighborAdvert .. => .neighborAdvert
  | .redirect .. => .redirect

/-- The fields behind the type, the code and the checksum. -/
def fields : NdiscRepr → List (List UInt8)
  | .routerSolicit _ => [ofU32 0]
  | .routerAdvert hopLimit managed other routerLifetime reachableTime retransTime _ _ _ =>
    [[hopLimit], [routerFlags managed other], ofU16 routerLifetime.secs.toUInt16,
      ofU32 (.ofNat 32 reachableTime.totalMillis.toNat),
      ofU32 (.ofNat 32 retransTime.totalMillis.toNat)]
  | .neighborSolicit targetAddr _ => [ofU32 0, Ipv6.octets targetAddr]
  | .neighborAdvert flags targetAddr _ => [[flags.toByte], [0, 0, 0], Ipv6.octets targetAddr]
  | .redirect targetAddr destAddr _ _ =>
    [ofU32 0, Ipv6.octets targetAddr, Ipv6.octets destAddr]

/-- The header of a message. The checksum is what was in the buffer. -/
def header (repr : NdiscRepr) (checksum : List UInt8) : List (List UInt8) :=
  [repr.message.toByte] :: [0] :: checksum :: repr.fields

variable {repr : NdiscRepr} {checksum : List UInt8}

lemma length_fields (repr : NdiscRepr) :
    (repr.fields.map List.length).sum + 4 = repr.message.headerLen := by
  cases repr <;> simp [fields, message, Message.headerLen]

lemma length_header (repr : NdiscRepr) (hchecksum : checksum.length = 2) :
    (repr.header checksum).flatten.length = repr.message.headerLen := by
  have := repr.length_fields
  rw [header, List.length_flatten, List.map_cons, List.map_cons, List.map_cons, List.sum_cons,
    List.sum_cons, List.sum_cons, hchecksum]
  simp only [List.length_singleton]
  omega

lemma msgType_header (repr : NdiscRepr) (checksum tail : List UInt8) :
    msgType ((repr.header checksum).flatten ++ tail) = .ok repr.message := by
  rw [msgType, index_parts 0 (by rfl) (by rfl), ok_bind]
  cases repr <;> rfl

lemma headerLen_header (repr : NdiscRepr) (hchecksum : checksum.length = 2) (tail : List UInt8) :
    headerLen ((repr.header checksum).flatten ++ tail) =
      .ok (repr.header checksum).flatten.length := by
  rw [headerLen, msgType_header, length_header repr hchecksum]
  rfl

/-- The length of a message is the room for its header and its options. -/
lemma bufferLen_eq (repr : NdiscRepr) : repr.bufferLen =
    repr.message.headerLen + (repr.optionList.map NdiscOptionRepr.bufferLen).sum := by
  have hopt : ∀ opt : Option NdiscOptionRepr,
      (opt.toList.map NdiscOptionRepr.bufferLen).sum = optLen opt := by
    intro opt
    cases opt with
    | none => rfl
    | some opt => simp [optLen]
  have hkind : ∀ addr : Option RawHardwareAddress,
      optLen (addr.map .targetLinkLayerAddr) = optLen (addr.map .sourceLinkLayerAddr) := by
    intro addr
    cases addr <;> rfl
  cases repr with
  | routerSolicit lladdr => rw [bufferLen, optionList, hopt]; rfl
  | routerAdvert hopLimit managed other routerLifetime reachableTime retransTime lladdr mtu
      prefixInfo =>
    rw [bufferLen, optionList, List.map_append, List.sum_append, List.map_append, List.sum_append,
      hopt, hopt, hopt, hkind, Nat.add_assoc (optLen _)]
    rfl
  | neighborSolicit targetAddr lladdr => rw [bufferLen, optionList, hopt]; rfl
  | neighborAdvert flags targetAddr lladdr => rw [bufferLen, optionList, hopt, hkind]; rfl
  | redirect targetAddr destAddr lladdr redirectedHdr =>
    rw [bufferLen, optionList, List.map_append, List.sum_append, hopt, hopt, Nat.add_assoc]
    rfl

/-- The type, the code and the reserved octets are written. -/
lemma begin_eq {message : Message} (hmessage : message = .routerSolicit ∨
      message = .neighborSolicit ∨ message = .neighborAdvert ∨ message = .redirect)
    {a b c d : List UInt8} (ha : a.length = 1) (hb : b.length = 1) (hc : c.length = 2)
    (hd : d.length = 4) (parts : List (List UInt8)) (rest : List UInt8) : (do
      let buf ← setMsgType ((a :: b :: c :: d :: parts).flatten ++ rest) message
      let buf ← setMsgCode buf 0
      clearReserved buf) =
    .ok (([message.toByte] :: [0] :: c :: ofU32 0 :: parts).flatten ++ rest) := by
  unfold setMsgType setMsgCode clearReserved msgType
  rw [write_parts 0 (by simp [ha]) (by rfl), ok_bind, write_parts 1 (by simp [hb]) (by simp),
    ok_bind, index_parts 0 (by rfl) (by rfl), ok_bind]
  have hwrite : write
      ((((a :: b :: c :: d :: parts).set 0 [message.toByte]).set 1 [0]).flatten ++ rest) 4
        (ofU32 0) =
      .ok (([message.toByte] :: [0] :: c :: ofU32 0 :: parts).flatten ++ rest) := by
    rw [write_parts 3 (by simp [hd]) (by simp [hc])]
    rfl
  rcases hmessage with rfl | rfl | rfl | rfl <;> exact hwrite

/-- The header is written as a whole, and the options behind it. -/
lemma exists_emit_eq (repr : NdiscRepr) (buf : List UInt8)
    (hbuf : repr.message.headerLen ≤ buf.length) : ∃ checksum, checksum.length = 2 ∧
      repr.emit buf = do
        let (buf, _) ← emitAll repr.optionList 0
          ((repr.header checksum).flatten ++ buf.drop repr.message.headerLen)
        return buf := by
  obtain ⟨parts, rest, hparts, rfl⟩ :=
    List.exists_parts (1 :: 1 :: 2 :: repr.fields.map List.length) (l := buf) (by
      have := repr.length_fields
      simp only [List.sum_cons]
      omega)
  have hlen : parts.flatten.length = repr.message.headerLen := by
    have := repr.length_fields
    rw [List.length_flatten, hparts]
    simp only [List.sum_cons]
    omega
  rw [List.drop_left' hlen]
  cases repr with
  | routerSolicit lladdr =>
    simp only [fields, List.map_cons, List.map_nil, Octets.length_ofU32, List.map_eq_cons_iff,
      List.map_eq_nil_iff] at hparts
    obtain ⟨a, _, rfl, ha, b, _, rfl, hb, c, _, rfl, hc, d, _, rfl, hd, rfl⟩ := hparts
    have hbegin := begin_eq (.inl rfl) ha hb hc hd [] rest
    obtain ⟨buf₁, htype, hbegin⟩ := bind_eq_ok.mp hbegin
    obtain ⟨buf₂, hcode, hreserved⟩ := bind_eq_ok.mp hbegin
    refine ⟨c, hc, ?_⟩
    rw [emit, htype, ok_bind, hcode, ok_bind, hreserved, ok_bind, emitSome_eq]
    rfl
  | routerAdvert hopLimit managed other routerLifetime reachableTime retransTime lladdr mtu
      prefixInfo =>
    simp only [fields, List.map_cons, List.map_nil, Octets.length_ofU32, Octets.length_ofU16,
      List.length_singleton, List.map_eq_cons_iff, List.map_eq_nil_iff] at hparts
    obtain ⟨a, _, rfl, ha, b, _, rfl, hb, c, _, rfl, hc, d, _, rfl, hd, e, _, rfl, he, f, _, rfl,
      hf, g, _, rfl, hg, i, _, rfl, hi, rfl⟩ := hparts
    refine ⟨c, hc, ?_⟩
    rw [emit, setMsgType, write_parts 0 (by simp [ha]) (by rfl), ok_bind, setMsgCode,
      write_parts 1 (by simp [hb]) (by simp), ok_bind, write_parts 3 (by simp [hd]) (by simp [hc]),
      ok_bind, write_parts 4 (by simp [he]) (by simp [hc]), ok_bind,
      write_parts 5 (by simp [hf]) (by simp [hc]), ok_bind,
      write_parts 6 (by simp [hg]) (by simp [hc]), ok_bind,
      write_parts 7 (by simp [hi]) (by simp [hc]), ok_bind]
    simp only [emitSome_eq, optionList, emitAll_append, bind_assoc]
    rfl
  | neighborSolicit targetAddr lladdr =>
    simp only [fields, List.map_cons, List.map_nil, Octets.length_ofU32, Ipv6.length_octets,
      List.map_eq_cons_iff, List.map_eq_nil_iff] at hparts
    obtain ⟨a, _, rfl, ha, b, _, rfl, hb, c, _, rfl, hc, d, _, rfl, hd, e, _, rfl, he,
      rfl⟩ := hparts
    have hbegin := begin_eq (.inr (.inl rfl)) ha hb hc hd [e] rest
    obtain ⟨buf₁, htype, hbegin⟩ := bind_eq_ok.mp hbegin
    obtain ⟨buf₂, hcode, hreserved⟩ := bind_eq_ok.mp hbegin
    refine ⟨c, hc, ?_⟩
    rw [emit, htype, ok_bind, hcode, ok_bind, hreserved, ok_bind,
      write_parts 4 (by simp [he]) (by simp [hc]), ok_bind, emitSome_eq]
    rfl
  | neighborAdvert flags targetAddr lladdr =>
    simp only [fields, List.map_cons, List.map_nil, Ipv6.length_octets, List.length_cons,
      List.length_nil, List.map_eq_cons_iff, List.map_eq_nil_iff] at hparts
    obtain ⟨a, _, rfl, ha, b, _, rfl, hb, c, _, rfl, hc, d, _, rfl, hd, d', _, rfl, hd', e, _, rfl,
      he, rfl⟩ := hparts
    have hbegin := begin_eq (.inr (.inr (.inl rfl))) ha hb hc (d := d ++ d') (by simp [hd, hd']) [e]
      rest
    obtain ⟨buf₁, htype, hbegin⟩ := bind_eq_ok.mp hbegin
    obtain ⟨buf₂, hcode, hreserved⟩ := bind_eq_ok.mp hbegin
    have hsplit : [a, b, c, d, d', e].flatten ++ rest = [a, b, c, d ++ d', e].flatten ++ rest := by
      simp
    -- the flags are the first of the reserved octets
    have hflags : [[Message.neighborAdvert.toByte], [0], c, ofU32 0, e].flatten ++ rest =
        [[Message.neighborAdvert.toByte], [0], c, [0], [0, 0, 0], e].flatten ++ rest := by
      simp [ofU32]
    refine ⟨c, hc, ?_⟩
    rw [emit, hsplit, htype, ok_bind, hcode, ok_bind, hreserved, ok_bind, hflags,
      write_parts 3 (by simp) (by simp [hc]), ok_bind,
      write_parts 5 (by simp [he]) (by simp [hc]), ok_bind, emitSome_eq]
    rfl
  | redirect targetAddr destAddr lladdr redirectedHdr =>
    simp only [fields, List.map_cons, List.map_nil, Octets.length_ofU32, Ipv6.length_octets,
      List.map_eq_cons_iff, List.map_eq_nil_iff] at hparts
    obtain ⟨a, _, rfl, ha, b, _, rfl, hb, c, _, rfl, hc, d, _, rfl, hd, e, _, rfl, he, f, _, rfl,
      hf, rfl⟩ := hparts
    have hbegin := begin_eq (.inr (.inr (.inr rfl))) ha hb hc hd [e, f] rest
    obtain ⟨buf₁, htype, hbegin⟩ := bind_eq_ok.mp hbegin
    obtain ⟨buf₂, hcode, hreserved⟩ := bind_eq_ok.mp hbegin
    refine ⟨c, hc, ?_⟩
    rw [emit, htype, ok_bind, hcode, ok_bind, hreserved, ok_bind,
      write_parts 4 (by simp [he]) (by simp [hc]), ok_bind,
      write_parts 5 (by simp [hf]) (by simp [hc]), ok_bind]
    simp only [emitSome_eq, optionList, emitAll_append, bind_assoc]
    rfl

/-! ### Reading a message back -/

/-- The message with what its options were read as. -/
def withOptions (options : NdiscOptions) : NdiscRepr → NdiscRepr
  | .routerSolicit _ => .routerSolicit options.srcLlAddr
  | .routerAdvert hopLimit managed other routerLifetime reachableTime retransTime _ _ _ =>
    .routerAdvert hopLimit managed other routerLifetime reachableTime retransTime
      options.srcLlAddr options.mtu options.prefixInfo
  | .neighborSolicit targetAddr _ => .neighborSolicit targetAddr options.srcLlAddr
  | .neighborAdvert flags targetAddr _ => .neighborAdvert flags targetAddr options.targetLlAddr
  | .redirect targetAddr destAddr _ _ =>
    .redirect targetAddr destAddr options.srcLlAddr options.redirectedHdr

/-- A header and options that were emitted are parsed. -/
lemma parse_header (h : repr.Fits cfg) (hchecksum : checksum.length = 2) {encs : List (List UInt8)}
    {opts : List NdiscOptionRepr} (hencs : List.Forall₂ (Encodes cfg) encs opts) :
    parse cfg ((repr.header checksum).flatten ++ encs.flatten) =
      .ok (repr.withOptions (opts.foldl NdiscOptions.set {})) := by
  have hlen := length_header repr hchecksum
  have htype := msgType_header repr checksum encs.flatten
  have hcheck : checkLen ((repr.header checksum).flatten ++ encs.flatten) = .ok () := by
    have h8 : 8 ≤ repr.message.headerLen := by
      cases repr <;> simp [message, Message.headerLen]
    rw [checkLen, reject_of_not (by rw [List.length_append]; omega), ok_bind, htype, ok_bind]
    have hreject : ¬ (((repr.header checksum).flatten ++ encs.flatten).length < headerEnd ∨
        ((repr.header checksum).flatten ++ encs.flatten).length < repr.message.headerLen) := by
      rw [List.length_append, headerEnd]
      omega
    cases repr <;> exact reject_of_not hreject
  have hpayload : payload ((repr.header checksum).flatten ++ encs.flatten) = .ok encs.flatten := by
    rw [payload, headerLen_header repr hchecksum, ok_bind, sliceFrom_of (by simp), List.drop_left]
  have hoptions : NdiscOptions.parse cfg encs.flatten 0 {} = .ok (opts.foldl NdiscOptions.set {}) :=
    NdiscOptions.parse_flatten hencs [] {}
  rw [parse, hcheck, ok_bind, hpayload, ok_bind, hoptions, ok_bind, htype, ok_bind]
  generalize opts.foldl NdiscOptions.set {} = options
  cases repr with
  | routerSolicit lladdr => rfl
  | routerAdvert hopLimit managed other routerLifetime reachableTime retransTime lladdr mtu
      prefixInfo =>
    obtain ⟨hlifetime, hreachable, hretrans, -, -⟩ := h
    have hflags := routerFlags_eq managed other
    dsimp only [message]
    rw [index_parts 4 (by rfl) (by simp [header, fields, hchecksum]), ok_bind,
      readU16_parts 5 (by rfl) (by simp [header, fields, hchecksum]), ok_bind,
      readU32_parts 6 (by rfl) (by simp [header, fields, hchecksum]), ok_bind,
      readU32_parts 7 (by rfl) (by simp [header, fields, hchecksum]), ok_bind,
      index_parts 3 (by rfl) (by simp [header, fields, hchecksum]), ok_bind, hlifetime.read16,
      hreachable.read32, hretrans.read32, hflags.1, hflags.2]
    rfl
  | neighborSolicit targetAddr lladdr =>
    dsimp only [message]
    rw [addressAt_parts 4 (by rfl) (by simp [header, fields, hchecksum]), ok_bind]
    rfl
  | neighborAdvert flags targetAddr lladdr =>
    dsimp only [message]
    rw [index_parts 3 (by rfl) (by simp [header, fields, hchecksum]), ok_bind,
      addressAt_parts 5 (by rfl) (by simp [header, fields, hchecksum]), ok_bind,
      flags.ofByte_toByte]
    rfl
  | redirect targetAddr destAddr lladdr redirectedHdr =>
    dsimp only [message]
    rw [addressAt_parts 4 (by rfl) (by simp [header, fields, hchecksum]), ok_bind,
      addressAt_parts 5 (by rfl) (by simp [header, fields, hchecksum]), ok_bind]
    rfl

section Reading

variable {opts : List NdiscOptionRepr}

/-- An option that may be there is read as one that may be there. -/
lemma reads_toList {opt : Option NdiscOptionRepr} (h : List.Forall₂ ReadsAs opt.toList opts) :
    opt = none ∧ opts = [] ∨ ∃ o o', opt = some o ∧ opts = [o'] ∧ ReadsAs o o' := by
  cases opt with
  | none =>
    cases h
    exact .inl ⟨rfl, rfl⟩
  | some o =>
    obtain ⟨o', _, hreads, hnil, rfl⟩ := List.forall₂_cons_left_iff.mp h
    cases hnil
    exact .inr ⟨o, o', rfl, rfl, hreads⟩

lemma reads_source {lladdr : Option RawHardwareAddress}
    (h : List.Forall₂ ReadsAs (lladdr.map .sourceLinkLayerAddr).toList opts) :
    ∃ lladdr', opts = (lladdr'.map .sourceLinkLayerAddr).toList ∧
      (lladdr' = lladdr ↔ ∀ addr ∈ lladdr, addr.len ≠ 2) := by
  obtain ⟨hnone, rfl⟩ | ⟨o, o', hsome, rfl, hreads⟩ := reads_toList h
  · rw [Option.map_eq_none_iff] at hnone
    subst hnone
    exact ⟨none, rfl, by simp⟩
  · obtain ⟨addr, rfl, rfl⟩ := Option.map_eq_some_iff.mp hsome
    cases hreads with
    | @sourceLinkLayerAddr _ addr' hiff => exact ⟨some addr', rfl, by simpa using hiff⟩

lemma reads_target {lladdr : Option RawHardwareAddress}
    (h : List.Forall₂ ReadsAs (lladdr.map .targetLinkLayerAddr).toList opts) :
    ∃ lladdr', opts = (lladdr'.map .targetLinkLayerAddr).toList ∧
      (lladdr' = lladdr ↔ ∀ addr ∈ lladdr, addr.len ≠ 2) := by
  obtain ⟨hnone, rfl⟩ | ⟨o, o', hsome, rfl, hreads⟩ := reads_toList h
  · rw [Option.map_eq_none_iff] at hnone
    subst hnone
    exact ⟨none, rfl, by simp⟩
  · obtain ⟨addr, rfl, rfl⟩ := Option.map_eq_some_iff.mp hsome
    cases hreads with
    | @targetLinkLayerAddr _ addr' hiff => exact ⟨some addr', rfl, by simpa using hiff⟩

lemma reads_mtu {mtu : Option (BitVec 32)} (h : List.Forall₂ ReadsAs (mtu.map .mtu).toList opts) :
    opts = (mtu.map .mtu).toList := by
  obtain ⟨hnone, rfl⟩ | ⟨o, o', hsome, rfl, hreads⟩ := reads_toList h
  · rw [hnone]
    rfl
  · obtain ⟨value, rfl, rfl⟩ := Option.map_eq_some_iff.mp hsome
    cases hreads
    rfl

lemma reads_prefixInfo {info : Option NdiscPrefixInformation}
    (h : List.Forall₂ ReadsAs (info.map .prefixInformation).toList opts) :
    opts = (info.map .prefixInformation).toList := by
  obtain ⟨hnone, rfl⟩ | ⟨o, o', hsome, rfl, hreads⟩ := reads_toList h
  · rw [hnone]
    rfl
  · obtain ⟨value, rfl, rfl⟩ := Option.map_eq_some_iff.mp hsome
    cases hreads
    rfl

lemma reads_redirectedHdr {redirectedHdr : Option NdiscRedirectedHeader}
    (h : List.Forall₂ ReadsAs (redirectedHdr.map .redirectedHeader).toList opts) :
    ∃ redirectedHdr', opts = (redirectedHdr'.map .redirectedHeader).toList ∧
      (redirectedHdr' = redirectedHdr ↔
        ∀ redirected ∈ redirectedHdr, redirected.header.nextHeader.IsCanonical) := by
  obtain ⟨hnone, rfl⟩ | ⟨o, o', hsome, rfl, hreads⟩ := reads_toList h
  · rw [Option.map_eq_none_iff] at hnone
    subst hnone
    exact ⟨none, rfl, by simp⟩
  · obtain ⟨redirected, rfl, rfl⟩ := Option.map_eq_some_iff.mp hsome
    cases hreads with
    | @redirectedHeader _ redirected' hiff => exact ⟨some redirected', rfl, by simpa using hiff⟩

lemma forall₂_append {first second : List NdiscOptionRepr}
    (h : List.Forall₂ ReadsAs (first ++ second) opts) :
    ∃ opts₁ opts₂, opts = opts₁ ++ opts₂ ∧ List.Forall₂ ReadsAs first opts₁ ∧
      List.Forall₂ ReadsAs second opts₂ := by
  have hfirst := List.forall₂_take first.length h
  have hsecond := List.forall₂_drop first.length h
  rw [List.take_left] at hfirst
  rw [List.drop_left] at hsecond
  exact ⟨_, _, (List.take_append_drop _ _).symm, hfirst, hsecond⟩

/-- The options are read as they are, but for short addresses and the address of a redirect. -/
lemma withOptions_eq_iff (hfits : ∀ o ∈ repr.optionList, o.Fits cfg)
    (hreads : List.Forall₂ ReadsAs repr.optionList opts) :
    repr.withOptions (opts.foldl NdiscOptions.set {}) = repr ↔ repr.ParsesBack := by
  cases repr with
  | routerSolicit lladdr =>
    obtain ⟨lladdr', rfl, hiff⟩ := reads_source hreads
    rw [ParsesBack, ← hiff]
    cases lladdr' <;> simp [withOptions, NdiscOptions.set]
  | routerAdvert hopLimit managed other routerLifetime reachableTime retransTime lladdr mtu
      prefixInfo =>
    obtain ⟨_, _, rfl, hlladdr, hreads⟩ := forall₂_append hreads
    obtain ⟨_, _, rfl, hmtu, hprefixInfo⟩ := forall₂_append hreads
    obtain ⟨lladdr', rfl, hiff⟩ := reads_source hlladdr
    obtain rfl := reads_mtu hmtu
    obtain rfl := reads_prefixInfo hprefixInfo
    rw [ParsesBack, ← hiff]
    cases lladdr' <;> cases mtu <;> cases prefixInfo <;> simp [withOptions, NdiscOptions.set]
  | neighborSolicit targetAddr lladdr =>
    obtain ⟨lladdr', rfl, hiff⟩ := reads_source hreads
    rw [ParsesBack, ← hiff]
    cases lladdr' <;> simp [withOptions, NdiscOptions.set]
  | neighborAdvert flags targetAddr lladdr =>
    obtain ⟨lladdr', rfl, hiff⟩ := reads_target hreads
    rw [ParsesBack, ← hiff]
    cases lladdr' <;> simp [withOptions, NdiscOptions.set]
  | redirect targetAddr destAddr lladdr redirectedHdr =>
    obtain ⟨_, _, rfl, hlladdr, hredirected⟩ := forall₂_append hreads
    obtain ⟨lladdr', rfl, -⟩ := reads_target hlladdr
    obtain ⟨redirectedHdr', rfl, hiff⟩ := reads_redirectedHdr hredirected
    have hroom : ∀ redirected ∈ redirectedHdr, redirected.data.length ≤ 1992 := by
      intro redirected hmem
      refine (hfits (.redirectedHeader redirected) (List.mem_append_right _ ?_)).2
      rw [Option.mem_toList]
      exact Option.mem_map_of_mem _ hmem
    have hcanonical : (∀ redirected ∈ redirectedHdr,
        redirected.data.length ≤ 1992 ∧ redirected.header.nextHeader.IsCanonical) ↔
          redirectedHdr' = redirectedHdr := by
      rw [hiff]
      exact ⟨fun h r hr => (h r hr).2, fun h r hr => ⟨hroom r hr, h r hr⟩⟩
    -- the address that is read is the one of an option that was not emitted
    rw [ParsesBack, hcanonical]
    cases lladdr' <;> cases redirectedHdr' <;> simp [withOptions, NdiscOptions.set, eq_comm]

end Reading

/-! ### Messages parse back -/

/-- Only data that is too long for an option does not fit. -/
lemma Fits.options (h : repr.Fits cfg) : (∀ o ∈ repr.optionList, o.Fits cfg) ∨
    ∃ targetAddr destAddr lladdr redirected,
      repr = .redirect targetAddr destAddr lladdr (some redirected) ∧
        1992 < redirected.data.length := by
  have hsome : ∀ {α : Type} {v : Option α} (opt : α → NdiscOptionRepr),
      (∀ a ∈ v, (opt a).Fits cfg) → ∀ o ∈ (v.map opt).toList, o.Fits cfg := by
    intro α v opt hv o ho
    obtain ⟨a, ha, rfl⟩ := Option.map_eq_some_iff.mp (Option.mem_toList.mp ho)
    exact hv a ha
  cases repr with
  | routerSolicit lladdr => exact .inl (hsome _ h)
  | routerAdvert hopLimit managed other routerLifetime reachableTime retransTime lladdr mtu
      prefixInfo =>
    obtain ⟨-, -, -, hlladdr, hprefixInfo⟩ := h
    exact .inl (List.forall_mem_append.mpr ⟨hsome _ hlladdr,
      List.forall_mem_append.mpr ⟨hsome _ fun _ _ => trivial, hsome _ hprefixInfo⟩⟩)
  | neighborSolicit targetAddr lladdr => exact .inl (hsome _ h)
  | neighborAdvert flags targetAddr lladdr => exact .inl (hsome _ h)
  | redirect targetAddr destAddr lladdr redirectedHdr =>
    obtain ⟨hlladdr, hredirected⟩ := h
    by_cases hroom : ∀ redirected ∈ redirectedHdr, redirected.data.length ≤ 1992
    · exact .inl (List.forall_mem_append.mpr ⟨hsome _ hlladdr,
        hsome _ fun r hr => ⟨hredirected r hr, hroom r hr⟩⟩)
    · push Not at hroom
      obtain ⟨redirected, hmem, hlt⟩ := hroom
      obtain rfl := Option.mem_def.mp hmem
      exact .inr ⟨targetAddr, destAddr, lladdr, redirected, rfl, hlt⟩

/-- A redirect with too long data is not emitted. -/
lemma emit_redirect_ne_ok {targetAddr destAddr : Ipv6.Address}
    {lladdr : Option RawHardwareAddress} {redirected : NdiscRedirectedHeader}
    (hlt : 1992 < redirected.data.length) (buf out : List UInt8) :
    emit (.redirect targetAddr destAddr lladdr (some redirected)) buf ≠ .ok out := by
  intro h
  obtain ⟨buf₁, -, h⟩ := bind_eq_ok.mp h
  obtain ⟨buf₂, -, h⟩ := bind_eq_ok.mp h
  obtain ⟨buf₃, -, h⟩ := bind_eq_ok.mp h
  obtain ⟨buf₄, -, h⟩ := bind_eq_ok.mp h
  obtain ⟨buf₅, -, h⟩ := bind_eq_ok.mp h
  obtain ⟨⟨buf₆, offset⟩, -, h⟩ := bind_eq_ok.mp h
  obtain ⟨⟨buf₇, offset'⟩, hsome, -⟩ := bind_eq_ok.mp h
  obtain ⟨buf₈, hoption, -⟩ := bind_eq_ok.mp hsome
  obtain ⟨start, -, hoption⟩ := bind_eq_ok.mp hoption
  obtain ⟨payload, -, hoption⟩ := bind_eq_ok.mp hoption
  obtain ⟨pkt, -, hoption⟩ := bind_eq_ok.mp hoption
  obtain ⟨pkt', hemit, -⟩ := bind_eq_ok.mp hoption
  exact absurd (NdiscOptionRepr.length_le_of_emit hemit) (by omega)

/-- A message is parsed back from a buffer of its length, whatever was in there, exactly if it has
no short link-layer address, and no address at all where it is a redirect, nor more redirected data
than an option has room for. -/
theorem parses_back_iff (cfg : HardwareConfig) (repr : NdiscRepr) (hfits : repr.Fits cfg)
    (buf : List UInt8) (hbuf : buf.length = repr.bufferLen) :
    (∃ out, repr.emit buf = .ok out ∧ parse cfg out = .ok repr) ↔ repr.ParsesBack := by
  obtain hoptions | ⟨targetAddr, destAddr, lladdr, redirected, rfl, hlt⟩ := hfits.options
  · rw [bufferLen_eq] at hbuf
    obtain ⟨checksum, hchecksum, hemit⟩ := repr.exists_emit_eq buf (by omega)
    obtain ⟨encs, opts, offset, hall, hencodes, hreads⟩ :=
      exists_emitAll hoptions (headerLen_header repr hchecksum) []
        (buf.drop repr.message.headerLen) (by rw [List.length_drop]; omega)
    simp only [List.nil_append, List.length_nil] at hall
    have hparse := parse_header hfits hchecksum hencodes
    rw [← withOptions_eq_iff hoptions hreads, hemit, hall]
    constructor
    · rintro ⟨out, hout, hback⟩
      cases hout
      exact Except.ok.inj (hparse.symm.trans hback)
    · intro heq
      exact ⟨_, rfl, hparse.trans (congrArg _ heq)⟩
  · refine iff_of_false ?_ ?_
    · rintro ⟨out, hout, -⟩
      exact emit_redirect_ne_ok hlt buf out hout
    · rintro ⟨-, hroom⟩
      exact absurd (hroom redirected rfl).1 (by omega)

/-- A solicitation with an Ethernet address, into a buffer that was used before. -/
theorem parses_back_iff_solicit : ∃ out,
    emit (.neighborSolicit 1 (some ⟨[0x02, 0, 0, 0, 0, 1]⟩)) (List.replicate 32 0xff) = .ok out ∧
      parse ⟨8, .inr rfl⟩ out = .ok (.neighborSolicit 1 (some ⟨[0x02, 0, 0, 0, 0, 1]⟩)) := by
  refine (parses_back_iff ⟨8, .inr rfl⟩ _ ?_ _ rfl).mpr ?_
  · rintro addr hmem
    cases hmem
    exact ⟨.inr (.inl rfl), by decide⟩
  · rintro addr hmem
    cases hmem
    decide

/-- A redirect is emitted with the link-layer address of the target, but the one of the source is
read. -/
theorem not_parses_back : ¬ ∀ (cfg : HardwareConfig) (repr : NdiscRepr) (buf : List UInt8),
    repr.Fits cfg → buf.length = repr.bufferLen →
      ∃ out, repr.emit buf = .ok out ∧ parse cfg out = .ok repr := by
  intro h
  have hfits : Fits ⟨6, .inl rfl⟩ (.redirect 1 2 (some ⟨[0x02, 0, 0, 0, 0, 1]⟩) none) := by
    refine ⟨fun addr hmem => ?_, fun redirected hmem => ?_⟩
    · cases hmem
      exact ⟨.inr (.inl rfl), by decide⟩
    · cases hmem
  obtain ⟨out, hout, hback⟩ := h _ _ (List.replicate 48 0) hfits rfl
  have hemit : emit (.redirect 1 2 (some ⟨[0x02, 0, 0, 0, 0, 1]⟩) none) (List.replicate 48 0) =
      .ok ([0x89, 0, 0, 0, 0, 0, 0, 0] ++ Ipv6.octets 1 ++ Ipv6.octets 2 ++
        [2, 1, 0x02, 0, 0, 0, 0, 1]) := by decide +kernel
  have hparse : parse ⟨6, .inl rfl⟩ ([0x89, 0, 0, 0, 0, 0, 0, 0] ++ Ipv6.octets 1 ++
      Ipv6.octets 2 ++ [2, 1, 0x02, 0, 0, 0, 0, 1]) = .ok (.redirect 1 2 none none) := by
    decide +kernel
  obtain rfl := Except.ok.inj (hemit.symm.trans hout)
  cases hparse.symm.trans hback

end NdiscRepr

end Smoltcp
