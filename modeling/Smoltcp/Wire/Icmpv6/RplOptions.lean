import Smoltcp.Wire.Icmpv6.Rpl

/-!
# Options of messages for routing

The options stand one behind the other behind a message. Each is emitted with the length of what
follows its first two octets, and the walk to the next option goes by that length. A message whose
options were emitted is read back with all of them.
-/

namespace Smoltcp

open Octets (ofU16 ofU32 ofBool)
open Outcome

/-! ### Options -/

inductive RplOptionType where
  | pad1
  | padN
  | dagMetricContainer
  | routeInformation
  | dodagConfiguration
  | rplTarget
  | transitInformation
  | solicitedInformation
  | prefixInformation
  | rplTargetDescriptor
  | unknown (value : UInt8)
  deriving DecidableEq, Repr

namespace RplOptionType

def toByte : RplOptionType → UInt8
  | .pad1 => 0x00
  | .padN => 0x01
  | .dagMetricContainer => 0x02
  | .routeInformation => 0x03
  | .dodagConfiguration => 0x04
  | .rplTarget => 0x05
  | .transitInformation => 0x06
  | .solicitedInformation => 0x07
  | .prefixInformation => 0x08
  | .rplTargetDescriptor => 0x09
  | .unknown value => value

def ofByte (value : UInt8) : RplOptionType :=
  if value = 0x00 then .pad1
  else if value = 0x01 then .padN
  else if value = 0x02 then .dagMetricContainer
  else if value = 0x03 then .routeInformation
  else if value = 0x04 then .dodagConfiguration
  else if value = 0x05 then .rplTarget
  else if value = 0x06 then .transitInformation
  else if value = 0x07 then .solicitedInformation
  else if value = 0x08 then .prefixInformation
  else if value = 0x09 then .rplTargetDescriptor
  else .unknown value

end RplOptionType

inductive RplOptionRepr where
  | pad1
  | padN (size : UInt8)
  | dagMetricContainer
  | routeInformation (prefixLength preference : UInt8) (lifetime : BitVec 32)
      (prefixOctets : List UInt8)
  | dodagConfiguration (authenticationEnabled : Bool) (pathControlSize dioIntervalDoublings
      dioIntervalMin dioRedundancyConstant : UInt8) (maxRankIncrease minimumHopRankIncrease
      objectiveCodePoint : UInt16) (defaultLifetime : UInt8) (lifetimeUnit : UInt16)
  | rplTarget (prefixLength : UInt8) (prefixAddr : Ipv6.Address)
  | transitInformation (external : Bool) (pathControl pathSequence pathLifetime : UInt8)
      (parentAddress : Option Ipv6.Address)
  | solicitedInformation (rplInstanceId : Rpl.InstanceId) (versionPredicate instanceIdPredicate
      dodagIdPredicate : Bool) (dodagId : Ipv6.Address) (versionNumber : UInt8)
  | prefixInformation (prefixLength : UInt8) (onLink autonomousAddressConfiguration
      routerAddress : Bool) (validLifetime preferredLifetime : BitVec 32)
      (destinationPrefix : List UInt8)
  | rplTargetDescriptor (descriptor : BitVec 32)
  deriving DecidableEq, Repr

namespace RplOptionRepr

def optionType : RplOptionRepr → RplOptionType
  | .pad1 => .pad1
  | .padN _ => .padN
  | .dagMetricContainer => .dagMetricContainer
  | .routeInformation _ _ _ _ => .routeInformation
  | .dodagConfiguration _ _ _ _ _ _ _ _ _ _ => .dodagConfiguration
  | .rplTarget _ _ => .rplTarget
  | .transitInformation _ _ _ _ _ => .transitInformation
  | .solicitedInformation _ _ _ _ _ _ => .solicitedInformation
  | .prefixInformation _ _ _ _ _ _ _ => .prefixInformation
  | .rplTargetDescriptor _ => .rplTargetDescriptor

end RplOptionRepr

namespace RplOption

variable (buf : List UInt8)

def optionType : Outcome RplOptionType := do
  return .ofByte (← index buf 0)

def optionLength : Outcome UInt8 := index buf 1

/-- Return a pointer to the next option. -/
def nextOption : Outcome (Option (List UInt8)) := do
  if buf = [] then return none
  else
    match ← optionType buf with
    | .pad1 => return some (← sliceFrom buf 1)
    | .unknown _ => .error (.panic .unreachable)
    | _ => return some (← sliceFrom buf (2 + (← optionLength buf).toNat))

/-- `get!(buffer, field: i, shift: shift, mask: mask)`. -/
def getField (i : ℕ) (shift mask : UInt8) : Outcome UInt8 := do
  return Octets.field (← index buf i) shift mask

/-- `get!(buffer, bool, field: i, shift: shift, mask: 0b1)`. -/
def getFlag (i : ℕ) (shift : UInt8) : Outcome Bool := do
  return Octets.flag (← index buf i) shift

/-- The prefix of a route, behind the lifetime. -/
def routePrefix : Outcome (List UInt8) := do
  sliceAt buf 9 (← sub (← optionLength buf).toNat 9)

def targetPrefix : Outcome (List UInt8) := do
  let len ← sub (← optionLength buf).toNat 3
  sliceAt buf 4 (len + 1)

def parentAddress : Outcome (Option Ipv6.Address) := do
  if 5 < (← optionLength buf) then return some (← Icmpv6Packet.addressAt buf 6) else return none

end RplOption

namespace RplOptionRepr

open RplOption

def parse (buf : List UInt8) : Outcome RplOptionRepr := do
  match ← RplOption.optionType buf with
  | .pad1 => return .pad1
  | .padN => return .padN (← optionLength buf)
  | .dagMetricContainer => .error (.panic .unreachable)
  | .routeInformation =>
    return .routeInformation (← index buf 2) (((← index buf 3) &&& 0b0001_1000) >>> 3)
      (Octets.readU32 (← slice buf 4 9) 0) (← routePrefix buf)
  | .dodagConfiguration =>
    return .dodagConfiguration (← getFlag buf 2 3) (← getField buf 2 0 0b111) (← index buf 3)
      (← index buf 4) (← index buf 5) (← readU16 buf 6) (← readU16 buf 8) (← readU16 buf 10)
      (← index buf 13) (← readU16 buf 14)
  | .rplTarget =>
    return .rplTarget (← index buf 3) (← Ipv6.fromBytes (← targetPrefix buf))
  | .transitInformation =>
    return .transitInformation (← getFlag buf 2 7) (← index buf 3) (← index buf 4)
      (← index buf 5) (← parentAddress buf)
  | .solicitedInformation =>
    return .solicitedInformation (.ofByte (← index buf 2)) (← getFlag buf 3 7) (← getFlag buf 3 6)
      (← getFlag buf 3 5) (← Icmpv6Packet.addressAt buf 4) (← index buf 20)
  | .prefixInformation =>
    return .prefixInformation (← index buf 2) (← getFlag buf 3 7) (← getFlag buf 3 6)
      (← getFlag buf 3 5) (← readU32 buf 4) (← readU32 buf 8) (← slice buf 16 32)
  | .rplTargetDescriptor => return .rplTargetDescriptor (← readU32 buf 2)
  | .unknown _ => fail

/-- The length of the option that is emitted. The metric container is not implemented. -/
def bufferLen : RplOptionRepr → Outcome ℕ
  | .pad1 => .ok 1
  | .padN size => .ok (2 + size.toNat)
  | .dagMetricContainer => .error (.panic .unreachable)
  | .routeInformation _ _ _ prefixOctets => .ok (2 + 6 + prefixOctets.length)
  | .dodagConfiguration _ _ _ _ _ _ _ _ _ _ => .ok (2 + 14)
  | .rplTarget _ prefixAddr => .ok (2 + 2 + (Ipv6.octets prefixAddr).length)
  | .transitInformation _ _ _ _ parentAddress =>
    .ok (2 + 4 + if parentAddress.isSome then 16 else 0)
  | .solicitedInformation _ _ _ _ _ _ => .ok (2 + 2 + 16 + 1)
  | .prefixInformation _ _ _ _ _ _ _ => .ok 32
  | .rplTargetDescriptor _ => .ok (2 + 4)

/-- The type of an option, and how many octets follow the first two. -/
def emitHeader (repr : RplOptionRepr) (buf : List UInt8) : Outcome (List UInt8) := do
  let optionLength := UInt8.ofNat (← bufferLen repr)
  let buf ← write buf 0 [repr.optionType.toByte]
  if repr = .pad1 then return buf
  else
    let optionLength ← sub optionLength.toNat 2
    write buf 1 [.ofNat optionLength]

/-- The three flags of an octet that was cleared. -/
def setFlags (buf : List UInt8) (i : ℕ) (first second third : Bool) : Outcome (List UInt8) := do
  let buf ← setField buf i 7 0b1 (ofBool first)
  let buf ← setField buf i 6 0b1 (ofBool second)
  setField buf i 5 0b1 (ofBool third)

/-- The fields behind the length. The preference and the prefix of a route are not implemented. -/
def emitBody (repr : RplOptionRepr) (buf : List UInt8) : Outcome (List UInt8) :=
  match repr with
  | .pad1 => .ok buf
  | .padN size => write buf 2 (List.replicate size.toNat 0)
  | .dagMetricContainer => .error (.panic .unreachable)
  | .routeInformation prefixLength _ _ _ => do
    let buf ← write buf 3 [0]
    let _ ← write buf 2 [prefixLength]
    .error (.panic .unreachable)
  | .dodagConfiguration authenticationEnabled pathControlSize dioIntervalDoublings dioIntervalMin
      dioRedundancyConstant maxRankIncrease minimumHopRankIncrease objectiveCodePoint
      defaultLifetime lifetimeUnit => do
    let buf ← write buf 2 [0]
    let buf ← setField buf 2 3 0b1 (ofBool authenticationEnabled)
    let buf ← setField buf 2 0 0b111 pathControlSize
    let buf ← write buf 3 [dioIntervalDoublings]
    let buf ← write buf 4 [dioIntervalMin]
    let buf ← write buf 5 [dioRedundancyConstant]
    let buf ← write buf 6 (ofU16 maxRankIncrease)
    let buf ← write buf 8 (ofU16 minimumHopRankIncrease)
    let buf ← write buf 10 (ofU16 objectiveCodePoint)
    let buf ← write buf 13 [defaultLifetime]
    write buf 14 (ofU16 lifetimeUnit)
  | .rplTarget prefixLength prefixAddr => do
    let buf ← write buf 2 [0]
    let buf ← write buf 3 [prefixLength]
    write buf 4 (Ipv6.octets prefixAddr)
  | .transitInformation external pathControl pathSequence pathLifetime parentAddress => do
    let buf ← write buf 2 [0]
    let buf ← setField buf 2 7 0b1 (ofBool external)
    let buf ← write buf 3 [pathControl]
    let buf ← write buf 4 [pathSequence]
    let buf ← write buf 5 [pathLifetime]
    match parentAddress with
    | some address => write buf 6 (Ipv6.octets address)
    | none => .ok buf
  | .solicitedInformation rplInstanceId versionPredicate instanceIdPredicate dodagIdPredicate
      dodagId versionNumber => do
    let buf ← write buf 3 [0]
    let buf ← write buf 2 [rplInstanceId.toByte]
    let buf ← setFlags buf 3 versionPredicate instanceIdPredicate dodagIdPredicate
    let buf ← write buf 20 [versionNumber]
    write buf 4 (Ipv6.octets dodagId)
  | .prefixInformation prefixLength onLink autonomousAddressConfiguration routerAddress
      validLifetime preferredLifetime destinationPrefix => do
    let buf ← write buf 3 [0]
    let buf ← write buf 12 (List.replicate 4 0)
    let buf ← write buf 2 [prefixLength]
    let buf ← setFlags buf 3 onLink autonomousAddressConfiguration routerAddress
    let buf ← write buf 4 (ofU32 validLifetime)
    let buf ← write buf 8 (ofU32 preferredLifetime)
    copyAt buf 16 32 destinationPrefix
  | .rplTargetDescriptor descriptor => write buf 2 (ofU32 descriptor)

/-- Emit an option. -/
def emit (repr : RplOptionRepr) (buf : List UInt8) : Outcome (List UInt8) := do
  emitBody repr (← emitHeader repr buf)

/-- The values of an option fit their fields, and the option can be emitted. -/
def Fits : RplOptionRepr → Prop
  | .padN size => size ≤ 253
  | .dagMetricContainer | .routeInformation _ _ _ _ => False
  | .dodagConfiguration _ pathControlSize _ _ _ _ _ _ _ _ => pathControlSize < 8
  | .solicitedInformation rplInstanceId _ _ _ _ _ => rplInstanceId.id < 128
  | .prefixInformation _ _ _ _ _ _ destinationPrefix => destinationPrefix.length = 16
  | _ => True

end RplOptionRepr

namespace RplOption

lemma length_lt_of_nextOption {buf rest : List UInt8} (h : nextOption buf = .ok (some rest)) :
    rest.length < buf.length := by
  rw [nextOption] at h
  by_cases hbuf : buf = []
  · rw [if_pos hbuf] at h
    cases h
  rw [if_neg hbuf] at h
  have hpos := List.length_pos_iff.mpr hbuf
  obtain ⟨type, -, h⟩ := bind_eq_ok.mp h
  split at h
  · obtain ⟨r, hr, h⟩ := bind_eq_ok.mp h
    cases h
    obtain ⟨-, -, rfl⟩ := slice_eq_ok.mp hr
    rw [List.take_length, List.length_drop]
    omega
  · cases h
  · obtain ⟨len, -, h⟩ := bind_eq_ok.mp h
    obtain ⟨r, hr, h⟩ := bind_eq_ok.mp h
    cases h
    obtain ⟨-, -, rfl⟩ := slice_eq_ok.mp hr
    rw [List.take_length, List.length_drop]
    omega

/-- The options of a list of octets, each found behind the one before it, until the rest is
empty. -/
def readOptions (buf : List UInt8) : Outcome (List RplOptionRepr) :=
  if buf = [] then .ok []
  else do
    let repr ← RplOptionRepr.parse buf
    match _h : nextOption buf with
    | .ok (some rest) => return repr :: (← readOptions rest)
    | .ok none => return [repr]
    | .error f => .error f
termination_by buf.length
decreasing_by exact length_lt_of_nextOption ‹_›

/-! ### One option -/

/-- Octets that are read as an option, whatever is behind them. -/
structure Encodes (enc : List UInt8) (repr : RplOptionRepr) : Prop where
  ne_nil : enc ≠ []
  parse : ∀ rest, RplOptionRepr.parse (enc ++ rest) = .ok repr
  nextOption : ∀ rest, nextOption (enc ++ rest) = .ok (some rest)

section Fields

variable {type len : UInt8} {body : List (List UInt8)}

lemma optionType_fields (repr : RplOptionRepr) (rest : List UInt8) :
    optionType (([repr.optionType.toByte] :: [len] :: body).flatten ++ rest) =
      .ok repr.optionType := by
  rw [optionType, index_parts 0 (by rfl) (by rfl)]
  cases repr <;> rfl

lemma optionLength_fields (rest : List UInt8) :
    optionLength (([type] :: [len] :: body).flatten ++ rest) = .ok len :=
  index_parts 1 rfl rfl

/-- The next option is behind the octets that the length says. -/
lemma nextOption_fields {repr : RplOptionRepr} (hne : repr ≠ .pad1)
    (hlen : body.flatten.length = len.toNat) (rest : List UInt8) :
    nextOption (([repr.optionType.toByte] :: [len] :: body).flatten ++ rest) =
      .ok (some rest) := by
  have hsize : (([repr.optionType.toByte] :: [len] :: body).flatten).length = 2 + len.toNat := by
    rw [List.flatten_cons, List.flatten_cons, List.length_append, List.length_append, hlen]
    simp only [List.length_singleton]
    omega
  have hnext : (do return some (← sliceFrom (([repr.optionType.toByte] :: [len] :: body).flatten ++
      rest) (2 + (← optionLength (([repr.optionType.toByte] :: [len] :: body).flatten ++
      rest)).toNat)) : Outcome (Option (List UInt8))) = .ok (some rest) := by
    rw [optionLength_fields, ok_bind, sliceFrom_of (by rw [List.length_append, hsize]; omega),
      List.drop_left' hsize]
    rfl
  rw [nextOption, if_neg (by simp), optionType_fields, ok_bind]
  cases repr with
  | pad1 => exact absurd rfl hne
  | _ => exact hnext

lemma getFlag_parts {parts : List (List UInt8)} {rest : List UInt8} {octet : UInt8} {n : ℕ} (k : ℕ)
    (shift : UInt8) (hk : parts[k]? = some [octet])
    (hn : ((parts.map List.length).take k).sum = n) :
    getFlag (parts.flatten ++ rest) n shift = .ok (Octets.flag octet shift) := by
  rw [getFlag, index_parts k hk hn]
  rfl

end Fields

end RplOption

namespace RplOptionRepr

open RplOption RplRepr

variable {repr : RplOptionRepr} {old : List UInt8}

/-- An option is emitted over any octets, and is then read there. -/
def Emits (repr : RplOptionRepr) (old : List UInt8) : Prop :=
  ∃ enc, emit repr old = .ok enc ∧ Encodes enc repr

lemma emitHeader_eq {p q rest : List UInt8} {parts : List (List UInt8)} {len : ℕ}
    (hp : p.length = 1) (hq : q.length = 1) (hlen : repr.bufferLen = .ok (2 + len))
    (hlt : len < 254) (hne : repr ≠ .pad1) :
    emitHeader repr ((p :: q :: parts).flatten ++ rest) =
      .ok (([repr.optionType.toByte] :: [UInt8.ofNat len] :: parts).flatten ++ rest) := by
  have hnat : (UInt8.ofNat (2 + len)).toNat = 2 + len := by
    rw [UInt8.toNat_ofNat']
    omega
  rw [emitHeader, hlen, ok_bind, write_parts 0 (by simp [hp]) (by rfl), ok_bind, if_neg hne, hnat,
    sub_of_le (by omega), ok_bind, write_parts 1 (by simp [hq]) (by rfl), Nat.add_sub_cancel_left]
  rfl

/-- An option is emitted field by field, and read the same way. -/
lemma Emits.of_fields (len : ℕ) (sizes : List ℕ) (hlen : repr.bufferLen = .ok (2 + len))
    (hlt : len < 254) (hne : repr ≠ .pad1) (hsizes : sizes.sum = len)
    (hfields : ∀ parts : List (List UInt8), parts.map List.length = sizes →
      ∃ body : List (List UInt8), body.map List.length = sizes ∧
        emitBody repr (([repr.optionType.toByte] :: [UInt8.ofNat len] :: parts).flatten ++ []) =
          .ok (([repr.optionType.toByte] :: [UInt8.ofNat len] :: body).flatten ++ []) ∧
        ∀ rest, RplOptionRepr.parse
          (([repr.optionType.toByte] :: [UInt8.ofNat len] :: body).flatten ++ rest) = .ok repr)
    (hold : repr.bufferLen = .ok old.length) : Emits repr old := by
  rw [hlen, Except.ok.injEq] at hold
  obtain ⟨parts, rest, hparts, rfl⟩ := List.exists_parts (1 :: 1 :: sizes) (l := old)
    (by rw [List.sum_cons, List.sum_cons]; omega)
  have hrest : rest = [] := by
    apply List.eq_nil_of_length_eq_zero
    rw [List.length_append, List.length_flatten, hparts, List.sum_cons, List.sum_cons] at hold
    omega
  simp only [List.map_eq_cons_iff] at hparts
  obtain ⟨p, _, rfl, hp, q, parts, rfl, hq, hparts⟩ := hparts
  obtain ⟨body, hbody, hemit, hparse⟩ := hfields parts hparts
  have hsum : body.flatten.length = (UInt8.ofNat len).toNat := by
    rw [List.length_flatten, hbody, hsizes, UInt8.toNat_ofNat']
    omega
  refine ⟨([repr.optionType.toByte] :: [UInt8.ofNat len] :: body).flatten, ?_,
    ⟨by simp, hparse, nextOption_fields hne hsum⟩⟩
  rw [emit, hrest, emitHeader_eq hp hq hlen hlt hne, ok_bind, hemit, List.append_nil]

lemma emits_padN {size : UInt8} (h : size ≤ 253)
    (hold : bufferLen (.padN size) = .ok old.length) : Emits (.padN size) old := by
  have hlt : size.toNat < 254 := Nat.lt_succ_of_le (UInt8.le_iff_toNat_le.mp h)
  refine .of_fields size.toNat [size.toNat] rfl hlt nofun (by simp) (fun parts hparts => ?_) hold
  simp only [List.map_eq_cons_iff, List.map_eq_nil_iff] at hparts
  obtain ⟨a, _, rfl, ha, rfl⟩ := hparts
  refine ⟨[List.replicate size.toNat 0], by simp, ?_, fun rest => ?_⟩
  · rw [emitBody, write_parts 2 (by simp [ha]) (by rfl)]
    rfl
  · rw [parse, optionType_fields, ok_bind]
    dsimp only [RplOptionRepr.optionType]
    rw [optionLength_fields, UInt8.ofNat_toNat]
    rfl

/-- The flag and the size that share an octet. -/
lemma flag_field_pathControl (authenticationEnabled : Bool) {pathControlSize : UInt8}
    (h : pathControlSize < 8) :
    let octet := Octets.withField (Octets.withField 0 3 0b1 (ofBool authenticationEnabled)) 0 0b111
      pathControlSize
    Octets.flag octet 3 = authenticationEnabled ∧ Octets.field octet 0 0b111 = pathControlSize := by
  revert h
  revert pathControlSize
  cases authenticationEnabled <;> exact @Octets.forall_of_lt _ (by decide +kernel)

lemma emits_dodagConfiguration {authenticationEnabled : Bool} {pathControlSize
    dioIntervalDoublings dioIntervalMin dioRedundancyConstant defaultLifetime : UInt8}
    {maxRankIncrease minimumHopRankIncrease objectiveCodePoint lifetimeUnit : UInt16}
    (h : pathControlSize < 8)
    (hold : bufferLen (.dodagConfiguration authenticationEnabled pathControlSize
      dioIntervalDoublings dioIntervalMin dioRedundancyConstant maxRankIncrease
      minimumHopRankIncrease objectiveCodePoint defaultLifetime lifetimeUnit) = .ok old.length) :
    Emits (.dodagConfiguration authenticationEnabled pathControlSize dioIntervalDoublings
      dioIntervalMin dioRedundancyConstant maxRankIncrease minimumHopRankIncrease
      objectiveCodePoint defaultLifetime lifetimeUnit) old := by
  refine .of_fields 14 [1, 1, 1, 1, 2, 2, 2, 1, 1, 2] rfl (by decide) nofun rfl
    (fun parts hparts => ?_) hold
  simp only [List.map_eq_cons_iff, List.map_eq_nil_iff, List.length_eq_one_iff,
    List.length_eq_two] at hparts
  obtain ⟨_, _, rfl, ⟨a, rfl⟩, _, _, rfl, ⟨b, rfl⟩, _, _, rfl, ⟨c, rfl⟩, _, _, rfl, ⟨d, rfl⟩, _, _,
    rfl, ⟨e, e', rfl⟩, _, _, rfl, ⟨f, f', rfl⟩, _, _, rfl, ⟨g, g', rfl⟩, _, _, rfl, ⟨i, rfl⟩, _, _,
    rfl, ⟨j, rfl⟩, _, _, rfl, ⟨k, k', rfl⟩, rfl⟩ := hparts
  obtain ⟨hflag, hfield⟩ := flag_field_pathControl authenticationEnabled h
  generalize hoctet : Octets.withField (Octets.withField 0 3 0b1 (ofBool authenticationEnabled)) 0
    0b111 pathControlSize = octet at hflag hfield
  refine ⟨[[octet], [dioIntervalDoublings], [dioIntervalMin], [dioRedundancyConstant],
    ofU16 maxRankIncrease, ofU16 minimumHopRankIncrease, ofU16 objectiveCodePoint, [i],
    [defaultLifetime], ofU16 lifetimeUnit], rfl, ?_, fun rest => ?_⟩
  · rw [emitBody, write_parts 2 (by rfl) (by rfl), ok_bind,
      setField_parts 2 3 _ _ (by rfl) (by rfl), ok_bind, setField_parts 2 0 _ _ (by rfl) (by rfl),
      ok_bind, hoctet,
      write_parts 3 (by rfl) (by rfl), ok_bind, write_parts 4 (by rfl) (by rfl), ok_bind,
      write_parts 5 (by rfl) (by rfl), ok_bind, write_parts 6 (by rfl) (by rfl), ok_bind,
      write_parts 7 (by rfl) (by rfl), ok_bind, write_parts 8 (by rfl) (by rfl), ok_bind,
      write_parts 10 (by rfl) (by rfl), ok_bind, write_parts 11 (by rfl) (by rfl)]
    rfl
  · rw [parse, optionType_fields, ok_bind]
    dsimp only [RplOptionRepr.optionType]
    rw [getFlag_parts 2 3 (by rfl) (by rfl), ok_bind, getField, index_parts 2 (by rfl) (by rfl),
      ok_bind, pure_eq_ok, ok_bind, hflag, hfield, index_parts 3 (by rfl) (by rfl), ok_bind,
      index_parts 4 (by rfl) (by rfl), ok_bind, index_parts 5 (by rfl) (by rfl), ok_bind,
      readU16_parts 6 (by rfl) (by rfl), ok_bind, readU16_parts 7 (by rfl) (by rfl), ok_bind,
      readU16_parts 8 (by rfl) (by rfl), ok_bind, index_parts 10 (by rfl) (by rfl), ok_bind,
      readU16_parts 11 (by rfl) (by rfl)]
    rfl

lemma emits_rplTarget {prefixLength : UInt8} {prefixAddr : Ipv6.Address}
    (hold : bufferLen (.rplTarget prefixLength prefixAddr) = .ok old.length) :
    Emits (.rplTarget prefixLength prefixAddr) old := by
  have hlen : (Ipv6.octets prefixAddr).length = 16 := Ipv6.length_octets prefixAddr
  refine .of_fields 18 [1, 1, 16] (by rw [bufferLen, hlen]) (by decide) nofun rfl
    (fun parts hparts => ?_) hold
  simp only [List.map_eq_cons_iff, List.map_eq_nil_iff] at hparts
  obtain ⟨a, _, rfl, ha, b, _, rfl, hb, c, _, rfl, hc, rfl⟩ := hparts
  refine ⟨[[0], [prefixLength], Ipv6.octets prefixAddr], by simp [hlen], ?_, fun rest => ?_⟩
  · rw [emitBody, write_parts 2 (by simp [ha]) (by rfl), ok_bind, write_parts 3 (by simp [hb])
      (by rfl), ok_bind, write_parts 4 (by simp [hc, hlen]) (by rfl)]
    rfl
  · rw [parse, optionType_fields, ok_bind]
    dsimp only [RplOptionRepr.optionType]
    rw [index_parts 3 (by rfl) (by rfl), ok_bind, targetPrefix, optionLength_fields, ok_bind,
      sub_of_le (by decide), ok_bind]
    have hslice : sliceAt ([[0x05], [18], [0], [prefixLength], Ipv6.octets prefixAddr].flatten ++
        rest) 4 16 = .ok (Ipv6.octets prefixAddr) := by
      rw [sliceAt_of (by simp [hlen])]
      simp [hlen]
    refine (congrArg (fun x => x >>= fun part => Ipv6.fromBytes part >>= fun address =>
      .ok (rplTarget prefixLength address)) hslice).trans ?_
    rw [ok_bind, Ipv6.fromBytes_octets]
    rfl

lemma emits_transitInformation {external : Bool} {pathControl pathSequence pathLifetime : UInt8}
    {parentAddress : Option Ipv6.Address}
    (hold : bufferLen (.transitInformation external pathControl pathSequence pathLifetime
      parentAddress) = .ok old.length) :
    Emits (.transitInformation external pathControl pathSequence pathLifetime parentAddress)
      old := by
  have hflag : Octets.flag (Octets.withField 0 7 0b1 (ofBool external)) 7 = external :=
    (Octets.flag_withField_seven external 0).1
  have hlen := length_dodagOctets parentAddress
  generalize hn : (if parentAddress.isSome then 16 else 0) = n at hlen
  have hlt : 4 + n < 254 := by
    rw [← hn]
    split_ifs <;> decide
  refine .of_fields (4 + n) [1, 1, 1, 1, n] (by rw [bufferLen, hn, Nat.add_assoc]) hlt nofun
    (by simp only [List.sum_cons, List.sum_nil]; omega) (fun parts hparts => ?_) hold
  simp only [List.map_eq_cons_iff, List.map_eq_nil_iff, List.length_eq_one_iff] at hparts
  obtain ⟨_, _, rfl, ⟨a, rfl⟩, _, _, rfl, ⟨b, rfl⟩, _, _, rfl, ⟨c, rfl⟩, _, _, rfl, ⟨d, rfl⟩, e, _,
    rfl, he, rfl⟩ := hparts
  generalize hoctet : Octets.withField 0 7 0b1 (ofBool external) = octet at hflag
  refine ⟨[[octet], [pathControl], [pathSequence], [pathLifetime], dodagOctets parentAddress],
    by simp [hlen], ?_, fun rest => ?_⟩
  · rw [emitBody, write_parts 2 (by rfl) (by rfl), ok_bind,
      setField_parts 2 7 _ _ (by rfl) (by rfl), ok_bind, hoctet, write_parts 3 (by rfl) (by rfl),
      ok_bind, write_parts 4 (by rfl) (by rfl), ok_bind, write_parts 5 (by rfl) (by rfl), ok_bind]
    cases parentAddress with
    | none =>
      obtain rfl : e = [] := List.eq_nil_of_length_eq_zero (he.trans hn.symm)
      rfl
    | some address =>
      dsimp only
      rw [write_parts 6 (by simp [he, ← hn, Ipv6.length_octets]) (by rfl)]
      rfl
  · rw [parse, optionType_fields, ok_bind]
    dsimp only [RplOptionRepr.optionType]
    rw [getFlag_parts 2 7 (by rfl) (by rfl), ok_bind, hflag, index_parts 3 (by rfl) (by rfl),
      ok_bind, index_parts 4 (by rfl) (by rfl), ok_bind, index_parts 5 (by rfl) (by rfl), ok_bind,
      RplOption.parentAddress, optionLength_fields, ok_bind]
    cases parentAddress with
    | none =>
      subst hn
      rfl
    | some address =>
      subst hn
      rw [if_pos (by simp only [Option.isSome_some, if_true]; decide),
        Icmpv6Packet.addressAt_parts 6 (by rfl) (by rfl)]
      rfl

/-- Three flags in an octet that was cleared. -/
def flagsOctet (first second third : Bool) : UInt8 :=
  Octets.withField (Octets.withField (Octets.withField 0 7 0b1 (ofBool first)) 6 0b1
    (ofBool second)) 5 0b1 (ofBool third)

lemma flag_flagsOctet (first second third : Bool) :
    Octets.flag (flagsOctet first second third) 7 = first ∧
      Octets.flag (flagsOctet first second third) 6 = second ∧
      Octets.flag (flagsOctet first second third) 5 = third := by
  cases first <;> cases second <;> cases third <;> decide

lemma setFlags_parts {parts : List (List UInt8)} {rest : List UInt8} {n : ℕ} (k : ℕ)
    (first second third : Bool) (hk : parts[k]? = some [0])
    (hn : ((parts.map List.length).take k).sum = n) :
    setFlags (parts.flatten ++ rest) n first second third =
      .ok ((parts.set k [flagsOctet first second third]).flatten ++ rest) := by
  have hlt := (List.getElem?_eq_some_iff.mp hk).1
  have hset : ∀ a b : UInt8, ((parts.set k [a]).set k [b]) = parts.set k [b] := fun a b =>
    List.set_set ..
  have hsizes : ∀ a : UInt8, (parts.set k [a]).map List.length = parts.map List.length := fun a =>
    List.map_length_set (by rw [List.getElem?_map, hk]; rfl)
  rw [setFlags, setField_parts k 7 _ _ hk hn, ok_bind,
    setField_parts k 6 _ _ (List.getElem?_set_self hlt) (by rw [hsizes, hn]), ok_bind, hset,
    setField_parts k 5 _ _ (List.getElem?_set_self hlt) (by rw [hsizes, hn]), hset]
  rfl

lemma emits_solicitedInformation {rplInstanceId : Rpl.InstanceId} {versionPredicate
    instanceIdPredicate dodagIdPredicate : Bool} {dodagId : Ipv6.Address} {versionNumber : UInt8}
    (h : rplInstanceId.id < 128)
    (hold : bufferLen (.solicitedInformation rplInstanceId versionPredicate instanceIdPredicate
      dodagIdPredicate dodagId versionNumber) = .ok old.length) :
    Emits (.solicitedInformation rplInstanceId versionPredicate instanceIdPredicate
      dodagIdPredicate dodagId versionNumber) old := by
  have hlen : (Ipv6.octets dodagId).length = 16 := Ipv6.length_octets dodagId
  refine .of_fields 19 [1, 1, 16, 1] rfl (by decide) nofun rfl (fun parts hparts => ?_) hold
  simp only [List.map_eq_cons_iff, List.map_eq_nil_iff, List.length_eq_one_iff] at hparts
  obtain ⟨_, _, rfl, ⟨a, rfl⟩, _, _, rfl, ⟨b, rfl⟩, c, _, rfl, hc, _, _, rfl, ⟨d, rfl⟩, rfl⟩ :=
    hparts
  obtain ⟨h7, h6, h5⟩ := flag_flagsOctet versionPredicate instanceIdPredicate dodagIdPredicate
  generalize hoctet : flagsOctet versionPredicate instanceIdPredicate dodagIdPredicate = octet
    at h7 h6 h5
  refine ⟨[[rplInstanceId.toByte], [octet], Ipv6.octets dodagId, [versionNumber]], by simp [hlen],
    ?_, fun rest => ?_⟩
  · rw [emitBody, write_parts 3 (by rfl) (by rfl), ok_bind, write_parts 2 (by rfl) (by rfl),
      ok_bind, setFlags_parts 3 _ _ _ (by rfl) (by rfl), ok_bind, hoctet,
      write_parts 5 (by rfl) (by simp [hc]), ok_bind, write_parts 4 (by simp [hc, hlen]) (by rfl)]
    rfl
  · rw [parse, optionType_fields, ok_bind]
    dsimp only [RplOptionRepr.optionType]
    rw [index_parts 2 (by rfl) (by rfl), ok_bind, getFlag_parts 3 7 (by rfl) (by rfl), ok_bind, h7,
      getFlag_parts 3 6 (by rfl) (by rfl), ok_bind, h6, getFlag_parts 3 5 (by rfl) (by rfl),
      ok_bind, h5, Icmpv6Packet.addressAt_parts 4 (by rfl) (by rfl), ok_bind,
      index_parts 5 (by rfl) (by simp [hlen]), ok_bind,
      (Rpl.InstanceId.ofByte_toByte_iff rplInstanceId).mpr h]
    rfl

lemma emits_prefixInformation {prefixLength : UInt8} {onLink autonomousAddressConfiguration
    routerAddress : Bool} {validLifetime preferredLifetime : BitVec 32}
    {destinationPrefix : List UInt8} (h : destinationPrefix.length = 16)
    (hold : bufferLen (.prefixInformation prefixLength onLink autonomousAddressConfiguration
      routerAddress validLifetime preferredLifetime destinationPrefix) = .ok old.length) :
    Emits (.prefixInformation prefixLength onLink autonomousAddressConfiguration routerAddress
      validLifetime preferredLifetime destinationPrefix) old := by
  refine .of_fields 30 [1, 1, 4, 4, 4, 16] rfl (by decide) nofun rfl (fun parts hparts => ?_) hold
  simp only [List.map_eq_cons_iff, List.map_eq_nil_iff, List.length_eq_one_iff] at hparts
  obtain ⟨_, _, rfl, ⟨a, rfl⟩, _, _, rfl, ⟨b, rfl⟩, c, _, rfl, hc, d, _, rfl, hd, e, _, rfl, he, f,
    _, rfl, hf, rfl⟩ := hparts
  obtain ⟨h7, h6, h5⟩ := flag_flagsOctet onLink autonomousAddressConfiguration routerAddress
  generalize hoctet : flagsOctet onLink autonomousAddressConfiguration routerAddress = octet
    at h7 h6 h5
  refine ⟨[[prefixLength], [octet], ofU32 validLifetime, ofU32 preferredLifetime,
    List.replicate 4 0, destinationPrefix], by simp [h], ?_, fun rest => ?_⟩
  · rw [emitBody, write_parts 3 (by rfl) (by rfl), ok_bind,
      write_parts 6 (by simp [he]) (by simp [hc, hd]), ok_bind, write_parts 2 (by rfl) (by rfl),
      ok_bind, setFlags_parts 3 _ _ _ (by rfl) (by rfl), ok_bind, hoctet,
      write_parts 4 (by simp [hc]) (by rfl), ok_bind, write_parts 5 (by simp [hd]) (by rfl),
      ok_bind, copyAt_eq_write (by simp [hf]) (by rw [h]),
      write_parts 7 (by simp [h, hf]) (by rfl)]
    rfl
  · rw [parse, optionType_fields, ok_bind]
    dsimp only [RplOptionRepr.optionType]
    rw [index_parts 2 (by rfl) (by rfl), ok_bind, getFlag_parts 3 7 (by rfl) (by rfl), ok_bind, h7,
      getFlag_parts 3 6 (by rfl) (by rfl), ok_bind, h6, getFlag_parts 3 5 (by rfl) (by rfl),
      ok_bind, h5, readU32_parts 4 (by rfl) (by rfl), ok_bind, readU32_parts 5 (by rfl) (by rfl),
      ok_bind, slice_parts 7 (by rfl) (by rfl) (by rw [h])]
    rfl

lemma emits_rplTargetDescriptor {descriptor : BitVec 32}
    (hold : bufferLen (.rplTargetDescriptor descriptor) = .ok old.length) :
    Emits (.rplTargetDescriptor descriptor) old := by
  refine .of_fields 4 [4] rfl (by decide) nofun rfl (fun parts hparts => ?_) hold
  simp only [List.map_eq_cons_iff, List.map_eq_nil_iff] at hparts
  obtain ⟨a, _, rfl, ha, rfl⟩ := hparts
  refine ⟨[ofU32 descriptor], rfl, ?_, fun rest => ?_⟩
  · rw [emitBody, write_parts 2 (by simp [ha]) (by rfl)]
    rfl
  · rw [parse, optionType_fields, ok_bind]
    dsimp only [RplOptionRepr.optionType]
    rw [readU32_parts 2 (by rfl) (by rfl)]
    rfl

lemma emits_pad1 (hold : bufferLen .pad1 = .ok old.length) : Emits .pad1 old := by
  obtain ⟨a, rfl⟩ := List.length_eq_one_iff.mp (Except.ok.inj hold).symm
  exact ⟨[0x00], rfl, by simp, fun rest => rfl, fun rest => by
    have hne : [0x00] ++ rest ≠ [] := List.cons_ne_nil _ _
    rw [RplOption.nextOption, if_neg hne]
    have hslice : sliceFrom ([0x00] ++ rest) 1 = .ok rest :=
      sliceFrom_of (Nat.le_add_left 1 rest.length)
    exact congrArg (· >>= fun rest => .ok (some rest)) hslice⟩

/-- Every option that fits is emitted, over any octets, so that it is read. -/
lemma Fits.emits (h : repr.Fits) (hold : repr.bufferLen = .ok old.length) : Emits repr old := by
  cases repr with
  | pad1 => exact emits_pad1 hold
  | padN size => exact emits_padN h hold
  | dagMetricContainer => exact h.elim
  | routeInformation _ _ _ _ => exact h.elim
  | dodagConfiguration _ _ _ _ _ _ _ _ _ _ => exact emits_dodagConfiguration h hold
  | rplTarget _ _ => exact emits_rplTarget hold
  | transitInformation _ _ _ _ _ => exact emits_transitInformation hold
  | solicitedInformation _ _ _ _ _ _ => exact emits_solicitedInformation h hold
  | prefixInformation _ _ _ _ _ _ _ => exact emits_prefixInformation h hold
  | rplTargetDescriptor _ => exact emits_rplTargetDescriptor hold

end RplOptionRepr

/-! ### Lists of options -/

namespace RplOption

/-- The options, each emitted into a buffer of its own. -/
def emitOptions : List (RplOptionRepr × List UInt8) → Outcome (List UInt8)
  | [] => .ok []
  | (repr, buf) :: options => do
    return (← repr.emit buf) ++ (← emitOptions options)

lemma Encodes.readOptions {enc : List UInt8} {repr : RplOptionRepr} (h : Encodes enc repr)
    {rest : List UInt8} {reprs : List RplOptionRepr} (hrest : readOptions rest = .ok reprs) :
    readOptions (enc ++ rest) = .ok (repr :: reprs) := by
  rw [RplOption.readOptions, if_neg (by simp [h.ne_nil]), h.parse, ok_bind]
  split
  · next rest' heq =>
    rw [h.nextOption] at heq
    cases heq
    rw [hrest]
    rfl
  · next heq =>
    rw [h.nextOption] at heq
    cases heq
  · next heq =>
    rw [h.nextOption] at heq
    cases heq

/-- The options are read back from what was emitted one behind the other. -/
lemma exists_emitOptions {pairs : List (RplOptionRepr × List UInt8)}
    (h : ∀ p ∈ pairs, p.1.Fits ∧ p.1.bufferLen = .ok p.2.length) :
    ∃ area, emitOptions pairs = .ok area ∧ readOptions area = .ok (pairs.map Prod.fst) := by
  induction pairs with
  | nil => exact ⟨[], rfl, by rw [readOptions, if_pos rfl]; rfl⟩
  | cons p pairs ih =>
    obtain ⟨hfits, hold⟩ := h p List.mem_cons_self
    obtain ⟨enc, hemit, henc⟩ := hfits.emits hold
    obtain ⟨area, harea, hread⟩ := ih fun p hp => h p (List.mem_cons_of_mem _ hp)
    refine ⟨enc ++ area, ?_, henc.readOptions hread⟩
    rw [emitOptions, hemit, ok_bind, harea]
    rfl

end RplOption

/-! ### Messages -/

namespace RplRepr

open Icmpv6 Icmpv6Packet

def setOptions (repr : RplRepr) (options : List UInt8) : Outcome RplRepr :=
  match repr with
  | .dodagInformationSolicitation _ => .ok (.dodagInformationSolicitation options)
  | .dodagInformationObject rplInstanceId versionNumber rank grounded modeOfOperation
      dodagPreference dtsn dodagId _ =>
    .ok (.dodagInformationObject rplInstanceId versionNumber rank grounded modeOfOperation
      dodagPreference dtsn dodagId options)
  | .destinationAdvertisementObject rplInstanceId expectAck sequence dodagId _ =>
    .ok (.destinationAdvertisementObject rplInstanceId expectAck sequence dodagId options)
  | .destinationAdvertisementObjectAck _ _ _ _ => .error (.panic .unreachable)

/-- The values of a message fit their fields. -/
def Fits : RplRepr → Prop
  | .dodagInformationSolicitation _ => True
  | .dodagInformationObject rplInstanceId _ _ _ modeOfOperation dodagPreference _ _ _ =>
    rplInstanceId.id < 128 ∧ (modeOfOperation.toByte < 8 ∧ modeOfOperation.IsCanonical) ∧
      dodagPreference < 8
  | .destinationAdvertisementObject rplInstanceId _ _ _ _ => rplInstanceId.id < 128
  | .destinationAdvertisementObjectAck rplInstanceId _ _ _ => rplInstanceId.id < 128

/-- A message is emitted over any octets, and read back with its options. -/
def RoundTrips (repr : RplRepr) (options old : List UInt8) : Prop :=
  ∃ out, repr.emit old = .ok out ∧ parse out = .ok repr ∧ RplRepr.options out = .ok options

variable {repr : RplRepr} {old options : List UInt8}

/-- The options are what is behind their start. -/
lemma options_of_start {buf : List UInt8} {n : ℕ} (hstart : optionsStart buf = .ok n)
    (hn : n ≤ buf.length) : RplRepr.options buf = .ok (buf.drop n) := by
  obtain ⟨code, hcode, hstart⟩ := bind_eq_ok.mp hstart
  have hslice : ∀ present : Bool, (if present then 24 else 8) = n →
      optionsBehind buf present = .ok (buf.drop n) := by
    rintro present rfl
    cases present with
    | false =>
      have h8 : 8 ≤ buf.length := hn
      rw [optionsBehind, if_neg Bool.false_ne_true, reject_of_not (not_lt.mpr h8), ok_bind,
        sliceFrom_of h8]
      rfl
    | true =>
      have h24 : 24 ≤ buf.length := hn
      rw [optionsBehind, if_pos rfl, reject_of_not (not_lt.mpr h24), ok_bind, sliceFrom_of h24]
      rfl
  rw [RplRepr.options, hcode, ok_bind]
  cases hc : RplControlMessage.ofByte code with
  | dodagInformationSolicitation =>
    rw [hc] at hstart
    cases hstart
    dsimp only
    rw [reject_of_not (not_lt.mpr hn), ok_bind, sliceFrom_of hn]
  | dodagInformationObject =>
    rw [hc] at hstart
    cases hstart
    dsimp only
    rw [reject_of_not (not_lt.mpr hn), ok_bind, sliceFrom_of hn]
  | destinationAdvertisementObject =>
    rw [hc] at hstart
    obtain ⟨present, hpresent, hstart⟩ := bind_eq_ok.mp hstart
    dsimp only
    rw [hpresent]
    exact hslice present (Except.ok.inj hstart)
  | destinationAdvertisementObjectAck =>
    rw [hc] at hstart
    obtain ⟨present, hpresent, hstart⟩ := bind_eq_ok.mp hstart
    dsimp only
    rw [hpresent]
    exact hslice present (Except.ok.inj hstart)
  | secure value =>
    rw [hc] at hstart
    cases hstart
  | unknown value =>
    rw [hc] at hstart
    cases hstart

/-- The options of a message are copied behind its fields, where they are found again. -/
lemma RoundTrips.of_fields {l rest : List UInt8} (hrest : rest.length = options.length)
    (hemit : repr.emit old = copyOptions (l ++ rest) options)
    (hstart : ∀ rest, optionsStart (l ++ rest) = .ok l.length)
    (hparse : RplRepr.options (l ++ options) = .ok options → parse (l ++ options) = .ok repr) :
    RoundTrips repr options old := by
  have hopts : RplRepr.options (l ++ options) = .ok options := by
    rw [options_of_start (hstart options) (by simp), List.drop_left' rfl]
  exact ⟨l ++ options, hemit.trans (copyOptions_eq (hstart rest) hrest), hparse hopts, hopts⟩

lemma roundTrips_dis (hold : old.length = bufferLen (.dodagInformationSolicitation options)) :
    RoundTrips (.dodagInformationSolicitation options) options old := by
  rw [bufferLen] at hold
  obtain ⟨parts, rest, hsizes, rfl⟩ := List.exists_parts [1, 1, 2, 1, 1] (l := old)
    (by simp only [List.sum_cons, List.sum_nil]; omega)
  have hrest : rest.length = options.length := by
    rw [List.length_append, List.length_flatten, hsizes] at hold
    simp only [List.sum_cons, List.sum_nil] at hold
    omega
  simp only [List.map_eq_cons_iff, List.map_eq_nil_iff, List.length_eq_one_iff,
    List.length_eq_two] at hsizes
  obtain ⟨_, _, rfl, ⟨type, rfl⟩, _, _, rfl, ⟨code, rfl⟩, _, _, rfl, ⟨k, k', rfl⟩, _, _, rfl,
    ⟨flags, rfl⟩, _, _, rfl, ⟨reserved, rfl⟩, rfl⟩ := hsizes
  have hcode : ∀ rest : List UInt8, msgCode ([[0x9b], [0x00], [k, k'], [0], [0]].flatten ++ rest) =
      .ok 0x00 := fun rest => index_parts 1 rfl rfl
  refine .of_fields (l := [[0x9b], [0x00], [k, k'], [0], [0]].flatten) hrest ?_ (fun rest => ?_)
    fun hopts => ?_
  · rw [emit, Icmpv6Packet.setMsgType, write_parts 0 (by rfl) (by rfl), ok_bind]
    dsimp only
    rw [Icmpv6Packet.setMsgCode, write_parts 1 (by rfl) (by rfl), ok_bind,
      write_parts 3 (by rfl) (by rfl), ok_bind, write_parts 4 (by rfl) (by rfl), ok_bind]
    rfl
  · rw [optionsStart, hcode]
    rfl
  · rw [parse, (checkLen_eq_ok rfl).mpr (Nat.le_add_left 6 _), ok_bind, hopts, ok_bind, hcode]
    rfl

lemma roundTrips_dao {rplInstanceId : Rpl.InstanceId} {expectAck : Bool} {sequence : UInt8}
    {dodagId : Option Ipv6.Address} (h : rplInstanceId.id < 128)
    (hold : old.length = bufferLen (.destinationAdvertisementObject rplInstanceId expectAck sequence
      dodagId options)) :
    RoundTrips (.destinationAdvertisementObject rplInstanceId expectAck sequence dodagId options)
      options old := by
  have hlen : old.length = 8 + (dodagOctets dodagId).length + options.length := by
    rw [hold, length_dodagOctets, bufferLen]
    split_ifs <;> rfl
  obtain ⟨type, code, k, k', i, flags, reserved, last, dodag, rest, hdodag, rfl⟩ :=
    exists_daoFields (le_trans (Nat.le_add_right _ options.length) (le_of_eq hlen.symm))
  have hrest : rest.length = options.length := by
    rw [List.length_append, length_daoFields, hdodag] at hlen
    omega
  generalize hack : Octets.withField flags 7 0b1 (Octets.ofBool expectAck) = acked
  obtain ⟨hsix, hseven⟩ := Octets.flag_withField_six dodagId.isSome acked
  rw [← hack, (Octets.flag_withField_seven expectAck flags).1, hack] at hseven
  generalize hflags : Octets.withField acked 6 0b1 (Octets.ofBool dodagId.isSome) = out
    at hsix hseven
  refine .of_fields (l := (daoFields 0x9b 0x02 k k' rplInstanceId.toByte out reserved sequence
    (dodagOctets dodagId)).flatten) hrest ?_ (fun rest => ?_) fun hopts => ?_
  · rw [emit, Icmpv6Packet.setMsgType, write_parts 0 (by rfl) (by rfl), ok_bind]
    dsimp only
    rw [Icmpv6Packet.setMsgCode, write_parts 1 (by rfl) (by rfl), ok_bind,
      write_parts 3 (by rfl) (by rfl), ok_bind, setField_parts 4 7 _ _ (by rfl) (by rfl), ok_bind,
      hack, write_parts 6 (by rfl) (by rfl), ok_bind, setDaoDodagId]
    refine (congrArg (· >>= fun buf => copyOptions buf options) (setDodagId_eq 6 hdodag)).trans ?_
    rw [ok_bind, hflags]
    rfl
  · exact optionsStart_daoFields (.inl ⟨rfl, rfl⟩) hsix
  · have hcheck : checkLen ((daoFields 0x9b 0x02 k k' rplInstanceId.toByte out reserved sequence
        (dodagOctets dodagId)).flatten ++ options) = .ok () := by
      rw [checkLen_eq_ok rfl]
      change 8 ≤ _ ∧ (Octets.flag out 6 → 24 ≤ _)
      rw [List.length_append, length_daoFields, length_dodagOctets, hsix]
      cases dodagId with
      | none => simp
      | some address =>
        simp only [Option.isSome_some, if_true]
        omega
    rw [parse, hcheck, ok_bind, hopts, ok_bind, msgCode_daoFields, ok_bind]
    change (do
      let i ← index _ 4
      let expectAck ← bit _ 5 7
      let last ← index _ 7
      let dodagId ← RplRepr.dodagId _ (← daoDodagIdPresent _)
      return destinationAdvertisementObject (.ofByte i) expectAck last dodagId options) = _
    rw [index_parts 3 (by rfl) (by rfl), ok_bind, bit_daoFields, ok_bind, hseven,
      index_parts 6 (by rfl) (by rfl), ok_bind, daoDodagIdPresent, bit_daoFields, ok_bind, hsix,
      dodagId_daoFields, (Rpl.InstanceId.ofByte_toByte_iff rplInstanceId).mpr h]
    rfl

/-- The octet of the grounded flag, the mode of operation and the preference. -/
def dioOctet (octet : UInt8) (grounded : Bool) (modeOfOperation dodagPreference : UInt8) : UInt8 :=
  Octets.withField (Octets.withField (Octets.withField octet 7 0b1 (ofBool grounded)) 3 0b111
    modeOfOperation) 0 0b111 dodagPreference

lemma field_dioOctet (octet : UInt8) (grounded : Bool) {modeOfOperation dodagPreference : UInt8}
    (hmode : modeOfOperation < 8) (hpreference : dodagPreference < 8) :
    let out := dioOctet octet grounded modeOfOperation dodagPreference
    Octets.flag out 7 = grounded ∧ Octets.field out 3 0b111 = modeOfOperation ∧
      out &&& 0b111 = dodagPreference := by
  intro out
  have hgrounded := (Octets.flag_withField_seven grounded octet).1
  obtain ⟨hthree, hseven⟩ := Octets.field_withField_three
    (Octets.withField octet 7 0b1 (ofBool grounded)) hmode
  obtain ⟨hzero, hthree', hseven'⟩ := Octets.field_withField_zero
    (Octets.withField (Octets.withField octet 7 0b1 (ofBool grounded)) 3 0b111 modeOfOperation)
    hpreference
  refine ⟨hseven'.trans (hseven.trans hgrounded), hthree'.trans hthree, ?_⟩
  rwa [Octets.field, UInt8.shiftRight_zero] at hzero

lemma roundTrips_dio {rplInstanceId : Rpl.InstanceId} {versionNumber : UInt8} {rank : UInt16}
    {grounded : Bool} {modeOfOperation : Rpl.ModeOfOperation} {dodagPreference dtsn : UInt8}
    {dodagId : Ipv6.Address} (h : rplInstanceId.id < 128) (hmode : modeOfOperation.toByte < 8)
    (hcanonical : modeOfOperation.IsCanonical) (hpreference : dodagPreference < 8)
    (hold : old.length = bufferLen (.dodagInformationObject rplInstanceId versionNumber rank
      grounded modeOfOperation dodagPreference dtsn dodagId options)) :
    RoundTrips (.dodagInformationObject rplInstanceId versionNumber rank grounded modeOfOperation
      dodagPreference dtsn dodagId options) options old := by
  have hlen : (Ipv6.octets dodagId).length = 16 := Ipv6.length_octets dodagId
  rw [bufferLen] at hold
  obtain ⟨parts, rest, hsizes, rfl⟩ := List.exists_parts [1, 1, 2, 1, 1, 2, 1, 1, 1, 1, 16]
    (l := old) (by simp only [List.sum_cons, List.sum_nil]; omega)
  have hrest : rest.length = options.length := by
    rw [List.length_append, List.length_flatten, hsizes] at hold
    simp only [List.sum_cons, List.sum_nil] at hold
    omega
  simp only [List.map_eq_cons_iff, List.map_eq_nil_iff, List.length_eq_one_iff,
    List.length_eq_two] at hsizes
  obtain ⟨_, _, rfl, ⟨type, rfl⟩, _, _, rfl, ⟨code, rfl⟩, _, _, rfl, ⟨k, k', rfl⟩, _, _, rfl,
    ⟨i, rfl⟩, _, _, rfl, ⟨version, rfl⟩, _, _, rfl, ⟨r, r', rfl⟩, _, _, rfl, ⟨octet, rfl⟩, _, _,
    rfl, ⟨d, rfl⟩, _, _, rfl, ⟨flags, rfl⟩, _, _, rfl, ⟨reserved, rfl⟩, dodag, _, rfl, hdodag,
    rfl⟩ := hsizes
  obtain ⟨hflag, hfield, hand⟩ := field_dioOctet octet grounded hmode hpreference
  generalize hout : dioOctet octet grounded modeOfOperation.toByte dodagPreference = out
    at hflag hfield hand
  have hcode : ∀ rest : List UInt8, msgCode ([[0x9b], [0x01], [k, k'], [rplInstanceId.toByte],
      [versionNumber], ofU16 rank, [out], [dtsn], [flags], [reserved],
      Ipv6.octets dodagId].flatten ++ rest) = .ok 0x01 := fun rest => index_parts 1 rfl rfl
  refine .of_fields (l := [[0x9b], [0x01], [k, k'], [rplInstanceId.toByte], [versionNumber],
    ofU16 rank, [out], [dtsn], [flags], [reserved], Ipv6.octets dodagId].flatten) hrest ?_
    (fun rest => ?_) fun hopts => ?_
  · rw [emit, Icmpv6Packet.setMsgType, write_parts 0 (by rfl) (by rfl), ok_bind]
    dsimp only
    rw [Icmpv6Packet.setMsgCode, write_parts 1 (by rfl) (by rfl), ok_bind,
      write_parts 3 (by rfl) (by rfl), ok_bind, write_parts 4 (by rfl) (by rfl), ok_bind,
      write_parts 5 (by rfl) (by rfl), ok_bind, setField_parts 6 7 _ _ (by rfl) (by rfl), ok_bind,
      setField_parts 6 3 _ _ (by rfl) (by rfl), ok_bind, setField_parts 6 0 _ _ (by rfl) (by rfl),
      ok_bind, ← dioOctet, hout, write_parts 7 (by rfl) (by rfl), ok_bind,
      write_parts 10 (by simp [hdodag, hlen]) (by rfl), ok_bind]
    rfl
  · rw [optionsStart, hcode]
    simp [hlen]
    rfl
  · have hcheck : checkLen ([[0x9b], [0x01], [k, k'], [rplInstanceId.toByte], [versionNumber],
        ofU16 rank, [out], [dtsn], [flags], [reserved], Ipv6.octets dodagId].flatten ++ options) =
        .ok () := by
      rw [checkLen_eq_ok rfl]
      change 28 ≤ _
      simp [hlen]
      omega
    rw [parse, hcheck, ok_bind, hopts, ok_bind, hcode, ok_bind]
    change (do
      let octet ← index _ 8
      let rplInstanceId ← index _ 4
      let versionNumber ← index _ 5
      let rank ← readU16 _ 6
      let dtsn ← index _ 9
      let dodagId ← addressAt _ 12
      return dodagInformationObject (.ofByte rplInstanceId) versionNumber rank
        (Octets.flag octet 7) (.ofByte (Octets.field octet 3 0b111)) (octet &&& 0b111) dtsn
        dodagId options) = _
    rw [index_parts 6 (by rfl) (by rfl), ok_bind, index_parts 3 (by rfl) (by rfl), ok_bind,
      index_parts 4 (by rfl) (by rfl), ok_bind, readU16_parts 5 (by rfl) (by rfl), ok_bind,
      index_parts 7 (by rfl) (by rfl), ok_bind, addressAt_parts 10 (by rfl) (by rfl), ok_bind,
      hflag, hfield, hcanonical, hand, (Rpl.InstanceId.ofByte_toByte_iff rplInstanceId).mpr h]
    rfl

/-- A message that fits is emitted with its options over any octets, and read back with them. -/
lemma Fits.roundTrips {m : RplRepr} (h : m.Fits) (hset : m.setOptions options = .ok repr)
    (hold : old.length = repr.bufferLen) : RoundTrips repr options old := by
  cases m with
  | dodagInformationSolicitation _ =>
    cases hset
    exact roundTrips_dis hold
  | dodagInformationObject _ _ _ _ _ _ _ _ _ =>
    cases hset
    exact roundTrips_dio h.1 h.2.1.1 h.2.1.2 h.2.2 hold
  | destinationAdvertisementObject _ _ _ _ _ =>
    cases hset
    exact roundTrips_dao h hold
  | destinationAdvertisementObjectAck _ _ _ _ => cases hset

/-- The options of a message are emitted into buffers of their lengths, whatever was in them, and
the message with them into a buffer of its length. Then the message is read back, and its options
are found one behind the other. -/
theorem readOptions_emit {pairs : List (RplOptionRepr × List UInt8)}
    (hpairs : ∀ p ∈ pairs, p.1.Fits ∧ p.1.bufferLen = .ok p.2.length) :
    ∃ area, RplOption.emitOptions pairs = .ok area ∧
      ∀ m repr : RplRepr, m.Fits → m.setOptions area = .ok repr →
        ∀ old : List UInt8, old.length = repr.bufferLen →
          ∃ out, repr.emit old = .ok out ∧ parse out = .ok repr ∧
            RplRepr.options out = .ok area ∧
            RplOption.readOptions area = .ok (pairs.map Prod.fst) := by
  obtain ⟨area, harea, hread⟩ := RplOption.exists_emitOptions hpairs
  refine ⟨area, harea, fun m repr hm hset old hold => ?_⟩
  obtain ⟨out, hemit, hparse, hopts⟩ := hm.roundTrips hset hold
  exact ⟨out, hemit, hparse, hopts, hread⟩

/-- An information object of a local instance in an unnamed mode, with padding, a solicited
information and a descriptor, over octets that were set. -/
theorem readOptions_emit_sample : ∃ area out,
    emit (.dodagInformationObject (.local 3) 240 128 true (.unknown 6) 5 9
        0x20010db8000000000000000000000001 area) (List.replicate 58 0xff) = .ok out ∧
      parse out = .ok (.dodagInformationObject (.local 3) 240 128 true (.unknown 6) 5 9
        0x20010db8000000000000000000000001 area) ∧
      RplRepr.options out = .ok area ∧ RplOption.readOptions area = .ok [.padN 1,
        .solicitedInformation (.global 127) true false true 1 7, .rplTargetDescriptor 7] := by
  have hpairs : ∀ p ∈ [(RplOptionRepr.padN 1, ([1, 2, 3] : List UInt8)),
      (RplOptionRepr.solicitedInformation (.global 127) true false true 1 7,
        List.replicate 21 0xff),
      (RplOptionRepr.rplTargetDescriptor 7, List.replicate 6 0xff)],
      p.1.Fits ∧ p.1.bufferLen = .ok p.2.length := by
    intro p hp
    simp only [List.mem_cons, List.not_mem_nil, or_false] at hp
    obtain rfl | rfl | rfl := hp
    · exact ⟨show (1 : UInt8) ≤ 253 by decide, rfl⟩
    · exact ⟨show (127 : UInt8) < 128 by decide, rfl⟩
    · exact ⟨trivial, rfl⟩
  obtain ⟨area, harea, h⟩ := readOptions_emit hpairs
  have hlen : area.length = 30 := by
    have hemits : RplOption.emitOptions [(RplOptionRepr.padN 1, [1, 2, 3]),
        (RplOptionRepr.solicitedInformation (.global 127) true false true 1 7,
          List.replicate 21 0xff),
        (RplOptionRepr.rplTargetDescriptor 7, List.replicate 6 0xff)] =
        .ok [0x01, 1, 0, 0x07, 19, 127, 0xa0, 0, 0, 0, 0, 0, 0, 0, 0, 0, 0, 0, 0, 0, 0, 0, 1, 7,
          0x09, 4, 0, 0, 0, 7] := by decide
    cases hemits.symm.trans harea
    rfl
  obtain ⟨out, hemit, hparse, hopts, hread⟩ := h (.dodagInformationObject (.local 3) 240 128 true
    (.unknown 6) 5 9 0x20010db8000000000000000000000001 []) _
    ⟨show (3 : UInt8) < 128 by decide, ⟨show (6 : UInt8) < 8 by decide, rfl⟩,
      show (5 : UInt8) < 8 by decide⟩ rfl (List.replicate 58 0xff) (by rw [bufferLen, hlen]; rfl)
  exact ⟨area, out, hemit, hparse, hopts, hread⟩

/-- An instance of a solicited information option that does not fit is read back as another, and an
unknown mode with the value of a named one as that one. -/
theorem not_readOptions_emit :
    (∃ area out, RplOption.emitOptions
        [(.solicitedInformation (.global 200) false false false 1 0, List.replicate 21 0)] =
          .ok area ∧
      emit (.dodagInformationSolicitation area) (List.replicate 27 0) = .ok out ∧
      RplRepr.options out = .ok area ∧
      RplOption.readOptions area =
        .ok [.solicitedInformation (.local 72) false false false 1 0]) ∧
    ∃ out, emit (.dodagInformationObject (.global 0) 0 0 false (.unknown 1) 0 0 0 [])
        (List.replicate 28 0) = .ok out ∧
      parse out = .ok (.dodagInformationObject (.global 0) 0 0 false .nonStoringMode 0 0 0 []) := by
  constructor
  · refine ⟨[0x07, 19, 200, 0, 0, 0, 0, 0, 0, 0, 0, 0, 0, 0, 0, 0, 0, 0, 0, 1, 0],
      [0x9b, 0, 0, 0, 0, 0, 0x07, 19, 200, 0, 0, 0, 0, 0, 0, 0, 0, 0, 0, 0, 0, 0, 0, 0, 0, 1, 0],
      ?_, ?_, ?_, ?_⟩ <;> decide +kernel
  · refine ⟨[0x9b, 1, 0, 0, 0, 0, 0, 0, 0b1000, 0, 0, 0, 0, 0, 0, 0, 0, 0, 0, 0, 0, 0, 0, 0, 0, 0,
      0, 0], ?_, ?_⟩ <;> decide

end RplRepr

end Smoltcp
