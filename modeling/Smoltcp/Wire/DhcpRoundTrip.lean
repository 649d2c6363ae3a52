import Smoltcp.Wire.Dhcpv4
import Smoltcp.Wire.Fields

/-!
# DHCP messages parse back

The fixed part of a message is written field by field and the options one behind the other. The
times after which a lease is renewed and rebound are parsed, but not emitted.
-/

namespace Smoltcp

open Octets (ofU16 ofU32)
open Outcome

/-! ### Emitting -/

def DhcpOpCode.toByte : DhcpOpCode → UInt8
  | .request => 1
  | .reply => 2
  | .unknown value => value

def DhcpMessageType.toByte : DhcpMessageType → UInt8
  | .discover => 1
  | .offer => 2
  | .request => 3
  | .decline => 4
  | .ack => 5
  | .nak => 6
  | .release => 7
  | .inform => 8
  | .unknown value => value

/-- A type that is not the number of another one. -/
def DhcpMessageType.IsCanonical (messageType : DhcpMessageType) : Prop :=
  DhcpMessageType.ofByte messageType.toByte = messageType

/-- A buffer for options, behind those that were written. -/
structure DhcpOptionWriter where
  written : List UInt8
  buffer : List UInt8

namespace DhcpOptionWriter

variable (w : DhcpOptionWriter)

def emit (option : DhcpOption) : Outcome DhcpOptionWriter :=
  if 255 < option.data.length then fail
  else if w.buffer.length < 2 + option.data.length then fail
  else .ok {
    written := w.written ++ option.kind :: .ofNat option.data.length :: option.data
    buffer := w.buffer.drop (2 + option.data.length) }

/-- Emit an option that may be there. -/
def emitSome (kind : UInt8) : Option (List UInt8) → Outcome DhcpOptionWriter
  | some data => w.emit ⟨kind, data⟩
  | none => .ok w

def emitAll : List DhcpOption → DhcpOptionWriter → Outcome DhcpOptionWriter
  | [], w => .ok w
  | option :: options, w => do emitAll options (← w.emit option)

/-- Write the end marker. What is behind it in the buffer stays. -/
def finish : Outcome DhcpOptionWriter :=
  if w.buffer = [] then fail
  else .ok ⟨w.written ++ DhcpOption.optEnd :: w.buffer.drop 1, []⟩

end DhcpOptionWriter

namespace DhcpRepr

open DhcpOption DhcpPacket

/-- Emit a message. -/
def emit (repr : DhcpRepr) (buf : List UInt8) : Outcome (List UInt8) := do
  -- The server name and the name of the boot file are not used.
  let buf ← write buf 34 (List.replicate 74 0)
  let buf ← write buf 108 (List.replicate 128 0)
  let buf ← write buf 0 [repr.messageType.opcode.toByte]
  let buf ← write buf 1 [1]
  let buf ← write buf 2 [6]
  let buf ← write buf 4 (ofU32 repr.transactionId)
  let buf ← write buf 28 (EthernetAddress.octets repr.clientHardwareAddress)
  let buf ← write buf 3 [0]
  let buf ← write buf 8 (ofU16 repr.secs)
  let buf ← write buf 236 (ofU32 dhcpMagicNumber)
  let buf ← write buf 12 (ofU32 repr.clientIp)
  let buf ← write buf 16 (ofU32 repr.yourIp)
  let buf ← write buf 20 (ofU32 repr.serverIp)
  let buf ← write buf 24 (ofU32 repr.relayAgentIp)
  let buf ← write buf 10 (ofU16 (if repr.broadcast then 0x8000 else 0))
  let options ← sliceFrom buf optionsStart
  let w : DhcpOptionWriter := ⟨[], options⟩
  let w ← w.emit ⟨optDhcpMessageType, [repr.messageType.toByte]⟩
  let w ← w.emitSome optClientId
    (repr.clientIdentifier.map fun val => 1 :: EthernetAddress.octets val)
  let w ← w.emitSome optServerIdentifier (repr.serverIdentifier.map ofU32)
  let w ← w.emitSome optRouter (repr.router.map ofU32)
  let w ← w.emitSome optSubnetMask (repr.subnetMask.map ofU32)
  let w ← w.emitSome optRequestedIp (repr.requestedIp.map ofU32)
  let w ← w.emitSome optMaxDhcpMessageSize (repr.maxSize.map ofU16)
  let w ← w.emitSome optIpLeaseTime (repr.leaseDuration.map ofU32)
  let w ← w.emitSome optParameterRequestList repr.parameterRequestList
  let w ← w.emitSome optDomainNameServer (repr.dnsServers.map fun servers => servers.flatMap ofU32)
  let w ← DhcpOptionWriter.emitAll repr.additionalOptions w
  let w ← w.finish
  return buf.take optionsStart ++ w.written

end DhcpRepr

namespace EthernetAddress

lemma length_octets (addr : EthernetAddress) : (octets addr).length = 6 :=
  Octets.length_ofNatBE _ _

lemma fromBytes_octets (addr : EthernetAddress) : fromBytes (octets addr) = addr := by
  have hlt := addr.isLt
  apply BitVec.eq_of_toNat_eq
  rw [fromBytes, octets, Octets.toNatBE_ofNatBE, BitVec.toNat_ofNat]
  omega

end EthernetAddress

/-! ### Options -/

namespace DhcpOption

/-- The octets of an option. -/
def octets (option : DhcpOption) : List UInt8 :=
  option.kind :: .ofNat option.data.length :: option.data

/-- An option that can be emitted, and found again. -/
structure Emitted (option : DhcpOption) : Prop where
  kind_ne_end : option.kind ≠ optEnd
  kind_ne_pad : option.kind ≠ optPad
  length_le : option.data.length ≤ 255

variable {opts : List DhcpOption}

lemma length_octets (option : DhcpOption) : option.octets.length = 2 + option.data.length := by
  rw [octets, List.length_cons, List.length_cons]
  omega

lemma emitAll_append (first second : List DhcpOption) (w : DhcpOptionWriter) :
    DhcpOptionWriter.emitAll (first ++ second) w =
      DhcpOptionWriter.emitAll first w >>= fun w => DhcpOptionWriter.emitAll second w := by
  induction first generalizing w with
  | nil => rfl
  | cons option first ih =>
    rw [List.cons_append, DhcpOptionWriter.emitAll, DhcpOptionWriter.emitAll, bind_assoc]
    exact bind_congr fun w' => ih w'

/-- Options for which there is room are written. -/
lemma emitAll_eq (h : ∀ o ∈ opts, o.Emitted) (written : List UInt8) {buffer : List UInt8}
    (hroom : (opts.flatMap octets).length ≤ buffer.length) :
    DhcpOptionWriter.emitAll opts ⟨written, buffer⟩ =
      .ok ⟨written ++ opts.flatMap octets, buffer.drop (opts.flatMap octets).length⟩ := by
  induction opts generalizing written buffer with
  | nil => simp [DhcpOptionWriter.emitAll]
  | cons option opts ih =>
    have hlen := (h option List.mem_cons_self).length_le
    rw [List.flatMap_cons, List.length_append, length_octets] at hroom
    have hemit : DhcpOptionWriter.emit ⟨written, buffer⟩ option =
        .ok ⟨written ++ option.octets, buffer.drop option.octets.length⟩ := by
      rw [DhcpOptionWriter.emit, if_neg (by omega), if_neg (by dsimp only; omega), length_octets]
      rfl
    rw [DhcpOptionWriter.emitAll, hemit, ok_bind, ih (fun o ho => h o (List.mem_cons_of_mem _ ho)),
      List.flatMap_cons, List.append_assoc, List.drop_drop, List.length_append]
    rw [List.length_drop, length_octets]
    omega

/-- The options that were written are found. -/
lemma options_octets (h : ∀ o ∈ opts, o.Emitted) (rest : List UInt8) :
    DhcpPacket.options (opts.flatMap octets ++ optEnd :: rest) = opts := by
  induction opts with
  | nil =>
    rw [List.flatMap_nil, List.nil_append, DhcpPacket.options.eq_def]
    exact if_pos rfl
  | cons option opts ih =>
    obtain ⟨hend, hpad, hlen⟩ := h option List.mem_cons_self
    have htoNat : (UInt8.ofNat option.data.length).toNat = option.data.length := by
      rw [UInt8.toNat_ofNat', Nat.mod_eq_of_lt (by omega)]
    rw [List.flatMap_cons, octets, List.cons_append, List.cons_append, List.cons_append,
      List.cons_append, DhcpPacket.options.eq_def]
    dsimp only
    rw [if_neg hend, if_neg hpad, htoNat,
      if_neg (by rw [List.length_append, List.length_append]; omega), List.append_assoc,
      List.take_left' rfl, List.drop_left' rfl, ih fun o ho => h o (List.mem_cons_of_mem _ ho)]

end DhcpOption

namespace DhcpRepr

open DhcpOption DhcpPacket

/-- An option that may be there. -/
def field (kind : UInt8) (data : Option (List UInt8)) : List DhcpOption :=
  data.toList.map (⟨kind, ·⟩)

/-- The options of a message. -/
def optionList (repr : DhcpRepr) : List DhcpOption :=
  ⟨optDhcpMessageType, [repr.messageType.toByte]⟩ ::
    (field optClientId (repr.clientIdentifier.map fun val => 1 :: EthernetAddress.octets val) ++
    (field optServerIdentifier (repr.serverIdentifier.map ofU32) ++
    (field optRouter (repr.router.map ofU32) ++
    (field optSubnetMask (repr.subnetMask.map ofU32) ++
    (field optRequestedIp (repr.requestedIp.map ofU32) ++
    (field optMaxDhcpMessageSize (repr.maxSize.map ofU16) ++
    (field optIpLeaseTime (repr.leaseDuration.map ofU32) ++
    (field optParameterRequestList repr.parameterRequestList ++
    (field optDomainNameServer (repr.dnsServers.map fun servers => servers.flatMap ofU32) ++
      repr.additionalOptions)))))))))

/-- A message without additional options, and with lists that its options have room for. -/
structure Plain (repr : DhcpRepr) : Prop where
  dnsServers : ∀ servers ∈ repr.dnsServers, servers.length ≤ dhcpMaxDnsServerCount
  parameterRequestList : ∀ list ∈ repr.parameterRequestList, list.length ≤ 255
  additionalOptions : repr.additionalOptions = []

section Options

variable {repr : DhcpRepr} {opcode : DhcpOpCode} {fields : Fields}

lemma emitSome_eq (w : DhcpOptionWriter) (kind : UInt8) (data : Option (List UInt8)) :
    w.emitSome kind data = DhcpOptionWriter.emitAll (field kind data) w := by
  cases data with
  | none => rfl
  | some data => exact (bind_ok_self _).symm

/-- The options of a message are emitted one behind the other. -/
lemma emitOptions_eq (repr : DhcpRepr) (w : DhcpOptionWriter) : (do
    let w ← w.emit ⟨optDhcpMessageType, [repr.messageType.toByte]⟩
    let w ← w.emitSome optClientId
      (repr.clientIdentifier.map fun val => 1 :: EthernetAddress.octets val)
    let w ← w.emitSome optServerIdentifier (repr.serverIdentifier.map ofU32)
    let w ← w.emitSome optRouter (repr.router.map ofU32)
    let w ← w.emitSome optSubnetMask (repr.subnetMask.map ofU32)
    let w ← w.emitSome optRequestedIp (repr.requestedIp.map ofU32)
    let w ← w.emitSome optMaxDhcpMessageSize (repr.maxSize.map ofU16)
    let w ← w.emitSome optIpLeaseTime (repr.leaseDuration.map ofU32)
    let w ← w.emitSome optParameterRequestList repr.parameterRequestList
    let w ← w.emitSome optDomainNameServer
      (repr.dnsServers.map fun servers => servers.flatMap ofU32)
    DhcpOptionWriter.emitAll repr.additionalOptions w) =
      DhcpOptionWriter.emitAll repr.optionList w := by
  simp only [emitSome_eq, optionList, DhcpOptionWriter.emitAll, emitAll_append]

lemma emitted_field {kind : UInt8} {data : Option (List UInt8)} (hend : kind ≠ optEnd)
    (hpad : kind ≠ optPad) (hlen : ∀ d ∈ data, d.length ≤ 255) :
    ∀ o ∈ field kind data, o.Emitted := by
  rintro o ho
  cases data with
  | none => cases ho
  | some data =>
    obtain rfl := List.mem_singleton.mp ho
    exact ⟨hend, hpad, hlen data rfl⟩

lemma length_map_le {α : Type} {enc : α → List UInt8} {n : ℕ} {v : Option α}
    (h : ∀ a ∈ v, (enc a).length ≤ n) : ∀ d ∈ v.map enc, d.length ≤ n := by
  rintro d hd
  obtain ⟨a, ha, rfl⟩ := Option.map_eq_some_iff.mp hd
  exact h a ha

lemma length_flatMap_ofU32 (servers : List Ipv4.Address) :
    (servers.flatMap ofU32).length = servers.length * 4 := by
  induction servers with
  | nil => rfl
  | cons server servers ih =>
    rw [List.flatMap_cons, List.length_append, ih, Octets.length_ofU32, List.length_cons]
    omega

lemma Plain.emitted (h : repr.Plain) : ∀ o ∈ repr.optionList, o.Emitted := by
  have hword : ∀ v : Option (BitVec 32), ∀ d ∈ v.map ofU32, d.length ≤ 255 :=
    fun v => length_map_le fun a _ => by rw [Octets.length_ofU32]; decide
  rw [optionList, h.additionalOptions, List.append_nil]
  refine List.forall_mem_cons.mpr ⟨⟨(by decide : optDhcpMessageType ≠ optEnd),
    (by decide : optDhcpMessageType ≠ optPad), by simp⟩, ?_⟩
  simp only [List.forall_mem_append]
  refine ⟨emitted_field (by decide) (by decide) (length_map_le fun a _ => ?_),
    emitted_field (by decide) (by decide) (hword _),
    emitted_field (by decide) (by decide) (hword _),
    emitted_field (by decide) (by decide) (hword _),
    emitted_field (by decide) (by decide) (hword _),
    emitted_field (by decide) (by decide) (length_map_le fun a _ => ?_),
    emitted_field (by decide) (by decide) (hword _),
    emitted_field (by decide) (by decide) h.parameterRequestList,
    emitted_field (by decide) (by decide) (length_map_le fun servers hservers => ?_)⟩
  · rw [List.length_cons, EthernetAddress.length_octets]
    decide
  · rw [Octets.length_ofU16]
    decide
  · have := h.dnsServers servers hservers
    rw [dhcpMaxDnsServerCount] at this
    rw [length_flatMap_ofU32]
    omega

lemma length_field (kind : UInt8) (data : Option (List UInt8)) :
    ((field kind data).flatMap DhcpOption.octets).length = data.elim 0 fun d => 2 + d.length := by
  cases data with
  | none => rfl
  | some data =>
    rw [field, Option.toList_some, List.map_singleton, List.flatMap_singleton, length_octets]
    rfl

lemma length_word (kind : UInt8) (v : Option (BitVec 32)) :
    ((field kind (v.map ofU32)).flatMap DhcpOption.octets).length = if v.isSome then 6 else 0 := by
  cases v <;> rfl

/-- There is room for the options and the end marker. -/
lemma bufferLen_eq (h : repr.Plain) :
    repr.bufferLen = optionsStart + (repr.optionList.flatMap DhcpOption.octets).length + 1 := by
  have hclient : ((field optClientId (repr.clientIdentifier.map fun val =>
      1 :: EthernetAddress.octets val)).flatMap DhcpOption.octets).length =
        if repr.clientIdentifier.isSome then 9 else 0 := by
    cases repr.clientIdentifier with
    | none => rfl
    | some val =>
      rw [length_field, Option.map_some, Option.elim_some, List.length_cons,
        EthernetAddress.length_octets]
      rfl
  have hsize : ((field optMaxDhcpMessageSize (repr.maxSize.map ofU16)).flatMap
      DhcpOption.octets).length = if repr.maxSize.isSome then 4 else 0 := by
    cases repr.maxSize <;> rfl
  have hlist : ((field optParameterRequestList repr.parameterRequestList).flatMap
      DhcpOption.octets).length = repr.parameterRequestList.elim 0 fun list => list.length + 2 := by
    rw [length_field]
    cases repr.parameterRequestList with
    | none => rfl
    | some list => exact Nat.add_comm 2 list.length
  have hdns : ((field optDomainNameServer (repr.dnsServers.map fun servers =>
      servers.flatMap ofU32)).flatMap DhcpOption.octets).length =
        repr.dnsServers.elim 0 fun servers => 2 + servers.length * 4 := by
    rw [length_field]
    cases repr.dnsServers with
    | none => rfl
    | some servers => exact congrArg (2 + ·) (length_flatMap_ofU32 servers)
  rw [bufferLen, optionList, h.additionalOptions, List.append_nil, List.flatMap_cons,
    List.length_append, length_octets]
  simp only [List.flatMap_append, List.length_append, length_word, hclient, hsize, hlist, hdns,
    List.map_nil, List.sum_nil, List.length_singleton]
  ring

/-! ### What the options say -/

lemma setAll_append (first second : List DhcpOption) (fields : Fields) :
    setAll opcode (first ++ second) fields =
      setAll opcode first fields >>= fun fields => setAll opcode second fields := by
  induction first generalizing fields with
  | nil => rfl
  | cons option first ih =>
    rw [List.cons_append, setAll, setAll, bind_assoc]
    exact bind_congr fun fields => ih fields

/-- An option that may be there, behind options that do not say the same. -/
lemma setAll_field {β : Type} {kind : UInt8} {enc : β → List UInt8}
    (upd : Fields → Option β → Fields) {v : Option β}
    (hset : ∀ fields : Fields, ∀ a ∈ v,
      fields.set opcode ⟨kind, enc a⟩ = .ok (upd fields (some a)))
    (hnone : upd fields none = fields) :
    setAll opcode (field kind (v.map enc)) fields = .ok (upd fields v) := by
  cases v with
  | none =>
    rw [hnone]
    rfl
  | some v =>
    rw [Option.map_some, field, Option.toList_some, List.map_singleton, setAll, hset _ v rfl]
    rfl

lemma readU32_ofU32 (v : BitVec 32) : Octets.readU32 (ofU32 v) 0 = v := Octets.toU32_ofNat v

lemma readU16_ofU16 (v : UInt16) : Octets.readU16 (ofU16 v) 0 = v := Octets.toU16_ofNat v

lemma addresses_flatMap (servers : List Ipv4.Address) :
    addresses (servers.flatMap ofU32) = servers := by
  induction servers with
  | nil => rfl
  | cons server servers ih =>
    rw [List.flatMap_cons]
    change Octets.toU32 _ _ _ _ :: addresses (servers.flatMap ofU32) = _
    rw [Octets.toU32_ofNat, ih]

/-- What is read of the options that are emitted. The times after which a lease is renewed and
rebound are not there. -/
def emittedFields (repr : DhcpRepr) (messageType : Option DhcpMessageType) : Fields where
  messageType
  requestedIp := repr.requestedIp
  clientIdentifier := repr.clientIdentifier
  serverIdentifier := repr.serverIdentifier
  router := repr.router
  subnetMask := repr.subnetMask
  parameterRequestList := repr.parameterRequestList
  dnsServers := repr.dnsServers
  maxSize := repr.maxSize
  leaseDuration := repr.leaseDuration

lemma setAll_optionList (h : repr.Plain) (opcode : DhcpOpCode) :
    setAll opcode repr.optionList {} = .ok (repr.emittedFields
      (if (DhcpMessageType.ofByte repr.messageType.toByte).opcode = opcode then
        some (DhcpMessageType.ofByte repr.messageType.toByte) else none)) := by
  have htype : Fields.set opcode {} ⟨optDhcpMessageType, [repr.messageType.toByte]⟩ =
      .ok { messageType :=
        if (DhcpMessageType.ofByte repr.messageType.toByte).opcode = opcode then
          some (DhcpMessageType.ofByte repr.messageType.toByte) else none } := by
    rw [Fields.set]
    dsimp only
    rw [if_pos ⟨rfl, rfl⟩]
    change Except.ok (if (DhcpMessageType.ofByte repr.messageType.toByte).opcode = opcode then _
      else _) = _
    split_ifs <;> rfl
  generalize (if (DhcpMessageType.ofByte repr.messageType.toByte).opcode = opcode then
    some (DhcpMessageType.ofByte repr.messageType.toByte) else none) = messageType at htype ⊢
  have hlist : repr.parameterRequestList = repr.parameterRequestList.map id := by simp
  rw [optionList, h.additionalOptions, List.append_nil, setAll, htype, ok_bind, hlist]
  simp only [setAll_append]
  rw [setAll_field (fun fields v => { fields with clientIdentifier := v }) ?_ rfl, ok_bind,
    setAll_field (fun fields v => { fields with serverIdentifier := v }) ?_ rfl, ok_bind,
    setAll_field (fun fields v => { fields with router := v }) ?_ rfl, ok_bind,
    setAll_field (fun fields v => { fields with subnetMask := v }) ?_ rfl, ok_bind,
    setAll_field (fun fields v => { fields with requestedIp := v }) ?_ rfl, ok_bind,
    setAll_field (fun fields v => { fields with maxSize := v }) ?_ rfl, ok_bind,
    setAll_field (fun fields v => { fields with leaseDuration := v }) ?_ rfl, ok_bind,
    setAll_field (fun fields v => { fields with parameterRequestList := v }) ?_ rfl, ok_bind,
    setAll_field (fun fields v => { fields with dnsServers := v }) ?_ rfl]
  · rfl
  · intro fields servers hservers
    have hroom := h.dnsServers servers hservers
    simp [Fields.set, optDhcpMessageType, optRequestedIp, optClientId, optServerIdentifier,
      optRouter,
      optSubnetMask, optMaxDhcpMessageSize, optRenewalTimeValue, optRebindingTimeValue,
      optIpLeaseTime, optParameterRequestList, optDomainNameServer, addresses_flatMap, hroom]
  all_goals
    intro fields v _
    simp [Fields.set, optDhcpMessageType, optRequestedIp, optClientId, optServerIdentifier,
      optRouter,
      optSubnetMask, optMaxDhcpMessageSize, optRenewalTimeValue, optRebindingTimeValue,
      optIpLeaseTime, optParameterRequestList, readU32_ofU32, readU16_ofU16,
      EthernetAddress.fromBytes_octets, EthernetAddress.length_octets, Octets.get]

end Options

/-! ### The fixed part -/

section Header

variable {repr : DhcpRepr} {buf rest : List UInt8}

/-- The fields of the fixed part. -/
def header (repr : DhcpRepr) : List (List UInt8) :=
  [[repr.messageType.opcode.toByte], [1], [6], [0], ofU32 repr.transactionId, ofU16 repr.secs,
    ofU16 (if repr.broadcast then 0x8000 else 0), ofU32 repr.clientIp, ofU32 repr.yourIp,
    ofU32 repr.serverIp, ofU32 repr.relayAgentIp,
    EthernetAddress.octets repr.clientHardwareAddress, List.replicate 74 0, List.replicate 128 0,
    ofU32 dhcpMagicNumber]

/-- The sizes of the fields of the fixed part. -/
def headerSizes : List ℕ := [1, 1, 1, 1, 4, 2, 2, 4, 4, 4, 4, 6, 74, 128, 4]

lemma header_sizes (repr : DhcpRepr) : (header repr).map List.length = headerSizes := by
  simp [header, headerSizes, EthernetAddress.length_octets]

lemma length_header (repr : DhcpRepr) : (header repr).flatten.length = 240 := by
  rw [List.length_flatten, header_sizes]
  rfl

/-- What a message is emitted as. -/
def encoding (repr : DhcpRepr) : List UInt8 :=
  (header repr).flatten ++ (repr.optionList.flatMap DhcpOption.octets ++ [optEnd])

/-- The fields in the order in which they are written. -/
def headerWrites (repr : DhcpRepr) : List (ℕ × List UInt8) :=
  [(12, List.replicate 74 0), (13, List.replicate 128 0), (0, [repr.messageType.opcode.toByte]),
    (1, [1]), (2, [6]), (4, ofU32 repr.transactionId),
    (11, EthernetAddress.octets repr.clientHardwareAddress), (3, [0]), (5, ofU16 repr.secs),
    (14, ofU32 dhcpMagicNumber), (7, ofU32 repr.clientIp), (8, ofU32 repr.yourIp),
    (9, ofU32 repr.serverIp), (10, ofU32 repr.relayAgentIp),
    (6, ofU16 (if repr.broadcast then 0x8000 else 0))]

/-- The fixed part is written as a whole. -/
lemma foldlM_headerWrites (repr : DhcpRepr) (hbuf : 240 ≤ buf.length) :
    (headerWrites repr).foldlM (fun buf w => write buf (headerSizes.take w.1).sum w.2) buf =
      .ok ((header repr).flatten ++ buf.drop 240) := by
  obtain ⟨parts, rest, hparts, rfl⟩ := List.exists_parts headerSizes hbuf
  have hlen : parts.flatten.length = 240 := by
    rw [List.length_flatten, hparts]
    rfl
  rw [foldlM_write hparts]
  · rw [List.drop_left' hlen]
    simp only [headerSizes, List.map_eq_cons_iff, List.map_eq_nil_iff] at hparts
    obtain ⟨_, _, rfl, -, _, _, rfl, -, _, _, rfl, -, _, _, rfl, -, _, _, rfl, -, _, _, rfl, -,
      _, _,
      rfl, -, _, _, rfl, -, _, _, rfl, -, _, _, rfl, -, _, _, rfl, -, _, _, rfl, -, _, _, rfl, -, _,
      _, rfl, -, _, _, rfl, -, rfl⟩ := hparts
    rfl
  · simp [headerWrites, headerSizes, EthernetAddress.length_octets]

/-- A message is emitted into a buffer of its length, whatever was in there. -/
lemma emit_eq (h : repr.Plain) (hbuf : buf.length = repr.bufferLen) :
    repr.emit buf = .ok repr.encoding := by
  have hlen := bufferLen_eq h
  rw [← hbuf, optionsStart] at hlen
  have hemit : repr.emit buf = do
      let buf ← (headerWrites repr).foldlM
        (fun buf w => write buf (headerSizes.take w.1).sum w.2) buf
      let options ← sliceFrom buf optionsStart
      let w ← DhcpOptionWriter.emitAll repr.optionList ⟨[], options⟩
      let w ← w.finish
      return buf.take optionsStart ++ w.written := by
    simp only [← emitOptions_eq, headerWrites, List.foldlM_cons, List.foldlM_nil, bind_assoc,
      pure_bind]
    rfl
  have hheader := length_header repr
  rw [hemit, foldlM_headerWrites repr (by omega), ok_bind, optionsStart,
    sliceFrom_of (by rw [List.length_append]; omega), ok_bind, List.drop_left' hheader,
    emitAll_eq h.emitted [] (by rw [List.length_drop]; omega), ok_bind, List.drop_drop,
    List.take_left' hheader, encoding]
  have hroom : ∃ last, buf.drop (240 + (repr.optionList.flatMap octets).length) = [last] := by
    rw [← List.length_eq_one_iff, List.length_drop]
    omega
  obtain ⟨last, hlast⟩ := hroom
  rw [hlast]
  rfl

lemma offset_header (repr : DhcpRepr) (k : ℕ) :
    (((header repr).map List.length).take k).sum = (headerSizes.take k).sum := by
  rw [header_sizes]

lemma broadcast_eq (broadcast : Bool) :
    decide ((if broadcast then (0x8000 : UInt16) else 0) &&& (0x8000 : UInt16) ≠ 0) =
    broadcast := by
  cases broadcast <;> decide

/-- Parsing what was emitted: only the times after which a lease is renewed and rebound are lost. -/
lemma parse_encoding (h : repr.Plain) :
    parse repr.encoding = do
      let messageType ← okOr (if (DhcpMessageType.ofByte repr.messageType.toByte).opcode =
          .ofByte repr.messageType.opcode.toByte then
        some (DhcpMessageType.ofByte repr.messageType.toByte) else none)
      return { repr with messageType, renewDuration := none, rebindDuration := none } := by
  have hheader := length_header repr
  have hlen : 240 ≤ repr.encoding.length := by
    rw [encoding, List.length_append]
    omega
  have hoptions : sliceFrom repr.encoding optionsStart =
      .ok (repr.optionList.flatMap octets ++ [optEnd]) := by
    rw [optionsStart, sliceFrom_of hlen, encoding, List.drop_left' hheader]
  have hop : index repr.encoding 0 = .ok repr.messageType.opcode.toByte :=
    index_parts 0 rfl (offset_header repr 0)
  have hchaddr : slice repr.encoding 28 34 =
      .ok (EthernetAddress.octets repr.clientHardwareAddress) := by
    refine slice_parts 11 rfl (offset_header repr 11) ?_
    rw [EthernetAddress.length_octets]
  rw [parse, checkLen, reject_of_not (by rw [optionsStart]; omega), ok_bind,
    show index repr.encoding 1 = .ok 1 from index_parts 1 rfl (offset_header repr 1), ok_bind,
    if_neg (by decide), show index repr.encoding 2 = .ok 6 from index_parts 2 rfl
      (offset_header repr 2),
    ok_bind, if_neg (by decide),
    show readU32 repr.encoding 236 = .ok dhcpMagicNumber from
      readU32_parts 14 rfl (offset_header repr 14), ok_bind, if_neg (by decide), hop, ok_bind,
    hoptions, ok_bind, options_octets h.emitted, setAll_optionList h, ok_bind]
  refine bind_congr fun messageType => ?_
  rw [show readU32 repr.encoding 4 = .ok repr.transactionId from
      readU32_parts 4 rfl (offset_header repr 4),
    show readU16 repr.encoding 8 = .ok repr.secs from readU16_parts 5 rfl (offset_header repr 5),
    hchaddr,
    show readU32 repr.encoding 12 = .ok repr.clientIp from
      readU32_parts 7 rfl (offset_header repr 7),
    show readU32 repr.encoding 16 = .ok repr.yourIp from
      readU32_parts 8 rfl (offset_header repr 8),
    show readU32 repr.encoding 20 = .ok repr.serverIp from
      readU32_parts 9 rfl (offset_header repr 9),
    show readU32 repr.encoding 24 = .ok repr.relayAgentIp from
      readU32_parts 10 rfl (offset_header repr 10),
    show readU16 repr.encoding 10 = .ok (if repr.broadcast then 0x8000 else 0) from
      readU16_parts 6 rfl (offset_header repr 6)]
  simp only [ok_bind, pure_eq_ok, EthernetAddress.fromBytes_octets, broadcast_eq, emittedFields,
    ← h.additionalOptions]

/-! ### The round trip -/

/-- The operation of a message tells whether its type is found again. -/
lemma opcode_eq_iff (messageType : DhcpMessageType) :
    (DhcpMessageType.ofByte messageType.toByte).opcode = .ofByte messageType.opcode.toByte ↔
      messageType.IsCanonical := by
  unfold DhcpMessageType.IsCanonical
  cases messageType with
  | unknown value =>
    change (DhcpMessageType.ofByte value).opcode = .unknown 0 ↔
      DhcpMessageType.ofByte value = .unknown value
    unfold DhcpMessageType.ofByte
    split_ifs <;> simp [DhcpMessageType.opcode]
  | _ => exact iff_of_true (by decide) (by decide)

lemma eq_of_none (hrenew : repr.renewDuration = none) (hrebind : repr.rebindDuration = none) :
    { repr with renewDuration := none, rebindDuration := none } = repr := by
  cases repr
  cases hrenew
  cases hrebind
  rfl

/-- A message is emitted into every buffer of its length. It parses back exactly if it does not tell
when to renew and to rebind, and its type is not the number of another one. -/
theorem emit_parse_iff (h : repr.Plain) (hbuf : buf.length = repr.bufferLen) :
    ∃ out, repr.emit buf = .ok out ∧ out.length = repr.bufferLen ∧ out.getLast? = some optEnd ∧
      (parse out = .ok repr ↔ repr.messageType.IsCanonical ∧ repr.renewDuration = none ∧
        repr.rebindDuration = none) := by
  refine ⟨repr.encoding, emit_eq h hbuf, ?_, ?_, ?_⟩
  · rw [bufferLen_eq h, encoding, List.length_append, length_header, List.length_append]
    rfl
  · rw [encoding, ← List.append_assoc, List.getLast?_append]
    rfl
  · rw [parse_encoding h]
    by_cases hcanonical : repr.messageType.IsCanonical
    · rw [if_pos ((opcode_eq_iff _).mpr hcanonical), hcanonical]
      constructor
      · intro hparse
        have hrepr := Except.ok.inj hparse
        rw [← hrepr]
        exact ⟨hcanonical, rfl, rfl⟩
      · rintro ⟨-, hrenew, hrebind⟩
        exact congrArg Except.ok (eq_of_none hrenew hrebind)
    · rw [if_neg fun heq => hcanonical ((opcode_eq_iff _).mp heq)]
      exact iff_of_false nofun fun hand => hcanonical hand.1

/-- An acknowledgement of the address 10.0.0.9, with a lease of 100 s. -/
def exampleAck : DhcpRepr where
  messageType := .ack
  transactionId := 1
  secs := 0
  clientHardwareAddress := 0x020000000001
  clientIp := 0
  yourIp := 0x0a000009
  serverIp := 0
  router := some 0x0a000001
  subnetMask := some 0xffffff00
  relayAgentIp := 0
  broadcast := false
  requestedIp := none
  clientIdentifier := none
  serverIdentifier := some 0x0a000001
  parameterRequestList := none
  dnsServers := some [0x0a000001]
  maxSize := none
  leaseDuration := some 100
  renewDuration := none
  rebindDuration := none
  additionalOptions := []

lemma exampleAck_plain (renewDuration : Option (BitVec 32)) :
    Plain { exampleAck with renewDuration } :=
  ⟨by rintro _ ⟨⟩; decide, nofun, rfl⟩

theorem parse_emit_exampleAck :
    ∃ out, exampleAck.emit (List.replicate 274 0xaa) = .ok out ∧ parse out = .ok exampleAck := by
  have hbuf : (List.replicate 274 (0xaa : UInt8)).length = exampleAck.bufferLen :=
    List.length_replicate
  obtain ⟨out, hemit, -, -, hiff⟩ := emit_parse_iff (exampleAck_plain none) hbuf
  have hcanonical : exampleAck.messageType.IsCanonical := by
    change DhcpMessageType.ofByte 5 = .ack
    decide
  exact ⟨out, hemit, hiff.mpr ⟨hcanonical, rfl, rfl⟩⟩

/-- The time after which the lease is renewed is lost. -/
theorem not_emit_parse : ∃ repr : DhcpRepr, repr.Plain ∧ repr.messageType = .ack ∧
    ∀ buf, buf.length = repr.bufferLen →
      ¬ ∃ out, repr.emit buf = .ok out ∧ parse out = .ok repr := by
  refine ⟨{ exampleAck with renewDuration := some 50 }, exampleAck_plain _, rfl,
    fun buf hbuf hall => ?_⟩
  obtain ⟨out, hemit, hparse⟩ := hall
  obtain rfl := Except.ok.inj ((emit_eq (exampleAck_plain _) hbuf).symm.trans hemit)
  rw [parse_encoding (exampleAck_plain _)] at hparse
  exact absurd (congrArg DhcpRepr.renewDuration (Except.ok.inj hparse)) nofun

end Header

end DhcpRepr

end Smoltcp
