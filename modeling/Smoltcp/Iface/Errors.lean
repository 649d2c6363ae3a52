import Smoltcp.Iface.Replies

/-!
# ICMP errors

Packets for a group of hosts, and ICMP errors, are not to be answered with ICMP errors, except where
an option of the packet asks for it. For IPv4 this is so. For IPv6, a datagram to a closed port and
an unknown next header are answered wherever the packet was sent to, and an option is reported
without a look at what comes behind it.
-/

namespace Smoltcp

/-! ### Errors -/

/-- The payload is an ICMP error. -/
def IpPayload.isIcmpError : IpPayload → Prop
  | .icmpv4 repr => repr.isError
  | .icmpv6 repr => repr.isError
  | .hopByHopIcmpv6 _ repr => repr.isError
  | _ => False

namespace Icmpv4

/-- A message that was received is an error: destination unreachable, source quench, redirect, time
exceeded or parameter problem. -/
def reportsError (buf : List UInt8) : Prop := Octets.get buf 0 ∈ [3, 4, 5, 11, 12]

instance (buf : List UInt8) : Decidable (reportsError buf) := inferInstanceAs (Decidable (_ ∈ _))

/-- The type of a message that is parsed as an echo request. -/
lemma msgType_of_parse {buf data : List UInt8} {rx : Bool} {ident seqNo : UInt16}
    (h : Icmpv4Repr.parse rx buf = .ok (.echoRequest ident seqNo data)) :
    msgType buf = .echoRequest := by
  cases htype : msgType buf with
  | echoRequest => rfl
  | dstUnreachable | timeExceeded =>
    simp only [Icmpv4Repr.parse, htype] at h
    split_ifs at h
    cases hquoted : Icmpv4Repr.parseQuoted (Icmpv4.data buf) with
    | error e =>
      rw [hquoted] at h
      cases h
    | ok quoted =>
      rw [hquoted] at h
      cases h
  | echoReply =>
    simp only [Icmpv4Repr.parse, htype] at h
    split_ifs at h
    cases h
  | _ =>
    simp only [Icmpv4Repr.parse, htype] at h
    split_ifs at h

lemma reportsError.msgType_ne {buf : List UInt8} (h : reportsError buf) :
    msgType buf ≠ .echoRequest := by
  simp only [reportsError, List.mem_cons, List.not_mem_nil, or_false] at h
  rw [msgType]
  rcases h with h | h | h | h | h <;> rw [h] <;> decide

end Icmpv4

namespace Icmpv6

/-- A message that was received is an error: the highest bit of its type is not set. -/
def reportsError (buf : List UInt8) : Prop := buf ≠ [] ∧ (Message.ofByte (Octets.get buf 0)).isError

instance (buf : List UInt8) : Decidable (reportsError buf) :=
  inferInstanceAs (Decidable (_ ∧ _))

/-- Errors are parsed as errors. -/
lemma reportsError.isError {hardware : HardwareConfig} {rx : Bool} {srcAddr dstAddr : Ipv6.Address}
    {buf : List UInt8} {repr : Icmpv6Repr} (h : reportsError buf)
    (hparse : Icmpv6Repr.parse hardware rx srcAddr dstAddr buf = .ok repr) : repr.isError := by
  unfold Icmpv6Repr.parse at hparse
  obtain ⟨_, -, hparse⟩ := Outcome.bind_eq_ok.mp hparse
  obtain ⟨_, -, hparse⟩ := Outcome.bind_eq_ok.mp hparse
  obtain ⟨code, -, hparse⟩ := Outcome.bind_eq_ok.mp hparse
  obtain ⟨type, htype, hparse⟩ := Outcome.bind_eq_ok.mp hparse
  have htype : type.isError := by
    rw [Icmpv6Packet.msgType, Outcome.index_get (List.length_pos_of_ne_nil h.1)] at htype
    cases htype
    exact h.2
  cases type with
  | dstUnreachable | timeExceeded =>
    obtain ⟨quoted, -, hparse⟩ := Outcome.bind_eq_ok.mp hparse
    cases hparse
    rfl
  | pktTooBig =>
    obtain ⟨_, -, hparse⟩ := Outcome.bind_eq_ok.mp hparse
    obtain ⟨quoted, -, hparse⟩ := Outcome.bind_eq_ok.mp hparse
    obtain ⟨mtu, -, hparse⟩ := Outcome.bind_eq_ok.mp hparse
    cases hparse
    rfl
  | paramProblem =>
    obtain ⟨quoted, -, hparse⟩ := Outcome.bind_eq_ok.mp hparse
    obtain ⟨pointer, -, hparse⟩ := Outcome.bind_eq_ok.mp hparse
    cases hparse
    rfl
  | unknown value => cases hparse
  | _ => exact absurd htype (by decide)

end Icmpv6

/-! ### Options -/

/-- What is done about an option: those that are known are skipped. -/
def Ipv6OptionRepr.failureType : Ipv6OptionRepr → Ipv6OptionFailureType
  | .unknown type _ _ => .ofByte type
  | _ => .skip

/-- The first option that is not skipped. -/
def Ipv6HopByHopRepr.unskipped (hbhRepr : Ipv6HopByHopRepr) : Option Ipv6OptionRepr :=
  hbhRepr.options.find? fun option => option.failureType ≠ .skip

/-- The sender of a packet for the destination is notified. -/
def Ipv6OptionFailureType.notifies (dstAddr : Ipv6.Address) : Ipv6OptionFailureType → Prop
  | .discardSendAll => True
  | .discardSendUnicast => ¬ Ipv6.isMulticast dstAddr
  | _ => False

instance (dstAddr : Ipv6.Address) : DecidablePred (Ipv6OptionFailureType.notifies dstAddr)
  | .discardSendAll => inferInstanceAs (Decidable True)
  | .discardSendUnicast => inferInstanceAs (Decidable (¬ _))
  | .skip | .discard => inferInstanceAs (Decidable False)

/-- What a packet carries behind its header and its hop-by-hop header, if no option of it discards
the packet. -/
def UpperLayer (cfg : IfaceConfig) (ipv6Repr : Ipv6Repr) (payload : List UInt8)
    (nextHeader : IpProtocol) (ipPayload : List UInt8) : Prop :=
  (ipv6Repr.nextHeader ≠ .hopByHop ∧ nextHeader = ipv6Repr.nextHeader ∧ ipPayload = payload) ∨
  ipv6Repr.nextHeader = .hopByHop ∧ ∃ extRepr hbhRepr,
    InterfaceInner.parseHopbyhop cfg payload = .ok (extRepr, hbhRepr) ∧ hbhRepr.unskipped = none ∧
    nextHeader = extRepr.nextHeader ∧
    Checked.slice payload (extRepr.headerLen + extRepr.data.length) payload.length = .ok ipPayload

namespace InterfaceInner

variable {cfg : IfaceConfig} {iface : InterfaceInner cfg} {ipv4Repr : Ipv4.Repr}
  {ipv6Repr : Ipv6Repr} {payload ipPayload : List UInt8} {packet : Packet} {nextHeader : IpProtocol}

/-- The first option that is not skipped decides. -/
lemma discardedBy_eq (options : List Ipv6OptionRepr) :
    iface.discardedBy ipv6Repr payload options =
      match options.find? fun option => option.failureType ≠ .skip with
      | none => .ok none
      | some option =>
        if option.failureType.notifies ipv6Repr.dstAddr then do
          return some (some (← iface.optionProblem ipv6Repr payload))
        else .ok (some none) := by
  induction options with
  | nil => rfl
  | cons option options ih =>
    cases option with
    | unknown type length data =>
      cases htype : Ipv6OptionFailureType.ofByte type with
      | skip => simp [discardedBy, Ipv6OptionRepr.failureType, htype, ih]
      | discard =>
        simp [discardedBy, Ipv6OptionRepr.failureType, htype, Ipv6OptionFailureType.notifies]
      | discardSendAll =>
        simp [discardedBy, Ipv6OptionRepr.failureType, htype, Ipv6OptionFailureType.notifies]
      | discardSendUnicast =>
        simp [discardedBy, Ipv6OptionRepr.failureType, htype, Ipv6OptionFailureType.notifies]
    | _ => simpa [discardedBy, Ipv6OptionRepr.failureType] using ih

/-- A hop-by-hop header whose options are all skipped is left behind. -/
lemma processHopbyhop_eq_next :
    iface.processHopbyhop ipv6Repr payload = .ok (.next nextHeader ipPayload) ↔
      ∃ extRepr hbhRepr, parseHopbyhop cfg payload = .ok (extRepr, hbhRepr) ∧
        hbhRepr.unskipped = none ∧ nextHeader = extRepr.nextHeader ∧
        Checked.slice payload (extRepr.headerLen + extRepr.data.length) payload.length =
          .ok ipPayload := by
  unfold processHopbyhop
  cases hparse : parseHopbyhop cfg payload with
  | error e => cases e <;> simp
  | ok headers =>
    obtain ⟨extRepr, hbhRepr⟩ := headers
    dsimp only
    rw [discardedBy_eq]
    cases hfirst : hbhRepr.unskipped with
    | none =>
      rw [Ipv6HopByHopRepr.unskipped] at hfirst
      simp only [hfirst, Checked.ok_bind, Checked.bind_eq_ok]
      constructor
      · rintro ⟨rest, hrest, h⟩
        cases h
        exact ⟨extRepr, hbhRepr, rfl, hfirst, rfl, hrest⟩
      · rintro ⟨_, _, ⟨⟩, -, rfl, hrest⟩
        exact ⟨ipPayload, hrest, rfl⟩
    | some option =>
      constructor
      · intro h
        rw [Ipv6HopByHopRepr.unskipped] at hfirst
        simp only [hfirst] at h
        split_ifs at h
        · obtain ⟨answer, hanswer, h⟩ := Checked.bind_eq_ok.mp h
          obtain ⟨problem, -, hanswer⟩ := Checked.bind_eq_ok.mp hanswer
          cases hanswer
          cases h
        · cases h
      · rintro ⟨_, _, ⟨⟩, hnone, -⟩
        rw [hfirst] at hnone
        cases hnone

/-- An option that asks for it is reported. -/
lemma processHopbyhop_eq_discard :
    iface.processHopbyhop ipv6Repr payload = .ok (.discard (some packet)) ↔
      ∃ extRepr hbhRepr option, parseHopbyhop cfg payload = .ok (extRepr, hbhRepr) ∧
        hbhRepr.unskipped = some option ∧ option.failureType.notifies ipv6Repr.dstAddr ∧
        iface.optionProblem ipv6Repr payload = .ok packet := by
  unfold processHopbyhop
  cases hparse : parseHopbyhop cfg payload with
  | error e => cases e <;> simp
  | ok headers =>
    obtain ⟨extRepr, hbhRepr⟩ := headers
    dsimp only
    rw [discardedBy_eq]
    cases hfirst : hbhRepr.unskipped with
    | none =>
      constructor
      · intro h
        rw [Ipv6HopByHopRepr.unskipped] at hfirst
        simp only [hfirst, Checked.ok_bind] at h
        obtain ⟨rest, -, h⟩ := Checked.bind_eq_ok.mp h
        cases h
      · rintro ⟨_, _, option, ⟨⟩, hsome, -⟩
        rw [hfirst] at hsome
        cases hsome
    | some option =>
      constructor
      · intro h
        refine ⟨extRepr, hbhRepr, option, rfl, hfirst, ?_⟩
        rw [Ipv6HopByHopRepr.unskipped] at hfirst
        simp only [hfirst] at h
        split_ifs at h with hnotifies
        · obtain ⟨answer, hanswer, h⟩ := Checked.bind_eq_ok.mp h
          obtain ⟨problem, hproblem, hanswer⟩ := Checked.bind_eq_ok.mp hanswer
          cases hanswer
          cases h
          exact ⟨hnotifies, hproblem⟩
        · cases h
      · rintro ⟨_, _, option', ⟨⟩, hsome, hnotifies, hproblem⟩
        obtain rfl := Option.some.inj (hfirst.symm.trans hsome)
        rw [Ipv6HopByHopRepr.unskipped] at hfirst
        simp only [hfirst]
        rw [if_pos hnotifies, hproblem]
        rfl

/-! ### Replies -/

/-- Only echoes are replied to where they were not sent to a single host. -/
lemma icmpv4Reply_eq_some {icmpRepr : Icmpv4Repr}
    (h : iface.icmpv4Reply ipv4Repr icmpRepr = some packet) :
    packet.payload = .icmpv4 icmpRepr ∧ iface.isUnicastV4 ipv4Repr.srcAddr ∧
      (iface.isUnicastV4 ipv4Repr.dstAddr ∨
        ∃ ident seqNo data, icmpRepr = .echoReply ident seqNo data) := by
  unfold icmpv4Reply at h
  dsimp only at h
  split_ifs at h with hsrc hdst
  · cases h
    exact ⟨rfl, hsrc, .inl hdst⟩
  · cases icmpRepr with
    | echoReply ident seqNo data =>
      obtain ⟨srcAddr, -, rfl⟩ := Option.map_eq_some_iff.mp h
      exact ⟨rfl, hsrc, .inr ⟨_, _, _, rfl⟩⟩
    | _ => cases h

lemma icmpv6Reply_eq_ok {icmpRepr : Icmpv6Repr}
    (h : iface.icmpv6Reply ipv6Repr icmpRepr = .ok packet) : packet.payload = .icmpv6 icmpRepr := by
  unfold icmpv6Reply at h
  split_ifs at h
  · cases h
    rfl
  · obtain ⟨srcAddr, -, h⟩ := Checked.bind_eq_ok.mp h
    cases h
    rfl

/-- There is a reply to every packet from a unicast address. -/
lemma exists_icmpv6Reply (h : Ipv6.isUnicast ipv6Repr.srcAddr) (icmpRepr : Icmpv6Repr) :
    ∃ packet, iface.icmpv6Reply ipv6Repr icmpRepr = .ok packet := by
  unfold icmpv6Reply
  split_ifs
  · exact ⟨_, rfl⟩
  · obtain ⟨srcAddr, hsrc⟩ : ∃ srcAddr, iface.getSourceAddressIpv6 ipv6Repr.srcAddr = .ok srcAddr :=
      exists_getSourceAddressIpv6 fun hunspecified => h (.inr hunspecified)
    rw [hsrc]
    exact ⟨_, rfl⟩

end InterfaceInner

/-! ### Answers -/

/-- The packet was sent to more than one host, or not by a single host. -/
def InterfaceInner.isGroupAddressed {cfg : IfaceConfig} (iface : InterfaceInner cfg) :
    IpRepr → Prop
  | .ipv4 repr => Ipv4.isMulticast repr.dstAddr ∨ iface.isBroadcastV4 repr.dstAddr ∨
      ¬ iface.isUnicastV4 repr.srcAddr
  | .ipv6 repr => Ipv6.isMulticast repr.dstAddr ∨ ¬ Ipv6.isUnicast repr.srcAddr

namespace Stack

variable {cfg : StackConfig} {st st' : Stack cfg} {version : IpVersion} {buf : List UInt8}
  {packet : Packet} {chance : Chance} {packetMeta : PacketMeta} {hw : HardwareAddress}
  {ipv4Repr : Ipv4.Repr} {ipv6Repr : Ipv6Repr} {handled : Bool} {ipPayload : List UInt8}
  {nextHeader : IpProtocol} {d : Delivery}

/-- Process a received packet. -/
def process (st : Stack cfg) : IpVersion → Chance → PacketMeta → HardwareAddress → List UInt8 →
    Checked (Stack cfg × Option Packet)
  | .ipv4 => st.processIpv4
  | .ipv6 => st.processIpv6

/-- The header of a received packet. -/
def header (st : Stack cfg) (buf : List UInt8) : IpVersion → Option IpRepr
  | .ipv4 => (Ipv4.Repr.parse st.inner.checksum.ipv4.verifies buf).toOption.map .ipv4
  | .ipv6 => (Ipv6Repr.parse buf).toOption.map fun repr => .ipv6 repr.toHeader

/-- A received packet is answered. -/
def Answers (st : Stack cfg) (version : IpVersion) (buf : List UInt8) (packet : Packet) : Prop :=
  ∃ chance packetMeta hw st', st.process version chance packetMeta hw buf = .ok (st', some packet)

/-- A received packet is an ICMP error. -/
def CarriesError (st : Stack cfg) (buf : List UInt8) : IpVersion → Prop
  | .ipv4 => ∃ ipv4Repr st₁ ipPayload,
      Ipv4.Repr.parse st.inner.checksum.ipv4.verifies buf = .ok ipv4Repr ∧
      ipv4Repr.nextHeader = .icmp ∧ st.reassemble buf = .ok (st₁, some ipPayload) ∧
      Icmpv4.reportsError ipPayload
  | .ipv6 => ∃ ipv6Repr payload, Ipv6Repr.parse buf = .ok ipv6Repr ∧
      Ipv6Packet.payload buf = .ok payload ∧
      ((ipv6Repr.nextHeader = .icmpv6 ∧ Icmpv6.reportsError payload) ∨
        ipv6Repr.nextHeader = .hopByHop ∧ ∃ extRepr hbhRepr,
          InterfaceInner.parseHopbyhop cfg.iface payload = .ok (extRepr, hbhRepr) ∧
          extRepr.nextHeader = .icmpv6 ∧
          Icmpv6.reportsError (payload.drop (extRepr.headerLen + extRepr.data.length)))

/-- The packet tells of an option of a received packet that is not known, and whose two highest bits
are 10. -/
def IsOptionReport (st : Stack cfg) (buf : List UInt8) (packet : Packet) : Prop :=
  ∃ ipv6Repr payload extRepr hbhRepr option, Ipv6Repr.parse buf = .ok ipv6Repr ∧
    Ipv6Packet.payload buf = .ok payload ∧ ipv6Repr.nextHeader = .hopByHop ∧
    InterfaceInner.parseHopbyhop cfg.iface payload = .ok (extRepr, hbhRepr) ∧
    option ∈ hbhRepr.options ∧ option.failureType = .discardSendAll ∧
    st.inner.optionProblem ipv6Repr payload = .ok packet

/-- Only what is sent by a single host to this one is answered with an ICMP error, unless an option
asks for it, and no ICMP error is answered. -/
def AnswersRightly (st : Stack cfg) (version : IpVersion) (buf : List UInt8) : Prop :=
  ∀ packet, st.Answers version buf packet → ¬ st.CarriesError buf version ∧
    (packet.payload.isIcmpError → ∀ ipRepr, st.header buf version = some ipRepr →
      st.inner.isGroupAddressed ipRepr → version = .ipv6 ∧ st.IsOptionReport buf packet)

/-- A packet to an IPv6 group that is known to the host, with a datagram that no socket takes or an
unknown next header. -/
def Amplifies (st : Stack cfg) (buf : List UInt8) : Prop :=
  ∃ ipv6Repr payload nextHeader ipPayload,
    Ipv6Repr.parse buf = .ok ipv6Repr ∧ Ipv6.isUnicast ipv6Repr.srcAddr ∧
    Ipv6.isMulticast ipv6Repr.dstAddr ∧ st.inner.isDestination (.ipv6 ipv6Repr.dstAddr) ∧
    Ipv6Packet.payload buf = .ok payload ∧
    UpperLayer cfg.iface ipv6Repr payload nextHeader ipPayload ∧
    (∀ item ∈ st.sockets, ∀ s, item.socket = .raw s → ¬ s.accepts (.ipv6 ipv6Repr.toHeader)) ∧
    ((nextHeader = .udp ∧ st.Unclaimed (.ipv6 ipv6Repr.toHeader) ipPayload) ∨
      nextHeader ∉ [.icmpv6, .udp, .tcp])

/-- An ICMP error behind options the first of which that is not skipped asks for an answer. -/
def ReportsOnError (buf : List UInt8) (cfg : StackConfig) : Prop :=
  ∃ ipv6Repr payload extRepr hbhRepr option, Ipv6Repr.parse buf = .ok ipv6Repr ∧
    Ipv6.isUnicast ipv6Repr.srcAddr ∧ Ipv6Packet.payload buf = .ok payload ∧
    ipv6Repr.nextHeader = .hopByHop ∧
    InterfaceInner.parseHopbyhop cfg.iface payload = .ok (extRepr, hbhRepr) ∧
    hbhRepr.unskipped = some option ∧ option.failureType.notifies ipv6Repr.dstAddr ∧
    extRepr.nextHeader = .icmpv6 ∧
    Icmpv6.reportsError (payload.drop (extRepr.headerLen + extRepr.data.length))

/-! ### IPv4 -/

/-- What an IPv4 packet is answered with. -/
lemma deliverIpv4_eq_some
    (h : st.deliverIpv4 chance packetMeta ipv4Repr handled ipPayload = .ok (st', some packet)) :
    (ipv4Repr.nextHeader = .icmp → ¬ Icmpv4.reportsError ipPayload) ∧
      (packet.payload.isIcmpError → ¬ st.inner.isGroupAddressed (.ipv4 ipv4Repr)) := by
  -- replies with errors go from one host to another
  have hreply : ∀ icmpRepr : Icmpv4Repr,
      st.inner.icmpv4Reply ipv4Repr icmpRepr = some packet → icmpRepr.isError →
      ¬ st.inner.isGroupAddressed (.ipv4 ipv4Repr) := by
    intro icmpRepr hreply herror
    obtain ⟨-, hsrc, hdst | ⟨_, _, _, rfl⟩⟩ := InterfaceInner.icmpv4Reply_eq_some hreply
    · rintro (hmulticast | hbroadcast | hsrc')
      · exact hdst.1 (.inr (.inl hmulticast))
      · exact hdst.2 hbroadcast
      · exact hsrc' hsrc
    · exact absurd herror id
  unfold deliverIpv4 at h
  cases hnext : ipv4Repr.nextHeader with
  | icmp =>
    rw [hnext] at h
    obtain ⟨ident, seqNo, data, hparse, hanswer⟩ := processIcmpv4_eq_some h
    refine ⟨fun _ herror => herror.msgType_ne (Icmpv4.msgType_of_parse hparse), ?_⟩
    rw [(InterfaceInner.icmpv4Reply_eq_some hanswer).1]
    exact nofun
  | igmp =>
    rw [hnext] at h
    cases h
  | udp =>
    rw [hnext] at h
    obtain ⟨rfl, -, -, hanswer⟩ := processUdp_eq_some.mp h
    exact ⟨nofun, fun _ => hreply _ (Except.ok.inj hanswer) trivial⟩
  | tcp =>
    rw [hnext] at h
    obtain ⟨tcpRepr, reply, rfl, -⟩ := processTcp_eq_some h
    rw [tcpPacket_payload]
    exact ⟨nofun, nofun⟩
  | _ =>
    rw [hnext] at h
    dsimp only at h
    split_ifs at h
    · cases h
    · exact ⟨nofun, fun _ => hreply _ (Prod.mk.inj (Except.ok.inj h)).2 trivial⟩

/-- IPv4 packets are always answered rightly. -/
lemma answersRightly_ipv4 : st.AnswersRightly .ipv4 buf := by
  rintro packet ⟨chance, packetMeta, hw, st', h⟩
  obtain ⟨⟨st₁, r⟩, hrecv, h⟩ := Checked.bind_eq_ok.mp h
  cases r with
  | none => cases h
  | some d =>
    obtain ⟨ipv4Repr, hreceived⟩ := receivedIpv4 hrecv
    obtain ⟨neighborCache, hinner⟩ := hreceived.refreshed
    obtain ⟨st₂, hreassemble, -⟩ := hreceived.reassemble
    have h : st₁.deliver chance packetMeta d = .ok (st', some packet) := h
    rw [deliver, hreceived.ipRepr] at h
    obtain ⟨herror, hgroup⟩ := deliverIpv4_eq_some h
    constructor
    · rintro ⟨repr, st₃, ipPayload, hparse, hicmp, hreassemble', hreports⟩
      obtain rfl := Except.ok.inj (hreceived.parse.symm.trans hparse)
      cases hreassemble.symm.trans hreassemble'
      exact herror hicmp hreports
    · intro hicmp ipRepr hheader hgroup'
      rw [header, hreceived.parse] at hheader
      cases hheader
      rw [hinner] at hgroup
      exact absurd hgroup' (hgroup hicmp)

/-! ### IPv6 -/

lemma exists_headerProblem (hsrc : Ipv6.isUnicast ipv6Repr.srcAddr) :
    ∃ packet, st.headerProblem ipv6Repr ipPayload = .ok packet ∧ packet.payload.isIcmpError := by
  rw [headerProblem]
  obtain ⟨packet, hreply⟩ := InterfaceInner.exists_icmpv6Reply hsrc _
  refine ⟨packet, hreply, ?_⟩
  rw [InterfaceInner.icmpv6Reply_eq_ok hreply]
  rfl

lemma exists_portUnreachable (hsrc : Ipv6.isUnicast ipv6Repr.srcAddr) :
    ∃ packet, st.portUnreachable (.ipv6 ipv6Repr.toHeader) ipPayload = .ok (some packet) ∧
      packet.payload.isIcmpError := by
  rw [portUnreachable]
  obtain ⟨packet, hreply⟩ := InterfaceInner.exists_icmpv6Reply hsrc _
  refine ⟨packet, Checked.bind_eq_ok.mpr ⟨packet, hreply, rfl⟩, ?_⟩
  rw [InterfaceInner.icmpv6Reply_eq_ok hreply]
  rfl

lemma skipHopbyhop_eq_next {payload : List UInt8} :
    st.skipHopbyhop ipv6Repr payload = .ok (.next nextHeader ipPayload) ↔
      UpperLayer cfg.iface ipv6Repr payload nextHeader ipPayload := by
  unfold skipHopbyhop UpperLayer
  split_ifs with hnext
  · rw [InterfaceInner.processHopbyhop_eq_next]
    simp [hnext]
  · simp [hnext, eq_comm]

/-- What an IPv6 packet is answered with, behind the extension header. -/
lemma processNxtHdr_eq_some
    (h : st.processNxtHdr chance packetMeta ipv6Repr nextHeader handled ipPayload =
      .ok (st', some packet)) :
    (nextHeader = .icmpv6 → ¬ Icmpv6.reportsError ipPayload) ∧
      (packet.payload.isIcmpError → handled = false ∧
        ((nextHeader = .udp ∧ st.Unclaimed (.ipv6 ipv6Repr.toHeader) ipPayload) ∨
          nextHeader ∉ [.icmpv6, .udp, .tcp])) := by
  unfold processNxtHdr at h
  cases hnext : nextHeader with
  | icmpv6 =>
    rw [hnext] at h
    obtain ⟨icmpRepr, hparse, hanswer⟩ := processIcmpv6_eq_some h
    constructor
    · rintro - hreports
      have herror := hreports.isError hparse
      obtain ⟨_, _, _, rfl, -⟩ | ⟨_, rfl, -⟩ := hanswer
      · cases herror
      · cases herror
    · obtain ⟨_, _, _, -, hanswer⟩ | ⟨_, -, header, repr, rfl, -⟩ := hanswer
      · rw [InterfaceInner.icmpv6Reply_eq_ok hanswer]
        exact nofun
      · exact nofun
  | udp =>
    rw [hnext] at h
    obtain ⟨rfl, hhandled, hunclaimed, -⟩ := processUdp_eq_some.mp h
    exact ⟨nofun, fun _ => ⟨hhandled, .inl ⟨rfl, hunclaimed⟩⟩⟩
  | tcp =>
    rw [hnext] at h
    obtain ⟨tcpRepr, reply, rfl, -⟩ := processTcp_eq_some h
    rw [tcpPacket_payload]
    exact ⟨nofun, nofun⟩
  | _ =>
    rw [hnext] at h
    dsimp only at h
    split_ifs at h with hhandled
    · cases h
    · exact ⟨nofun, fun _ => ⟨by simpa using hhandled, .inr (by simp)⟩⟩

/-- A next header that is neither of the protocols. -/
lemma processNxtHdr_of_notMem (hnext : nextHeader ∉ [.icmpv6, .udp, .tcp]) :
    st.processNxtHdr chance packetMeta ipv6Repr nextHeader false ipPayload =
      (do return (st, some (← st.headerProblem ipv6Repr ipPayload))) := by
  cases nextHeader with
  | icmpv6 | udp | tcp => simp at hnext
  | _ => rfl

lemma rawSocketFilter_eq_false {ipRepr : IpRepr} {sockets : SocketSet} :
    st.rawSocketFilter ipRepr ipPayload = .ok (sockets, false) ↔
      sockets = st.sockets ∧ ∀ item ∈ st.sockets, ∀ s, item.socket = .raw s →
        ¬ s.accepts ipRepr := by
  rw [rawSocketFilter, SocketSet.offerAll_eq_false]
  refine and_congr_right' (forall₂_congr fun item _ => ?_)
  cases item.socket with
  | raw s =>
    dsimp only
    split_ifs with haccepts
    · simp [haccepts, Checked.bind_eq_ok]
    · simp [haccepts]
  | _ => simp

lemma checkReceived_eq_answer {α : Type} {x : Outcome α} {k : α → Checked (Stack cfg × Received)} :
    st.checkReceived x k = .ok (st', .error (some packet)) ↔
      ∃ a, x = .ok a ∧ k a = .ok (st', .error (some packet)) := by
  match x with
  | .ok a => simp [checkReceived]
  | .error .malformed => simp [checkReceived]
  | .error (.panic p) => simp [checkReceived]

/-- What is answered before a packet gets to a handler: an option that asks for it. -/
lemma receiveIpv6_eq_answer :
    st.receiveIpv6 hw buf = .ok (st', .error (some packet)) ↔
      st' = st ∧ ∃ ipv6Repr payload extRepr hbhRepr option, Ipv6Repr.parse buf = .ok ipv6Repr ∧
        Ipv6.isUnicast ipv6Repr.srcAddr ∧ Ipv6Packet.payload buf = .ok payload ∧
        ipv6Repr.nextHeader = .hopByHop ∧
        InterfaceInner.parseHopbyhop cfg.iface payload = .ok (extRepr, hbhRepr) ∧
        hbhRepr.unskipped = some option ∧ option.failureType.notifies ipv6Repr.dstAddr ∧
        st.inner.optionProblem ipv6Repr payload = .ok packet := by
  constructor
  · intro h
    obtain ⟨ipv6Repr, hparse, h⟩ := checkReceived_eq_answer.mp h
    split_ifs at h with hsrc
    swap
    · cases h
    obtain ⟨payload, hpayload, h⟩ := checkReceived_eq_answer.mp h
    obtain ⟨response, hskip, h⟩ := Checked.bind_eq_ok.mp h
    cases response with
    | discard answer =>
      cases h
      unfold skipHopbyhop at hskip
      split_ifs at hskip with hnext
      · obtain ⟨extRepr, hbhRepr, option, hheaders, hfirst, hnotifies, hproblem⟩ :=
          InterfaceInner.processHopbyhop_eq_discard.mp hskip
        exact ⟨rfl, ipv6Repr, payload, extRepr, hbhRepr, option, hparse, hsrc, hpayload, hnext,
          hheaders, hfirst, hnotifies, hproblem⟩
      · cases hskip
    | next nextHeader ipPayload =>
      obtain ⟨takes, -, h⟩ := Checked.bind_eq_ok.mp h
      split_ifs at h
      · obtain ⟨⟨sockets, handled⟩, -, h⟩ := Checked.bind_eq_ok.mp h
        obtain ⟨-, h⟩ := Prod.mk.inj (Except.ok.inj h)
        cases h
      · cases h
  · rintro ⟨rfl, ipv6Repr, payload, extRepr, hbhRepr, option, hparse, hsrc, hpayload, hnext,
      hheaders, hfirst, hnotifies, hproblem⟩
    have hskip := InterfaceInner.processHopbyhop_eq_discard.mpr
      ⟨extRepr, hbhRepr, option, hheaders, hfirst, hnotifies, hproblem⟩
    refine checkReceived_eq_answer.mpr ⟨ipv6Repr, hparse, ?_⟩
    rw [if_neg (not_not.mpr hsrc)]
    refine checkReceived_eq_answer.mpr ⟨payload, hpayload, ?_⟩
    rw [skipHopbyhop, if_pos hnext, hskip]
    rfl

/-- Packets to a group that are processed are for a group that is known to the host. -/
lemma isDestination_of_takesFor {dstAddr : Ipv6.Address} (hdst : Ipv6.isMulticast dstAddr)
    (h : st.inner.takesFor (.ipv6 dstAddr) = .ok true) :
    st.inner.isDestination (.ipv6 dstAddr) := by
  by_contra hnot
  have hunicast : ¬ (IpAddress.ipv6 dstAddr).isUnicast := fun hunicast => hunicast (.inl hdst)
  rw [InterfaceInner.takesFor, if_neg hnot, InterfaceInner.routedLocally] at h
  split_ifs at h
  · cases h
  · cases h

/-- A packet to a group that no raw socket takes is given to its handler as it is. -/
lemma receiveIpv6_of_multicast {payload : List UInt8} (hparse : Ipv6Repr.parse buf = .ok ipv6Repr)
    (hsrc : Ipv6.isUnicast ipv6Repr.srcAddr) (hdst : Ipv6.isMulticast ipv6Repr.dstAddr)
    (hours : st.inner.isDestination (.ipv6 ipv6Repr.dstAddr))
    (hpayload : Ipv6Packet.payload buf = .ok payload)
    (hupper : UpperLayer cfg.iface ipv6Repr payload nextHeader ipPayload)
    (hraw : ∀ item ∈ st.sockets, ∀ s, item.socket = .raw s →
      ¬ s.accepts (.ipv6 ipv6Repr.toHeader)) :
    st.receiveIpv6 hw buf =
      .ok (st, .ok ⟨.ipv6 ipv6Repr.toHeader, nextHeader, false, ipPayload⟩) := by
  have hfilter : st.rawSocketFilter (.ipv6 ipv6Repr.toHeader) ipPayload = .ok (st.sockets, false) :=
    rawSocketFilter_eq_false.mpr ⟨rfl, hraw⟩
  have hrefresh : st.inner.refreshIpv6 hw ipv6Repr = st.inner :=
    if_neg fun hunicast => hunicast (.inl hdst)
  refine checkReceived_eq_ok.mpr ⟨ipv6Repr, hparse, ?_⟩
  rw [if_neg (not_not.mpr hsrc)]
  refine checkReceived_eq_ok.mpr ⟨payload, hpayload, ?_⟩
  rw [skipHopbyhop_eq_next.mpr hupper, Checked.ok_bind]
  dsimp only
  rw [filterIpv6, InterfaceInner.takesFor, if_pos hours, Checked.ok_bind, if_pos rfl]
  dsimp only
  rw [hfilter, hrefresh]
  rfl

lemma UpperLayer.not_carriesError {payload : List UInt8}
    (hparse : Ipv6Repr.parse buf = .ok ipv6Repr) (hpayload : Ipv6Packet.payload buf = .ok payload)
    (hupper : UpperLayer cfg.iface ipv6Repr payload nextHeader ipPayload)
    (h : nextHeader = .icmpv6 → ¬ Icmpv6.reportsError ipPayload) : ¬ st.CarriesError buf .ipv6 := by
  rintro ⟨repr, payload', hparse', hpayload', hcarries⟩
  obtain rfl := Except.ok.inj (hparse.symm.trans hparse')
  obtain rfl := Except.ok.inj (hpayload.symm.trans hpayload')
  obtain ⟨hicmp, hreports⟩ | ⟨hhop, extRepr, hbhRepr, hheaders, hicmp, hreports⟩ := hcarries
  · obtain ⟨-, rfl, rfl⟩ | ⟨hhop, -⟩ := hupper
    · exact h hicmp hreports
    · cases hicmp.symm.trans hhop
  · obtain ⟨hnot, -⟩ | ⟨-, ext, hbh, hheaders', -, rfl, hslice⟩ := hupper
    · exact hnot hhop
    · cases hheaders.symm.trans hheaders'
      obtain ⟨-, -, rfl⟩ := Checked.slice_eq_ok.mp hslice
      rw [List.take_length] at h
      exact h hicmp hreports

/-- An answer before a packet gets to its handler. -/
lemma answersRightly_of_option (hnot : ¬ ReportsOnError buf cfg)
    (h : st.receiveIpv6 hw buf = .ok (st', .error (some packet))) :
    ¬ st.CarriesError buf .ipv6 ∧ (packet.payload.isIcmpError → ∀ ipRepr,
      st.header buf .ipv6 = some ipRepr → st.inner.isGroupAddressed ipRepr →
      st.IsOptionReport buf packet) := by
  obtain ⟨-, ipv6Repr, payload, extRepr, hbhRepr, option, hparse, hsrc, hpayload, hnext, hheaders,
    hfirst, hnotifies, hproblem⟩ := receiveIpv6_eq_answer.mp h
  constructor
  · rintro ⟨repr, payload', hparse', hpayload', hcarries⟩
    obtain rfl := Except.ok.inj (hparse.symm.trans hparse')
    obtain rfl := Except.ok.inj (hpayload.symm.trans hpayload')
    obtain ⟨hicmp, -⟩ | ⟨-, ext, hbh, hheaders', hicmp, hreports⟩ := hcarries
    · cases hicmp.symm.trans hnext
    · cases hheaders.symm.trans hheaders'
      exact hnot ⟨ipv6Repr, payload, extRepr, hbhRepr, option, hparse, hsrc, hpayload, hnext,
        hheaders, hfirst, hnotifies, hicmp, hreports⟩
  · intro _ ipRepr hheader hgroup
    rw [header, hparse] at hheader
    cases hheader
    have hmulticast : Ipv6.isMulticast ipv6Repr.dstAddr := hgroup.resolve_right (not_not.mpr hsrc)
    refine ⟨ipv6Repr, payload, extRepr, hbhRepr, option, hparse, hpayload, hnext, hheaders,
      List.mem_of_find?_eq_some hfirst, ?_, hproblem⟩
    cases htype : option.failureType with
    | discardSendAll => rfl
    | discardSendUnicast =>
      rw [htype] at hnotifies
      exact absurd hmulticast hnotifies
    | _ =>
      rw [htype] at hnotifies
      exact hnotifies.elim

/-- An answer of the handler of a packet. -/
lemma answersRightly_of_handler (hnot : ¬ st.Amplifies buf)
    (hrecv : st.receiveIpv6 hw buf = .ok (st', .ok d)) {after : Stack cfg}
    (h : st'.deliver chance packetMeta d = .ok (after, some packet)) :
    ¬ st.CarriesError buf .ipv6 ∧ (packet.payload.isIcmpError → ∀ ipRepr,
      st.header buf .ipv6 = some ipRepr → ¬ st.inner.isGroupAddressed ipRepr) := by
  obtain ⟨ipv6Repr, payload, hreceived⟩ := receivedIpv6 hrecv
  have hupper := skipHopbyhop_eq_next.mp hreceived.skip
  rw [deliver, hreceived.ipRepr] at h
  obtain ⟨hicmp, herror⟩ := processNxtHdr_eq_some h
  refine ⟨UpperLayer.not_carriesError hreceived.parse hreceived.payload_eq hupper hicmp, ?_⟩
  intro hisError ipRepr hheader hgroup
  rw [header, hreceived.parse] at hheader
  cases hheader
  have hdst : Ipv6.isMulticast ipv6Repr.dstAddr :=
    hgroup.resolve_right (not_not.mpr hreceived.source)
  have hinner : st'.inner = st.inner :=
    hreceived.inner.trans (if_neg fun hunicast => hunicast (.inl hdst))
  obtain ⟨hhandled, hcase⟩ := herror hisError
  have hraw := hreceived.raw
  rw [hhandled] at hraw
  obtain ⟨hsockets, hraw⟩ := rawSocketFilter_eq_false.mp hraw
  refine hnot ⟨ipv6Repr, payload, d.nextHeader, d.payload, hreceived.parse, hreceived.source, hdst,
    isDestination_of_takesFor hdst hreceived.takesFor, hreceived.payload_eq, hupper, hraw, ?_⟩
  refine hcase.imp_left fun ⟨hudp, hunclaimed⟩ => ⟨hudp, ?_⟩
  rw [Unclaimed, hsockets, hinner] at hunclaimed
  exact hunclaimed

lemma answers_of_option (h : st.receiveIpv6 hw buf = .ok (st', .error (some packet))) :
    st.Answers .ipv6 buf packet := by
  refine ⟨⟨0, 0, 0⟩, 0, hw, st', ?_⟩
  rw [process, processIpv6, h]
  rfl

lemma answers_of_handler {after : Stack cfg} (h : st.receiveIpv6 hw buf = .ok (st', .ok d))
    (hdeliver : st'.deliver chance packetMeta d = .ok (after, some packet)) :
    st.Answers .ipv6 buf packet := by
  refine ⟨chance, packetMeta, hw, after, ?_⟩
  rw [process, processIpv6, h]
  exact hdeliver

/-- The answer to an ICMP error. -/
lemma ReportsOnError.not_answersRightly (h : ReportsOnError buf cfg) :
    ¬ st.AnswersRightly .ipv6 buf := by
  obtain ⟨ipv6Repr, payload, extRepr, hbhRepr, option, hparse, hsrc, hpayload, hnext, hheaders,
    hfirst, hnotifies, hicmp, hreports⟩ := h
  intro hright
  obtain ⟨packet, hproblem⟩ : ∃ packet, st.inner.optionProblem ipv6Repr payload = .ok packet := by
    rw [InterfaceInner.optionProblem]
    exact InterfaceInner.exists_icmpv6Reply hsrc _
  have hrecv : st.receiveIpv6 .ip buf = .ok (st, .error (some packet)) :=
    receiveIpv6_eq_answer.mpr ⟨rfl, ipv6Repr, payload, extRepr, hbhRepr, option, hparse, hsrc,
      hpayload, hnext, hheaders, hfirst, hnotifies, hproblem⟩
  exact (hright packet (answers_of_option hrecv)).1 ⟨ipv6Repr, payload, hparse, hpayload,
    .inr ⟨hnext, extRepr, hbhRepr, hheaders, hicmp, hreports⟩⟩

/-- The answer to a packet to a group. -/
lemma Amplifies.not_answersRightly (h : st.Amplifies buf) : ¬ st.AnswersRightly .ipv6 buf := by
  obtain ⟨ipv6Repr, payload, nextHeader, ipPayload, hparse, hsrc, hdst, hours, hpayload, hupper,
    hraw, hcase⟩ := h
  intro hright
  -- the handler answers with an error
  obtain ⟨packet, herror, hdeliver⟩ : ∃ packet : Packet, packet.payload.isIcmpError ∧
      st.deliver ⟨0, 0, 0⟩ 0 ⟨.ipv6 ipv6Repr.toHeader, nextHeader, false, ipPayload⟩ =
        .ok (st, some packet) := by
    obtain ⟨rfl, hunclaimed⟩ | hnext := hcase
    · obtain ⟨packet, hreply, herror⟩ := exists_portUnreachable hsrc
      exact ⟨packet, herror, processUdp_eq_some.mpr ⟨rfl, rfl, hunclaimed, hreply⟩⟩
    · obtain ⟨packet, hreply, herror⟩ := exists_headerProblem hsrc
      refine ⟨packet, herror, (processNxtHdr_of_notMem hnext).trans ?_⟩
      exact Checked.bind_eq_ok.mpr ⟨packet, hreply, rfl⟩
  have hrecv : st.receiveIpv6 .ip buf = _ :=
    receiveIpv6_of_multicast hparse hsrc hdst hours hpayload hupper hraw
  have hanswers : st.Answers .ipv6 buf packet := answers_of_handler hrecv hdeliver
  have hheader : st.header buf .ipv6 = some (.ipv6 ipv6Repr.toHeader) := by
    rw [header, hparse]
    rfl
  -- and no option asks for it
  obtain ⟨-, repr, payload', extRepr, hbhRepr, option, hparse', hpayload', hnext, hheaders, hmem,
    htype, -⟩ := (hright packet hanswers).2 herror _ hheader (.inl hdst)
  obtain rfl := Except.ok.inj (hparse.symm.trans hparse')
  obtain rfl := Except.ok.inj (hpayload.symm.trans hpayload')
  obtain ⟨hnot, -⟩ | ⟨-, ext, hbh, hheaders', hnone, -⟩ := hupper
  · exact hnot hnext
  · cases hheaders.symm.trans hheaders'
    have hskip := List.find?_eq_none.mp hnone option hmem
    rw [htype] at hskip
    exact hskip (by decide)

/-- A packet is answered rightly if and only if it is not an IPv6 packet to a group with a datagram
that no socket takes or an unknown next header, and no ICMP error behind an option that asks for an
answer. -/
theorem answersRightly_iff (st : Stack cfg) (version : IpVersion) (buf : List UInt8) :
    st.AnswersRightly version buf ↔
      ¬ (version = .ipv6 ∧ (st.Amplifies buf ∨ ReportsOnError buf cfg)) := by
  cases version with
  | ipv4 => exact ⟨fun _ => nofun, fun _ => answersRightly_ipv4⟩
  | ipv6 =>
    constructor
    · rintro hright ⟨-, hamplifies | hreports⟩
      · exact hamplifies.not_answersRightly hright
      · exact hreports.not_answersRightly hright
    · rintro hnot packet ⟨chance, packetMeta, hw, after, h⟩
      obtain ⟨⟨st', r⟩, hrecv, h⟩ := Checked.bind_eq_ok.mp h
      cases r with
      | error answer =>
        cases h
        obtain ⟨hcarries, hreport⟩ :=
          answersRightly_of_option (fun hreports => hnot ⟨rfl, .inr hreports⟩) hrecv
        exact ⟨hcarries, fun herror ipRepr hheader hgroup =>
          ⟨rfl, hreport herror ipRepr hheader hgroup⟩⟩
      | ok d =>
        obtain ⟨hcarries, hgroup⟩ :=
          answersRightly_of_handler (fun hamplifies => hnot ⟨rfl, .inl hamplifies⟩) hrecv h
        exact ⟨hcarries, fun herror ipRepr hheader hgroup' =>
          absurd hgroup' (hgroup herror ipRepr hheader)⟩

open InterfaceInner (exampleIface)

/-- A datagram from fe80::2 to all nodes, for a port that nobody listens on. -/
def exampleDatagram : List UInt8 :=
  Ipv6Repr.octets ⟨0xfe80 <<< 112 ||| 2, Ipv6.linkLocalAllNodes, .udp, 8, 64⟩ ++
    [0, 1, 0, 9, 0, 8, 0, 0]

/-- The datagram is answered with an error. -/
theorem not_answersRightly_example :
    ¬ (⟨exampleIface, .new StackConfig.default.reassembly, .new 0, []⟩ :
      Stack .default).AnswersRightly .ipv6 exampleDatagram := by
  have hparse : Ipv6Repr.parse exampleDatagram =
    .ok ⟨0xfe80 <<< 112 ||| 2, Ipv6.linkLocalAllNodes, .udp, 8, 64⟩ := by decide
  have hpayload : Ipv6Packet.payload exampleDatagram = .ok [0, 1, 0, 9, 0, 8, 0, 0] := by
    decide
  apply Amplifies.not_answersRightly
  refine ⟨_, _, .udp, [0, 1, 0, 9, 0, 8, 0, 0], hparse, by decide, by decide, ?_,
    hpayload, .inl ⟨by decide, rfl, rfl⟩, List.forall_mem_nil _, .inl ⟨rfl, ⟨1, 9⟩, [], ?_, ?_,
      List.forall_mem_nil _⟩⟩
  · change exampleIface.isDestination (.ipv6 Ipv6.linkLocalAllNodes)
    decide
  · decide
  · decide

end Stack

end Smoltcp
