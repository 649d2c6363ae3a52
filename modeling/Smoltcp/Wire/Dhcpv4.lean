import Smoltcp.Wire.Address
import Smoltcp.Wire.HardwareAddress
import Smoltcp.Wire.Outcome

/-!
# DHCP messages

A message has a fixed part and a list of options. Options of an unexpected length are ignored, and
of several options of one kind the last one counts.
-/

namespace Smoltcp

open Outcome

def dhcpServerPort : UInt16 := 67

def dhcpClientPort : UInt16 := 68

def dhcpMagicNumber : BitVec 32 := 0x63825363

def dhcpMaxDnsServerCount : ℕ := 3

/-- Message opcode. -/
inductive DhcpOpCode where
  | request
  | reply
  | unknown (value : UInt8)
  deriving DecidableEq, Repr

def DhcpOpCode.ofByte (value : UInt8) : DhcpOpCode :=
  if value = 1 then .request
  else if value = 2 then .reply
  else .unknown value

/-- Message type. -/
inductive DhcpMessageType where
  | discover
  | offer
  | request
  | decline
  | ack
  | nak
  | release
  | inform
  | unknown (value : UInt8)
  deriving DecidableEq, Repr

namespace DhcpMessageType

def ofByte (value : UInt8) : DhcpMessageType :=
  if value = 1 then .discover
  else if value = 2 then .offer
  else if value = 3 then .request
  else if value = 4 then .decline
  else if value = 5 then .ack
  else if value = 6 then .nak
  else if value = 7 then .release
  else if value = 8 then .inform
  else .unknown value

def opcode : DhcpMessageType → DhcpOpCode
  | .discover | .inform | .request | .decline | .release => .request
  | .offer | .ack | .nak => .reply
  | .unknown _ => .unknown 0

end DhcpMessageType

/-- A variable-length field in a message. -/
structure DhcpOption where
  kind : UInt8
  data : List UInt8
  deriving DecidableEq, Repr

namespace DhcpOption

/-! Kinds of options. -/

def optEnd : UInt8 := 255
def optPad : UInt8 := 0
def optSubnetMask : UInt8 := 1
def optRouter : UInt8 := 3
def optDomainNameServer : UInt8 := 6
def optRequestedIp : UInt8 := 50
def optIpLeaseTime : UInt8 := 51
def optDhcpMessageType : UInt8 := 53
def optServerIdentifier : UInt8 := 54
def optParameterRequestList : UInt8 := 55
def optMaxDhcpMessageSize : UInt8 := 57
def optRenewalTimeValue : UInt8 := 58
def optRebindingTimeValue : UInt8 := 59
def optClientId : UInt8 := 61

end DhcpOption

structure DhcpRepr where
  messageType : DhcpMessageType
  transactionId : BitVec 32
  secs : UInt16
  clientHardwareAddress : EthernetAddress
  clientIp : Ipv4.Address
  yourIp : Ipv4.Address
  serverIp : Ipv4.Address
  router : Option Ipv4.Address
  subnetMask : Option Ipv4.Address
  relayAgentIp : Ipv4.Address
  broadcast : Bool
  requestedIp : Option Ipv4.Address
  clientIdentifier : Option EthernetAddress
  serverIdentifier : Option Ipv4.Address
  parameterRequestList : Option (List UInt8)
  dnsServers : Option (List Ipv4.Address)
  maxSize : Option UInt16
  leaseDuration : Option (BitVec 32)
  renewDuration : Option (BitVec 32)
  rebindDuration : Option (BitVec 32)
  additionalOptions : List DhcpOption
  deriving DecidableEq, Repr

namespace DhcpPacket

variable (buf : List UInt8)

def optionsStart : ℕ := 240

def checkLen : Outcome Unit := reject (buf.length < optionsStart)

/-- The options from the octets on. An option that is cut off ends them. -/
def options : List UInt8 → List DhcpOption
  | [] => []
  | kind :: rest =>
    if kind = DhcpOption.optEnd then []
    -- Skip padding.
    else if kind = DhcpOption.optPad then options rest
    else
      match rest with
      | [] => []
      | len :: rest =>
        if rest.length < len.toNat then []
        else ⟨kind, rest.take len.toNat⟩ :: options (rest.drop len.toNat)
termination_by buf => buf.length
decreasing_by
  all_goals simp only [List.length_cons, List.length_drop]; omega

/-- The addresses in the octets of an option. -/
def addresses : List UInt8 → List Ipv4.Address
  | a :: b :: c :: d :: rest => Octets.toU32 a b c d :: addresses rest
  | _ => []

end DhcpPacket

namespace DhcpRepr

open DhcpOption DhcpPacket

/-- What the options of a message say. Whether a type was found is told beside. -/
structure Fields where
  messageType : Option DhcpMessageType := none
  requestedIp : Option Ipv4.Address := none
  clientIdentifier : Option EthernetAddress := none
  serverIdentifier : Option Ipv4.Address := none
  router : Option Ipv4.Address := none
  subnetMask : Option Ipv4.Address := none
  parameterRequestList : Option (List UInt8) := none
  dnsServers : Option (List Ipv4.Address) := none
  maxSize : Option UInt16 := none
  leaseDuration : Option (BitVec 32) := none
  renewDuration : Option (BitVec 32) := none
  rebindDuration : Option (BitVec 32) := none
  deriving DecidableEq, Repr

/-- What an option adds. -/
def Fields.set (opcode : DhcpOpCode) (fields : Fields) (option : DhcpOption) : Outcome Fields :=
  let data := option.data
  let kind := option.kind
  if kind = optDhcpMessageType ∧ data.length = 1 then
    let value := DhcpMessageType.ofByte (Octets.get data 0)
    .ok (if value.opcode = opcode then { fields with messageType := some value } else fields)
  else if kind = optRequestedIp ∧ data.length = 4 then
    .ok { fields with requestedIp := some (Octets.readU32 data 0) }
  else if kind = optClientId ∧ data.length = 7 then
    if Octets.get data 0 ≠ 1 then fail
    else .ok { fields with clientIdentifier := some (EthernetAddress.fromBytes (data.drop 1)) }
  else if kind = optServerIdentifier ∧ data.length = 4 then
    .ok { fields with serverIdentifier := some (Octets.readU32 data 0) }
  else if kind = optRouter ∧ data.length = 4 then
    .ok { fields with router := some (Octets.readU32 data 0) }
  else if kind = optSubnetMask ∧ data.length = 4 then
    .ok { fields with subnetMask := some (Octets.readU32 data 0) }
  else if kind = optMaxDhcpMessageSize ∧ data.length = 2 then
    .ok { fields with maxSize := some (Octets.readU16 data 0) }
  else if kind = optRenewalTimeValue ∧ data.length = 4 then
    .ok { fields with renewDuration := some (Octets.readU32 data 0) }
  else if kind = optRebindingTimeValue ∧ data.length = 4 then
    .ok { fields with rebindDuration := some (Octets.readU32 data 0) }
  else if kind = optIpLeaseTime ∧ data.length = 4 then
    .ok { fields with leaseDuration := some (Octets.readU32 data 0) }
  else if kind = optParameterRequestList then
    .ok { fields with parameterRequestList := some data }
  else if kind = optDomainNameServer then
    -- Addresses that find no room are ignored.
    .ok { fields with dnsServers := some ((addresses data).take dhcpMaxDnsServerCount) }
  else .ok fields

def setAll (opcode : DhcpOpCode) : List DhcpOption → Fields → Outcome Fields
  | [], fields => .ok fields
  | option :: rest, fields => do setAll opcode rest (← fields.set opcode option)

/-- Parse a message. -/
def parse (buf : List UInt8) : Outcome DhcpRepr := do
  checkLen buf
  -- only ethernet is supported right now
  if (← index buf 1) ≠ 1 then fail
  else if (← index buf 2) ≠ 6 then fail
  else if (← readU32 buf 236) ≠ dhcpMagicNumber then fail
  else
    let fields ← setAll (.ofByte (← index buf 0)) (options (← sliceFrom buf optionsStart)) {}
    let messageType ← okOr fields.messageType
    return {
      messageType
      transactionId := ← readU32 buf 4
      secs := ← readU16 buf 8
      clientHardwareAddress := EthernetAddress.fromBytes (← slice buf 28 34)
      clientIp := ← readU32 buf 12
      yourIp := ← readU32 buf 16
      serverIp := ← readU32 buf 20
      router := fields.router
      subnetMask := fields.subnetMask
      relayAgentIp := ← readU32 buf 24
      broadcast := (← readU16 buf 10) &&& (0x8000 : UInt16) ≠ 0
      requestedIp := fields.requestedIp
      clientIdentifier := fields.clientIdentifier
      serverIdentifier := fields.serverIdentifier
      parameterRequestList := fields.parameterRequestList
      dnsServers := fields.dnsServers
      maxSize := fields.maxSize
      leaseDuration := fields.leaseDuration
      renewDuration := fields.renewDuration
      rebindDuration := fields.rebindDuration
      additionalOptions := [] }

/-- The length of the packet that is emitted. -/
def bufferLen (repr : DhcpRepr) : ℕ :=
  -- message type and end-of-options options
  optionsStart + 3 + 1 +
    (if repr.requestedIp.isSome then 6 else 0) +
    (if repr.clientIdentifier.isSome then 9 else 0) +
    (if repr.serverIdentifier.isSome then 6 else 0) +
    (if repr.maxSize.isSome then 4 else 0) +
    (if repr.router.isSome then 6 else 0) +
    (if repr.subnetMask.isSome then 6 else 0) +
    (if repr.leaseDuration.isSome then 6 else 0) +
    (repr.dnsServers.elim 0 fun servers => 2 + servers.length * 4) +
    (repr.parameterRequestList.elim 0 fun list => list.length + 2) +
    (repr.additionalOptions.map fun opt => 2 + opt.data.length).sum

end DhcpRepr

end Smoltcp
