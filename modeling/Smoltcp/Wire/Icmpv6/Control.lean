import Smoltcp.Wire.Icmpv6.Packet

/-!
# Multicast listener discovery and routing messages

Reports of multicast listening, and the control messages of routing over lossy networks. Both are
carried by ICMPv6.
-/

namespace Smoltcp

open Outcome

/-! ### Multicast listener discovery -/

/-- Record type of a multicast listener report. -/
inductive MldRecordType where
  /-- Interface has a filter mode of INCLUDE for the specified multicast address. -/
  | modeIsInclude
  /-- Interface has a filter mode of EXCLUDE for the specified multicast address. -/
  | modeIsExclude
  /-- Interface has changed to a filter mode of INCLUDE for the specified multicast address. -/
  | changeToInclude
  /-- Interface has changed to a filter mode of EXCLUDE for the specified multicast address. -/
  | changeToExclude
  /-- Interface wishes to listen to the sources in the specified list. -/
  | allowNewSources
  /-- Interface no longer wishes to listen to the sources in the specified list. -/
  | blockOldSources
  | unknown (value : UInt8)
  deriving DecidableEq, Repr

structure MldAddressRecordRepr where
  recordType : MldRecordType
  auxDataLen : UInt8
  numSrcs : UInt16
  mcastAddr : Ipv6.Address
  payload : List UInt8
  deriving DecidableEq, Repr

namespace MldAddressRecordRepr

/-- A record with an empty source list. -/
def new (recordType : MldRecordType) (mcastAddr : Ipv6.Address) : MldAddressRecordRepr where
  recordType
  auxDataLen := 0
  numSrcs := 0
  mcastAddr
  payload := []

/-- The length of the record that is emitted. -/
def bufferLen (_ : MldAddressRecordRepr) : ℕ := 20

end MldAddressRecordRepr

inductive MldRepr where
  | query (maxRespCode : UInt16) (mcastAddr : Ipv6.Address) (sFlag : Bool) (qrv qqic : UInt8)
      (numSrcs : UInt16) (data : List UInt8)
  | report (nrMcastAddrRcrds : UInt16) (data : List UInt8)
  | reportRecordReprs (records : List MldAddressRecordRepr)
  deriving DecidableEq, Repr

namespace MldRepr

open Icmpv6Packet

def parse (buf : List UInt8) : Outcome MldRepr := do
  checkLen buf
  match ← msgType buf with
  | .mldQuery =>
    let sqrv ← index buf 24
    return .query (← readU16 buf 4) (← addressAt buf 8) (sqrv &&& (0x08 : UInt8) ≠ 0)
      (sqrv &&& (0x7 : UInt8)) (← index buf 25) (← readU16 buf 26) (← payload buf)
  | .mldReport => return .report (← readU16 buf 6) (← payload buf)
  | _ => fail

/-- The length of the packet that is emitted, without its records. -/
def bufferLen : MldRepr → ℕ
  | .query _ _ _ _ _ _ data => 28 + data.length
  | .report _ data => 8 + data.length
  | .reportRecordReprs _ => 8

end MldRepr

/-! ### Routing -/

namespace Rpl

inductive InstanceId where
  | global (value : UInt8)
  | local (value : UInt8)
  deriving DecidableEq, Repr

def InstanceId.ofByte (value : UInt8) : InstanceId :=
  if (value >>> 7) &&& (0xb1 : UInt8) = 0 then .global (value &&& (0b0111_1111 : UInt8))
  else .local (value &&& (0b0111_1111 : UInt8))

inductive ModeOfOperation where
  | noDownwardRoutesMaintained
  | nonStoringMode
  | storingModeWithoutMulticast
  | storingModeWithMulticast
  | unknown (value : UInt8)
  deriving DecidableEq, Repr

def ModeOfOperation.ofByte (value : UInt8) : ModeOfOperation :=
  if value = 0x00 then .noDownwardRoutesMaintained
  else if value = 0x01 then .nonStoringMode
  else if value = 0x02 then .storingModeWithoutMulticast
  else if value = 0x03 then .storingModeWithMulticast
  else .unknown value

end Rpl

inductive RplRepr where
  | dodagInformationSolicitation (options : List UInt8)
  | dodagInformationObject (rplInstanceId : Rpl.InstanceId) (versionNumber : UInt8) (rank : UInt16)
      (grounded : Bool) (modeOfOperation : Rpl.ModeOfOperation) (dodagPreference dtsn : UInt8)
      (dodagId : Ipv6.Address) (options : List UInt8)
  | destinationAdvertisementObject (rplInstanceId : Rpl.InstanceId) (expectAck : Bool)
      (sequence : UInt8) (dodagId : Option Ipv6.Address) (options : List UInt8)
  | destinationAdvertisementObjectAck (rplInstanceId : Rpl.InstanceId) (sequence status : UInt8)
      (dodagId : Option Ipv6.Address)
  deriving DecidableEq, Repr

namespace RplRepr

open Icmpv6 Icmpv6Packet

variable (buf : List UInt8)

def daoAckDodagIdPresent : Outcome Bool := bit buf 5 7

/-- The options behind an identifier that may be present. -/
def optionsBehind (present : Bool) : Outcome (List UInt8) := do
  if present then
    reject (buf.length < 24)
    sliceFrom buf 24
  else
    reject (buf.length < 8)
    sliceFrom buf 8

/-- Return a pointer to the options. -/
def options : Outcome (List UInt8) := do
  match RplControlMessage.ofByte (← msgCode buf) with
  | .dodagInformationSolicitation => do
    reject (buf.length < 6)
    sliceFrom buf 6
  | .dodagInformationObject => do
    reject (buf.length < 28)
    sliceFrom buf 28
  | .destinationAdvertisementObject => do optionsBehind buf (← daoDodagIdPresent buf)
  | .destinationAdvertisementObjectAck => do optionsBehind buf (← daoAckDodagIdPresent buf)
  | .secure _ | .unknown _ => fail

/-- The identifier, if it is present. -/
def dodagId (present : Bool) : Outcome (Option Ipv6.Address) := do
  if present then return some (← addressAt buf 8) else return none

def parse : Outcome RplRepr := do
  checkLen buf
  let options ← options buf
  match RplControlMessage.ofByte (← msgCode buf) with
  | .dodagInformationSolicitation => return .dodagInformationSolicitation options
  | .dodagInformationObject =>
    let octet ← index buf 8
    return .dodagInformationObject (.ofByte (← index buf 4)) (← index buf 5) (← readU16 buf 6)
      ((octet >>> 7) &&& (0b01 : UInt8) = 0b1) (.ofByte ((octet >>> 3) &&& (0b111 : UInt8)))
      (octet &&& (0b111 : UInt8)) (← index buf 9) (← addressAt buf 12) options
  | .destinationAdvertisementObject =>
    return .destinationAdvertisementObject (.ofByte (← index buf 4)) (← bit buf 5 7)
      (← index buf 7) (← dodagId buf (← daoDodagIdPresent buf)) options
  | .destinationAdvertisementObjectAck =>
    return .destinationAdvertisementObjectAck (.ofByte (← index buf 4)) (← index buf 6)
      (← index buf 7) (← dodagId buf (← daoAckDodagIdPresent buf))
  | .secure _ | .unknown _ => fail

/-- The length of the packet that is emitted. -/
def bufferLen : RplRepr → ℕ
  | .dodagInformationSolicitation options => 4 + 2 + options.length
  | .dodagInformationObject _ _ _ _ _ _ _ _ options => 4 + 24 + options.length
  | .destinationAdvertisementObject _ _ _ dodagId options =>
    4 + (if dodagId.isSome then 20 else 4) + options.length
  | .destinationAdvertisementObjectAck _ _ _ dodagId => 4 + (if dodagId.isSome then 20 else 4)

end RplRepr

end Smoltcp
