import Smoltcp.Iface.Packet
import Smoltcp.Iface.Interface
import Smoltcp.Wire.Dhcpv4

/-!
# DHCP sockets

The client discovers a server, requests the address that it offers, and renews the lease of it until
it expires. Every message is sent at the time that `pollAt` tells, and again some time later.
-/

namespace Smoltcp

namespace Dhcpv4

/-- Information on how to reach a DHCP server. -/
structure ServerInfo where
  /-- IP address to use as destination in outgoing packets. -/
  address : Ipv4.Address
  /-- Server identifier to use in outgoing packets. -/
  identifier : Ipv4.Address
  deriving DecidableEq, Repr

/-- IPv4 configuration data provided by the DHCP server. -/
structure Config where
  server : ServerInfo
  address : Ipv4.Cidr
  router : Option Ipv4.Address
  dnsServers : List Ipv4.Address
  deriving DecidableEq

structure RequestState where
  /-- When to send next request. -/
  retryAt : Instant
  /-- How many retries have been done. -/
  retry : UInt16
  server : ServerInfo
  requestedIp : Ipv4.Address
  deriving DecidableEq, Repr

structure RenewState where
  config : Config
  /-- When reached, we will start attempting to renew this lease with the DHCP server. -/
  renewAt : Instant
  /-- When reached, we will start broadcasting to renew this lease with any DHCP server. -/
  rebindAt : Instant
  rebinding : Bool
  /-- When reached, this lease is no longer valid. -/
  expiresAt : Instant
  deriving DecidableEq

inductive ClientState where
  /-- Discovering the DHCP server. -/
  | discovering (retryAt : Instant)
  /-- Requesting an address. -/
  | requesting (state : RequestState)
  /-- Having an address, refresh it periodically. -/
  | renewing (state : RenewState)
  deriving DecidableEq

/-- Timeout and retry configuration. -/
structure RetryConfig where
  discoverTimeout : Duration := .fromSecs 10
  /-- The request timeout doubles every 2 tries. -/
  initialRequestTimeout : Duration := .fromSecs 5
  requestRetries : UInt16 := 5
  minRenewTimeout : Duration := .fromSecs 60
  maxRenewTimeout : Duration := 0xffffffffffffffff
  deriving DecidableEq, Repr

/-- Return value for `poll`. -/
inductive Event where
  /-- Configuration has been lost (for example, the lease has expired). -/
  | deconfigured
  /-- Configuration has been newly acquired, or modified. -/
  | configured (config : Config) (packet : Option (List UInt8))
  deriving DecidableEq

structure Socket where
  state : ClientState
  /-- Set to true on config/state change, cleared back to false by `poll`. -/
  configChanged : Bool
  /-- The identifier of the last sent message. -/
  transactionId : BitVec 32
  maxLeaseDuration : Option Duration
  retryConfig : RetryConfig
  ignoreNaks : Bool
  serverPort : UInt16
  clientPort : UInt16
  outgoingOptions : List DhcpOption
  parameterRequestList : Option (List UInt8)
  /-- Incoming DHCP packets are copied into this buffer, overwriting the previous. -/
  receivePacketBuffer : Option (List UInt8)

def defaultLeaseDuration : Duration := .fromSecs 120

def defaultParameterRequestList : List UInt8 :=
  [DhcpOption.optSubnetMask, DhcpOption.optRouter, DhcpOption.optDomainNameServer]

/-- Worst case biggest IPv4 header length. -/
def maxIpv4HeaderLen : ℕ := 60

/-- What an acknowledgement grants: the configuration, and when to renew it, to rebind it and to
throw it away. -/
structure Lease where
  config : Config
  renewAt : Instant
  rebindAt : Instant
  expiresAt : Instant

/-- Renew and rebind times, of which the server may set both or one. -/
def renewAndRebind (lease : Duration) (renew rebind : Option Duration) : Duration × Duration :=
  let default := (lease / 2, lease * 7 / 8)
  match renew, rebind with
  | some renew, some rebind => if renew < rebind ∧ rebind < lease then (renew, rebind) else default
  -- Three quarters through the gap between the renewal and the duration of the lease.
  | some renew, none => if renew < lease then (renew, renew + (lease - renew) * 3 / 4) else default
  | none, some rebind => if rebind < lease then (min (lease / 2) rebind, rebind) else default
  | none, none => default

/-- What is read of an acknowledgement. -/
def parseAck (now : Instant) (dhcpRepr : DhcpRepr) (maxLeaseDuration : Option Duration)
    (server : ServerInfo) : Checked (Option Lease) :=
  match dhcpRepr.subnetMask.bind Ipv4.prefixLen with
  | none => .ok none
  | some prefixLen =>
    if ¬ Ipv4.isUnicast dhcpRepr.yourIp then .ok none
    else do
      let seconds (d : BitVec 32) : Duration := .fromSecs (.ofNat d.toNat)
      let lease := (dhcpRepr.leaseDuration.map seconds).getD defaultLeaseDuration
      let lease := maxLeaseDuration.elim lease fun maxLease => min lease maxLease
      -- Some servers send 0.0.0.0 as second DNS server if there's only one configured.
      let dnsServers := (dhcpRepr.dnsServers.getD []).filter fun s => Ipv4.isUnicast s
      let config : Config := {
        server
        address := ← Ipv4.Cidr.new dhcpRepr.yourIp prefixLen
        router := dhcpRepr.router
        dnsServers := dnsServers.take dhcpMaxDnsServerCount }
      let (renew, rebind) := renewAndRebind lease (dhcpRepr.renewDuration.map seconds)
        (dhcpRepr.rebindDuration.map seconds)
      return some ⟨config, now.add renew, now.add rebind, now.add lease⟩

namespace Socket

def new : Socket where
  state := .discovering 0
  configChanged := true
  transactionId := 1
  maxLeaseDuration := none
  retryConfig := {}
  ignoreNaks := false
  serverPort := dhcpServerPort
  clientPort := dhcpClientPort
  outgoingOptions := []
  parameterRequestList := none
  receivePacketBuffer := none

variable {cfg : IfaceConfig} (s : Socket) (iface : InterfaceInner cfg)

/-! ### Settings -/

def setRetryConfig (config : RetryConfig) : Socket := { s with retryConfig := config }

def setOutgoingOptions (options : List DhcpOption) : Socket := { s with outgoingOptions := options }

def setReceivePacketBuffer (buffer : List UInt8) : Socket :=
  { s with receivePacketBuffer := some buffer }

def setParameterRequestList (parameterRequestList : List UInt8) : Socket :=
  { s with parameterRequestList := some parameterRequestList }

def setMaxLeaseDuration (maxLeaseDuration : Option Duration) : Socket := { s with maxLeaseDuration }

def setIgnoreNaks (ignoreNaks : Bool) : Socket := { s with ignoreNaks }

def setPorts (serverPort clientPort : UInt16) : Socket := { s with serverPort, clientPort }

/-! ### Receiving -/

/-- Reset state and restart discovery phase. -/
def reset : Socket :=
  let configChanged := match s.state with
    | .renewing _ => true
    | _ => s.configChanged
  { s with state := .discovering 0, configChanged }

/-- When to dispatch next. -/
def pollAt : Instant :=
  match s.state with
  | .discovering retryAt => retryAt
  | .requesting state => state.retryAt
  | .renewing state =>
    min (if state.rebinding then state.rebindAt else min state.renewAt state.rebindAt)
      state.expiresAt

/-- Query the socket for configuration changes. -/
def poll : Socket × Option Event :=
  if ¬ s.configChanged then (s, none)
  else
    let event := match s.state with
      | .renewing state => .configured state.config s.receivePacketBuffer
      | _ => .deconfigured
    ({ s with configChanged := false }, some event)

/-- Copy a packet into the receive packet buffer, if it fits. -/
def keepPacket (payload : List UInt8) : Socket :=
  { s with receivePacketBuffer := s.receivePacketBuffer.map fun buffer =>
      if payload.length ≤ buffer.length then buffer.overwrite 0 payload else buffer }

/-- What a message of the server that we are waiting for does. -/
def receive (now : Instant) (srcIp serverIdentifier : Ipv4.Address) (dhcpRepr : DhcpRepr) :
    Checked Socket :=
  match s.state, dhcpRepr.messageType with
  | .discovering _, .offer =>
    if ¬ Ipv4.isUnicast dhcpRepr.yourIp then .ok s
    else
      .ok { s with
        state := .requesting ⟨now, 0, ⟨srcIp, serverIdentifier⟩, dhcpRepr.yourIp⟩ }
  | .requesting state, .ack => do
    match ← parseAck now dhcpRepr s.maxLeaseDuration state.server with
    | none => return s
    | some lease =>
      return { s with
        state := .renewing ⟨lease.config, lease.renewAt, lease.rebindAt, false, lease.expiresAt⟩
        configChanged := true }
  | .renewing state, .ack => do
    match ← parseAck now dhcpRepr s.maxLeaseDuration state.config.server with
    | none => return s
    | some lease =>
      let changed := state.config ≠ lease.config ∨ s.receivePacketBuffer.isSome
      return { s with
        state := .renewing ⟨lease.config, lease.renewAt, lease.rebindAt, false, lease.expiresAt⟩
        configChanged := s.configChanged || decide changed }
  | .requesting _, .nak | .renewing _, .nak => .ok (if s.ignoreNaks then s else s.reset)
  | _, _ => .ok s

def process (ipRepr : Ipv4.Repr) (repr : UdpRepr) (payload : List UInt8) : Checked Socket := do
  -- This is enforced in the interface.
  Checked.assert (repr.srcPort = s.serverPort ∧ repr.dstPort = s.clientPort)
  match DhcpRepr.parse payload with
  | .error .malformed => return s
  | .error (.panic p) => .error p
  | .ok dhcpRepr =>
    let ethernetAddr ← iface.hardwareAddr.ethernetOrPanic
    if dhcpRepr.clientHardwareAddress ≠ ethernetAddr then return s
    else if dhcpRepr.transactionId ≠ s.transactionId then return s
    else
      match dhcpRepr.serverIdentifier with
      | none => return s
      | some serverIdentifier =>
        (s.keepPacket payload).receive iface.now ipRepr.srcAddr serverIdentifier dhcpRepr

/-! ### Sending -/

/-- A message to send. -/
structure Message where
  ipRepr : Ipv4.Repr
  udpRepr : UdpRepr
  dhcpRepr : DhcpRepr

/-- The message that every message is made of: a discovery. -/
def discover (ethernetAddr : EthernetAddress) (maxSize : UInt16) (transactionId : BitVec 32) :
    DhcpRepr where
  messageType := .discover
  transactionId
  secs := 0
  clientHardwareAddress := ethernetAddr
  clientIp := 0
  yourIp := 0
  serverIp := 0
  router := none
  subnetMask := none
  relayAgentIp := 0
  broadcast := false
  requestedIp := none
  clientIdentifier := some ethernetAddr
  serverIdentifier := none
  parameterRequestList := some (s.parameterRequestList.getD defaultParameterRequestList)
  dnsServers := none
  maxSize := some maxSize
  leaseDuration := none
  renewDuration := none
  rebindDuration := none
  additionalOptions := s.outgoingOptions

/-- A message from an address to another. -/
def message (srcAddr dstAddr : Ipv4.Address) (dhcpRepr : DhcpRepr) : Message :=
  let udpRepr : UdpRepr := ⟨s.clientPort, s.serverPort⟩
  ⟨⟨srcAddr, dstAddr, .udp, udpRepr.headerLen + dhcpRepr.bufferLen, 64⟩, udpRepr, dhcpRepr⟩

/-- When a lease is renewed or rebound again, after a message was sent. -/
def RenewState.sent (retryConfig : RetryConfig) (now : Instant) (state : RenewState) : RenewState :=
  if state.rebinding then
    let wait := max retryConfig.minRenewTimeout (state.expiresAt.since now / 2)
    { state with rebindAt := now.add (min wait retryConfig.maxRenewTimeout) }
  else
    let wait := max retryConfig.minRenewTimeout (state.rebindAt.since now / 2)
    let wait := min wait (state.rebindAt.since now)
    { state with renewAt := now.add (min wait retryConfig.maxRenewTimeout) }

/-- Send what there is to send, with a random transaction identifier. The state changes after the
message was sent. -/
def dispatch (nextTransactionId : BitVec 32) (emit : Message → Bool) :
    Checked (Socket × Option Message) := do
  let now := iface.now
  let ethernetAddr ← iface.hardwareAddr.ethernetOrPanic
  let maxSize ← Checked.sub (← Checked.sub iface.ipMtu maxIpv4HeaderLen) udpHeaderLen
  let dhcpRepr := s.discover ethernetAddr (.ofNat maxSize) nextTransactionId
  match s.state with
  | .discovering retryAt =>
    if now < retryAt then return (s, none)
    else
      let message := s.message 0 0xffffffff dhcpRepr
      let sent := { s with
        state := .discovering (now.add s.retryConfig.discoverTimeout)
        transactionId := nextTransactionId }
      return (if emit message then sent else s, some message)
  | .requesting state =>
    if now < state.retryAt then return (s, none)
    else if s.retryConfig.requestRetries ≤ state.retry then return (s.reset, none)
    else
      let message := s.message 0 0xffffffff { dhcpRepr with
        messageType := .request
        requestedIp := some state.requestedIp
        serverIdentifier := some state.server.identifier }
      -- Exponential backoff: double every 2 retries.
      let timeout := s.retryConfig.initialRequestTimeout <<< (state.retry / 2).toUInt64
      let sent := { s with
        state := .requesting { state with
          retryAt := now.add timeout
          retry := state.retry + 1 }
        transactionId := nextTransactionId }
      return (if emit message then sent else s, some message)
  | .renewing state =>
    if state.expiresAt ≤ now then return (s.reset, none)
    else if now < state.renewAt ∨ state.rebinding ∧ now < state.rebindAt then return (s, none)
    else
      let state := { state with rebinding := state.rebinding || decide (state.rebindAt ≤ now) }
      -- Renewing is unicast to the original server, rebinding is broadcast.
      let dstAddr := if state.rebinding then 0xffffffff else state.config.server.address
      let message := s.message state.config.address.address dstAddr { dhcpRepr with
        messageType := .request
        clientIp := state.config.address.address }
      let sent := { s with
        state := .renewing (RenewState.sent s.retryConfig now state)
        transactionId := nextTransactionId }
      return (if emit message then sent else { s with state := .renewing state }, some message)

end Socket

end Dhcpv4

end Smoltcp
