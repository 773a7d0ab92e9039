import GvSwitch.Gateway.Binding

/-!
# The DHCPv4 server

Messages are handled one at a time, by the worker that takes frames from the
gateway's queue.  A message is what the DHCP library parsed from the frame; the
reply is what the server asks that library to build.
-/

namespace GvSwitch.Gateway

open Foundation LeaseTable

/-! ## Configuration -/

structure V4Config where
  address : Ip4
  prefixLen : Int
  deriving DecidableEq, Repr

structure DHCP4Config where
  enabled : Bool := false
  poolStart : Addr := .invalid
  poolEnd : Addr := .invalid
  leaseTime : Int := 0
  dns : List Ip4 := []
  deriving DecidableEq, Repr

/-- Durations are in nanoseconds. -/
def defaultLeaseTime : Int := 3600 * 1000000000

structure Dhcp4Server where
  /-- The gateway's IPv4 side, fixed when the gateway is built. -/
  ipv4 : Option V4Config
  cfg : DHCP4Config := {}
  statics : GoMap String StaticBinding := .empty
  leases : LeaseTable := .newLeaseTable

inductive ConfigError where
  | noNetwork
  | poolFamily
  | poolOrder
  | poolOutside
  deriving DecidableEq, Repr

namespace Dhcp4Server

/-- An enabled configuration is checked and completed. -/
def setConfig (server : Dhcp4Server) (cfg : DHCP4Config) :
    Except ConfigError Dhcp4Server :=
  if cfg.enabled then
    match server.ipv4 with
    | none => .error .noNetwork
    | some v4 =>
      let network := Addr.inNetwork (.ip4 v4.address) v4.prefixLen
      if !cfg.poolStart.is4 || !cfg.poolEnd.is4 then .error .poolFamily
      else if cfg.poolEnd.less cfg.poolStart then .error .poolOrder
      else if !network cfg.poolStart || !network cfg.poolEnd then .error .poolOutside
      else .ok { server with cfg := { cfg with
        leaseTime := if cfg.leaseTime ≤ 0 then defaultLeaseTime else cfg.leaseTime
        dns := if cfg.dns.isEmpty then [v4.address] else cfg.dns } }
  else .ok { server with cfg := cfg }

def putStatic (server : Dhcp4Server) (binding : StaticBinding) :
    Except BindingError Dhcp4Server :=
  (insertStatic false server.statics binding).map fun set => { server with statics := set }

def replaceStatics (server : Dhcp4Server) (bindings : List StaticBinding) :
    Except BindingError Dhcp4Server :=
  (buildStaticSet bindings false).map fun set => { server with statics := set }

def deleteStatic (server : Dhcp4Server) (id : String) :
    Except BindingError Dhcp4Server :=
  (removeStatic server.statics id).map fun set => { server with statics := set }

def releaseLease (server : Dhcp4Server) (ip : Addr) : Option Dhcp4Server :=
  let released := server.leases.release ip
  if released.2 then some { server with leases := released.1 } else none

def portDown (server : Dhcp4Server) (portID : String) : Dhcp4Server :=
  { server with leases := server.leases.releaseByPort portID }

def sweep (server : Dhcp4Server) (now : Int) : Dhcp4Server :=
  { server with leases := server.leases.expireSweep now }

end Dhcp4Server

/-! ## Messages -/

inductive Dhcp4Type where
  | discover
  | offer
  | request
  | decline
  | ack
  | nak
  | release
  | other
  deriving DecidableEq, Repr

/-- A parsed message; absent addresses are invalid. -/
structure Dhcp4Request where
  bootRequest : Bool := true
  messageType : Dhcp4Type
  clientHWAddr : Bytes
  clientIdentifier : Bytes := []
  requestedIPAddress : Option Ip4 := none
  clientIPAddr : Ip4 := 0
  broadcast : Bool := false
  deriving DecidableEq, Repr

namespace Dhcp4Request

variable (req : Dhcp4Request)

def mac : String := macString req.clientHWAddr

def clientIDOf : String := hexString req.clientIdentifier

def key : String := clientKey req.mac req.clientIDOf

/-- Option 50. -/
def requested : Addr :=
  match req.requestedIPAddress with
  | none => .invalid
  | some address => .ip4 address

def ciaddr : Addr := .ip4 req.clientIPAddr

/-- The address a REQUEST asks for: option 50 or ciaddr. -/
def want : Addr :=
  if req.requested.isValid && !req.requested.isUnspecified then req.requested
  else if req.ciaddr.isUnspecified then .invalid
  else req.ciaddr

end Dhcp4Request

/-- Options only a promise carries. -/
structure Dhcp4Terms where
  subnetMaskLen : Int
  router : Ip4
  dns : List Ip4
  leaseTime : Int
  renewTime : Int
  rebindingTime : Int
  deriving DecidableEq, Repr

structure Dhcp4Reply where
  messageType : Dhcp4Type
  serverIdentifier : Ip4
  yourIPAddr : Addr
  terms : Option Dhcp4Terms
  /-- `none` is the broadcast address. -/
  dstMAC : Option Bytes
  dstIP : Option Addr
  deriving DecidableEq, Repr

def Dhcp4Reply.isPromise (reply : Dhcp4Reply) : Bool :=
  reply.messageType == .offer || reply.messageType == .ack

/-- What the runtime decides while a message is handled: the clock and the
orders in which the two maps are iterated. -/
structure Env where
  now : Int
  rangeStatics : List String → List String
  rangeLeases : List Addr → List Addr
  statics_perm : ∀ keys, (rangeStatics keys).Perm keys
  leases_perm : ∀ keys, (rangeLeases keys).Perm keys

namespace Dhcp4Server

def draft (env : Env) (portID : String) (cfg : DHCP4Config) (req : Dhcp4Request) :
    Lease where
  ip := .invalid
  mac := req.mac
  clientID := req.clientIDOf
  portID := portID
  expiry := env.now + cfg.leaseTime
  static := false

def bindings (server : Dhcp4Server) (env : Env) : List StaticBinding :=
  (env.rangeStatics server.statics.keys).filterMap server.statics.get?

def grantable (server : Dhcp4Server) (env : Env) (v4 : V4Config) (req : Dhcp4Request)
    (ip : Addr) : Bool :=
  ip.isValid && !server.cfg.poolEnd.less ip && !ip.less server.cfg.poolStart &&
    ip != .ip4 v4.address && !((server.bindings env).any (·.ip == ip)) &&
    !server.leases.inUse env.now ip req.mac req.clientIDOf

/-- Pick and book an address: the static binding, the existing lease, the
requested address, then the pool. -/
def selectIP (server : Dhcp4Server) (env : Env) (portID : String) (v4 : V4Config)
    (req : Dhcp4Request) : Addr × LeaseTable :=
  let staticIP := fun (ip : Addr) => (server.bindings env).any (·.ip == ip)
  let lease := draft env portID server.cfg req
  let book := fun (ip : Addr) (static : Bool) =>
    (ip, server.leases.set { lease with ip := ip, static := static })
  match matchBinding (server.bindings env) portID req.mac req.clientIDOf with
  | some binding =>
    if server.leases.inUse env.now binding.ip req.mac req.clientIDOf then
      (.invalid, server.leases)
    else book binding.ip true
  | none =>
    let pool := fun (_ : Unit) =>
      if server.grantable env v4 req req.requested then book req.requested false
      else
        server.leases.allocate env.now server.cfg.poolStart server.cfg.poolEnd
          (fun ip => ip == .ip4 v4.address || staticIP ip) lease
    match server.leases.byClient env.now
        (env.rangeLeases server.leases.leases.keys) req.mac req.clientIDOf with
    | some current => if staticIP current.ip then pool () else book current.ip false
    | none => pool ()

def transmit (req : Dhcp4Request) (reply : Dhcp4Reply) : Dhcp4Reply :=
  if !req.ciaddr.isUnspecified then
    { reply with dstMAC := some req.clientHWAddr, dstIP := some req.ciaddr }
  else if reply.messageType == .nak || req.broadcast || !reply.yourIPAddr.isValid then
    { reply with dstMAC := none, dstIP := none }
  else { reply with dstMAC := some req.clientHWAddr, dstIP := some reply.yourIPAddr }

def sendReply (cfg : DHCP4Config) (v4 : V4Config) (req : Dhcp4Request)
    (type : Dhcp4Type) (ip : Addr) : Dhcp4Reply :=
  transmit req {
    messageType := type
    serverIdentifier := v4.address
    yourIPAddr := ip
    terms := some {
      subnetMaskLen := v4.prefixLen
      router := v4.address
      dns := cfg.dns
      leaseTime := cfg.leaseTime
      renewTime := cfg.leaseTime / 2
      rebindingTime := cfg.leaseTime * 7 / 8 }
    dstMAC := none
    dstIP := none }

def sendNak (v4 : V4Config) (req : Dhcp4Request) : Dhcp4Reply :=
  transmit req {
    messageType := .nak
    serverIdentifier := v4.address
    yourIPAddr := .invalid
    terms := none
    dstMAC := none
    dstIP := none }

def replyToDiscover (server : Dhcp4Server) (env : Env) (portID : String) (v4 : V4Config)
    (req : Dhcp4Request) : Dhcp4Server × Option Dhcp4Reply :=
  let selected := server.selectIP env portID v4 req
  ({ server with leases := selected.2 },
    if selected.1.isValid then some (sendReply server.cfg v4 req .offer selected.1)
    else none)

def replyToRequest (server : Dhcp4Server) (env : Env) (portID : String) (v4 : V4Config)
    (req : Dhcp4Request) : Dhcp4Server × Option Dhcp4Reply :=
  if !req.want.isValid then (server, some (sendNak v4 req))
  else
    let selected := server.selectIP env portID v4 req
    ({ server with leases := selected.2 },
      if !selected.1.isValid || selected.1 != req.want then some (sendNak v4 req)
      else some (sendReply server.cfg v4 req .ack selected.1))

def declined (env : Env) (cfg : DHCP4Config) (req : Dhcp4Request) : Lease where
  ip := req.requested
  mac := "declined"
  clientID := ""
  portID := ""
  expiry := env.now + cfg.leaseTime
  static := false

/-- One message from the given switchport; `none` is a panic. -/
def handle (server : Dhcp4Server) (env : Env) (portID : String) (req : Dhcp4Request) :
    Option (Dhcp4Server × Option Dhcp4Reply) :=
  if !server.cfg.enabled || !req.bootRequest then some (server, none)
  else
    match req.messageType with
    | .discover => server.ipv4.map fun v4 => server.replyToDiscover env portID v4 req
    | .request => server.ipv4.map fun v4 => server.replyToRequest env portID v4 req
    | .release =>
      some ({ server with leases := (server.leases.release req.ciaddr).1 }, none)
    | .decline =>
      if req.requested.isValid then
        let placeholder := declined env server.cfg req
        some ({ server with leases := server.leases.set placeholder }, none)
      else some (server, none)
    | _ => some (server, none)

def booking (env : Env) (portID : String) (cfg : DHCP4Config) (req : Dhcp4Request)
    (ip : Addr) (static : Bool) : Lease :=
  { draft env portID cfg req with ip := ip, static := static }

theorem isPromise_transmit (req : Dhcp4Request) (reply : Dhcp4Reply) :
    (transmit req reply).isPromise = reply.isPromise ∧
      (transmit req reply).yourIPAddr = reply.yourIPAddr := by
  unfold transmit
  split
  · exact ⟨rfl, rfl⟩
  split
  · exact ⟨rfl, rfl⟩
  · exact ⟨rfl, rfl⟩

end Dhcp4Server

end GvSwitch.Gateway
