import GvSwitch.Gateway.Dhcp4

/-!
# The DHCPv6 server

Stateful assignment of single addresses (IA_NA).  A client is known by the
source hardware address of its frame and by its DUID.  The server shares the
bindings and the lease table of the DHCPv4 server but not its messages.
-/

namespace GvSwitch.Gateway

open Foundation

/-! ## Configuration -/

structure V6Config where
  address : Ip6
  prefixLen : Int
  deriving DecidableEq, Repr

structure DHCP6Config where
  enabled : Bool := false
  poolStart : Addr := .invalid
  poolEnd : Addr := .invalid
  leaseTime : Int := 0
  dns : List Ip6 := []
  deriving DecidableEq, Repr

structure Dhcp6Server where
  /-- The gateway's IPv6 side, fixed when the gateway is built. -/
  ipv6 : Option V6Config
  mac : Bytes := []
  cfg : DHCP6Config := {}
  statics : GoMap String StaticBinding := .empty
  leases : LeaseTable := .newLeaseTable

namespace Dhcp6Server

def setConfig (server : Dhcp6Server) (cfg : DHCP6Config) :
    Except ConfigError Dhcp6Server :=
  if cfg.enabled then
    match server.ipv6 with
    | none => .error .noNetwork
    | some v6 =>
      let network := Addr.inNetwork (.ip6 v6.address) v6.prefixLen
      if !is6Only cfg.poolStart || !is6Only cfg.poolEnd then .error .poolFamily
      else if cfg.poolEnd.less cfg.poolStart then .error .poolOrder
      else if !network cfg.poolStart || !network cfg.poolEnd then .error .poolOutside
      else .ok { server with cfg := { cfg with
        leaseTime := if cfg.leaseTime ≤ 0 then defaultLeaseTime else cfg.leaseTime
        dns := if cfg.dns.isEmpty then [v6.address] else cfg.dns } }
  else .ok { server with cfg := cfg }

def putStatic (server : Dhcp6Server) (binding : StaticBinding) :
    Except BindingError Dhcp6Server :=
  (insertStatic true server.statics binding).map fun set => { server with statics := set }

def replaceStatics (server : Dhcp6Server) (bindings : List StaticBinding) :
    Except BindingError Dhcp6Server :=
  (buildStaticSet bindings true).map fun set => { server with statics := set }

def deleteStatic (server : Dhcp6Server) (id : String) :
    Except BindingError Dhcp6Server :=
  (removeStatic server.statics id).map fun set => { server with statics := set }

def releaseLease (server : Dhcp6Server) (ip : Addr) : Option Dhcp6Server :=
  let released := server.leases.release ip
  if released.2 then some { server with leases := released.1 } else none

def portDown (server : Dhcp6Server) (portID : String) : Dhcp6Server :=
  { server with leases := server.leases.releaseByPort portID }

def sweep (server : Dhcp6Server) (now : Int) : Dhcp6Server :=
  { server with leases := server.leases.expireSweep now }

end Dhcp6Server

/-! ## Messages -/

inductive Dhcp6Type where
  | solicit
  | advertise
  | request
  | renew
  | rebind
  | reply
  | release
  | informationRequest
  | other
  deriving DecidableEq, Repr

/-- A parsed message and where its frame came from; relayed messages are not
parsed. -/
structure Dhcp6Message where
  messageType : Dhcp6Type
  srcMAC : Bytes
  srcIP : Addr
  /-- The client's DUID. -/
  clientID : Option Bytes
  /-- The IAID of the first IA_NA option. -/
  iana : Option UInt32 := none
  deriving DecidableEq, Repr

def Dhcp6Message.mac (msg : Dhcp6Message) : String := macString msg.srcMAC

def Dhcp6Message.key? (msg : Dhcp6Message) : Option String :=
  msg.clientID.map fun duid => clientKey msg.mac (hexString duid)

structure OptIAAddress where
  iaId : UInt32
  ipv6Addr : Addr
  preferredLifetime : Int
  validLifetime : Int
  deriving DecidableEq, Repr

structure Dhcp6Reply where
  messageType : Dhcp6Type
  /-- The hardware address in the server's DUID. -/
  serverID : Bytes
  dns : List Ip6
  iana : Option OptIAAddress
  dstMAC : Bytes
  dstIP : Addr
  deriving DecidableEq, Repr

def Dhcp6Reply.carried (reply : Dhcp6Reply) : Option Addr := reply.iana.map (·.ipv6Addr)

namespace Dhcp6Server

def draft (env : Env) (portID : String) (cfg : DHCP6Config) (mac duidHex : String) :
    Lease where
  ip := .invalid
  mac := mac
  clientID := duidHex
  portID := portID
  expiry := env.now + cfg.leaseTime
  static := false

def bindings (server : Dhcp6Server) (env : Env) : List StaticBinding :=
  (env.rangeStatics server.statics.keys).filterMap server.statics.get?

def current (server : Dhcp6Server) (env : Env) (mac duidHex : String) : Option Lease :=
  server.leases.byClient env.now (env.rangeLeases server.leases.leases.keys) mac duidHex

/-- Pick and book an address: the static binding, the existing lease, then the
pool. -/
def selectIP6 (server : Dhcp6Server) (env : Env) (portID : String) (v6 : V6Config)
    (srcMAC : Bytes) (duidHex : String) : Addr × LeaseTable :=
  let mac := macString srcMAC
  let staticIP := fun (ip : Addr) => (server.bindings env).any (·.ip == ip)
  let lease := draft env portID server.cfg mac duidHex
  let book := fun (ip : Addr) (static : Bool) =>
    (ip, server.leases.set { lease with ip := ip, static := static })
  match matchBinding (server.bindings env) portID mac duidHex with
  | some binding =>
    if server.leases.inUse env.now binding.ip mac duidHex then (.invalid, server.leases)
    else book binding.ip true
  | none =>
    let pool := fun (_ : Unit) =>
      server.leases.allocate env.now server.cfg.poolStart server.cfg.poolEnd
        (fun ip => ip == .ip6 v6.address || staticIP ip) lease
    match server.current env mac duidHex with
    | some current => if staticIP current.ip then pool () else book current.ip false
    | none => pool ()

def transmit (server : Dhcp6Server) (msg : Dhcp6Message) (type : Dhcp6Type)
    (dns : List Ip6) (iana : Option OptIAAddress) : Dhcp6Reply where
  messageType := type
  serverID := server.mac
  dns := dns
  iana := iana
  dstMAC := msg.srcMAC
  dstIP := msg.srcIP

/-- Answers SOLICIT, or REQUEST, RENEW and REBIND.  The lease is booked even if
the message has no IA_NA option to answer. -/
def replyAddress (server : Dhcp6Server) (env : Env) (portID : String) (v6 : V6Config)
    (msg : Dhcp6Message) (duid : Bytes) (advertise : Bool) :
    Dhcp6Server × Option Dhcp6Reply :=
  let selected := server.selectIP6 env portID v6 msg.srcMAC (hexString duid)
  let iana := msg.iana.map fun iaId =>
    ⟨iaId, selected.1.withoutZone, server.cfg.leaseTime / 2, server.cfg.leaseTime⟩
  ({ server with leases := selected.2 },
    if selected.1.isValid then
      some (server.transmit msg (if advertise then .advertise else .reply)
        server.cfg.dns iana)
    else none)

def replyStatus (server : Dhcp6Server) (msg : Dhcp6Message) : Dhcp6Reply :=
  server.transmit msg .reply [] none

def replyInformation (server : Dhcp6Server) (msg : Dhcp6Message) : Dhcp6Reply :=
  server.transmit msg .reply server.cfg.dns none

/-- RELEASE gives up the client's own lease, whatever address it names. -/
def releaseCurrent (server : Dhcp6Server) (env : Env) (mac duidHex : String) :
    Dhcp6Server :=
  match server.current env mac duidHex with
  | none => server
  | some lease => { server with leases := (server.leases.release lease.ip).1 }

def handle (server : Dhcp6Server) (env : Env) (portID : String) (msg : Dhcp6Message) :
    Option (Dhcp6Server × Option Dhcp6Reply) :=
  if !server.cfg.enabled then some (server, none)
  else
    match msg.clientID with
    | none => some (server, none)
    | some duid =>
      match msg.messageType with
      | .solicit =>
        server.ipv6.map fun v6 => server.replyAddress env portID v6 msg duid true
      | .request | .renew | .rebind =>
        server.ipv6.map fun v6 => server.replyAddress env portID v6 msg duid false
      | .release =>
        some (server.releaseCurrent env msg.mac (hexString duid),
          some (server.replyStatus msg))
      | .informationRequest => some (server, some (server.replyInformation msg))
      | _ => some (server, none)

end Dhcp6Server

end GvSwitch.Gateway
