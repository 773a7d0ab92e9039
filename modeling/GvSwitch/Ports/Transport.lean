import GvSwitch.Foundation.GoMap
import GvSwitch.Manager.Api

/-!
# Port transports

The objects behind the switchports: a client (one dialled connection or a tap
device), a stream server in one of its three replacing modes, the subports of a
multiplex server, a datagram server, a vhost-user port and an AF_XDP socket.  A
`Pump` moves the frames of one connection; that of a vhost-user port is the
session's device.  The functions here are the sections a transport runs under
its own lock; the calls it makes after unlocking belong to the system.
-/

namespace GvSwitch.Ports

open Foundation SwitchCore Manager

/-- `start` launches the two loops, `stop` closes `done`; each happens once. -/
structure Pump where
  started : Bool := true
  stopped : Bool := false
  deriving DecidableEq, Repr

structure PumpRef where
  handle : Nat
  index : Nat
  deriving DecidableEq, Repr

inductive Kind where
  | client
  | streamServer (mode : ReplacingMode)
  | subPort (server : Nat) (anonID : Option Nat)
  | dgramServer (mode : ReplacingMode)
  | vhostUser (mode : Option ReplacingMode)
  | afxdp
  deriving DecidableEq, Repr

/-- The transports whose accept loop replaces one connection by another. -/
def Kind.listens : Kind → Bool
  | .streamServer _ => true
  | .vhostUser _ => true
  | _ => false

/-- `pump` is the adopted connection and `subs` the subports of a multiplex
server; `peer` is the source a datagram server answers to, and `up` tells
whether a session of a vhost-user port has reported its rings running.  `pumps`
keeps every pump ever made and `wentDown` records that the transport has
reported the loss of its connection; a client's `closed` records that `Close`
was called. -/
structure Transport where
  id : String
  kind : Kind
  attrs : PortAttrs := {}
  pump : Option Nat := none
  pumps : List Pump := []
  subs : GoMap String Nat := .empty
  anonIDs : List Nat := []
  peer : Option String := none
  up : Bool := false
  closed : Bool := false
  wentDown : Bool := false

def Transport.running (port : Transport) (index : Nat) : Bool :=
  match port.pumps[index]? with
  | none => false
  | some pump => !pump.stopped

namespace Transport

def online (port : Transport) : Bool :=
  match port.kind with
  | .streamServer .multiplex => !port.subs.keys.isEmpty
  | .dgramServer _ => port.peer.isSome
  | .vhostUser _ => port.pump.isSome && port.up
  | .afxdp => !port.closed
  | _ => port.pump.isSome

/-- A vhost-user port has its session before it is online. -/
def connected (port : Transport) : Bool :=
  match port.kind with
  | .vhostUser _ => port.pump.isSome
  | _ => port.online

def install (port : Transport) (started : Bool) : Transport :=
  { port with
    pump := some port.pumps.length
    pumps := port.pumps ++ [{ started := started }] }

/-- `stop`: mark the pump; `none` if it was stopped before. -/
def stop (port : Transport) (index : Nat) : Option Transport :=
  match port.pumps[index]? with
  | none => none
  | some pump =>
    if pump.stopped then none
    else some { port with pumps := port.pumps.set index { pump with stopped := true } }

def start (port : Transport) : Transport :=
  match port.pump with
  | none => port
  | some index =>
    match port.pumps[index]? with
    | none => port
    | some pump =>
      { port with pumps := port.pumps.set index { pump with started := true } }

/-! ## The accept loop -/

/-- What the accept loop does after its section under the lock. -/
inductive Accepted where
  | refused
  | adopted
  | kicks (index : Nat)
  deriving DecidableEq, Repr

/-- `adopt`: the first section under the lock. -/
def adopt (port : Transport) (kickOld : Bool) : Transport × Accepted :=
  if port.closed then (port, .refused)
  else
    match port.pump with
    | none => (port.install true, .adopted)
    | some old =>
      if kickOld then ({ port with pump := none }, .kicks old)
      else (port, .refused)

/-- `adopt` after the old connection was kicked. -/
def readopt (port : Transport) : Transport :=
  if port.closed || port.pump.isSome then port else port.install true

/-- The accept loop of a vhost-user port up to `adopt`, which takes the lock
anew and looks at neither `closed` nor the session.  The source accepts one
connection after the other; here they may overlap. -/
def acceptSession (port : Transport) (occupy : Bool) : Transport × Accepted :=
  if port.closed then (port, .refused)
  else
    match port.pump with
    | none => (port, .adopted)
    | some old => if occupy then (port, .refused) else ({ port with pump := none }, .kicks old)

def allocAnon (port : Transport) : Nat :=
  ((List.range (port.anonIDs.length + 1)).find? fun number =>
    !port.anonIDs.contains number).getD port.anonIDs.length

/-- The name `addSub` gives a connection, with the number it allocates. -/
def subName (port : Transport) (peer : String) : String × Option Nat :=
  if peer = "" then
    (port.id ++ "@" ++ ("anonymous-" ++ toString port.allocAnon), some port.allocAnon)
  else (port.id ++ "@" ++ peer, none)

def dropSub (port : Transport) (subID : String) (anonID : Option Nat) : Transport :=
  { port with
    subs := port.subs.erase subID
    anonIDs := match anonID with
      | none => port.anonIDs
      | some number => port.anonIDs.filter (· ≠ number) }

def keepSub (port : Transport) (subID : String) (anonID : Option Nat)
    (sub : Nat) : Transport :=
  { port with
    subs := port.subs.set subID sub
    anonIDs := anonID.toList ++ port.anonIDs }

/-- A datagram arrives: whom the server answers from now on. -/
def hear (port : Transport) (source : String) : Transport :=
  match port.peer with
  | none => { port with peer := some source }
  | some _ =>
    if port.kind = .dgramServer .replace then { port with peer := some source }
    else port

/-! ## Losing and closing a connection -/

/-- The section of `onExit` under the lock; true if the port is now offline and
says so.  A session's `State(false)` does not count the loss of one that was
never up, and an AF_XDP socket whose link is gone closes itself first. -/
def onExit (port : Transport) : Transport × Bool :=
  match port.kind with
  | .client => ({ port with pump := none, wentDown := true }, true)
  | .streamServer _ =>
    match port.pump with
    | none => (port, false)
    | some index =>
      if port.running index then (port, false)
      else ({ port with pump := none, wentDown := true }, true)
  | .vhostUser _ =>
    match port.pump with
    | none => (port, false)
    | some index =>
      if port.running index then (port, false)
      else
        ({ port with pump := none, up := false, wentDown := port.wentDown || port.up },
          port.up)
  | .afxdp => ({ port with closed := true, wentDown := true }, true)
  | .subPort _ _ => (port, false)
  | .dgramServer _ => (port, false)

/-- The section of `Close` under the lock, with the pumps to stop afterwards.
A server that is closed already returns at once; `order` is the order in which
the map of subports is read. -/
def close (port : Transport) (handle : Nat) (order : List String → List String) :
    Transport × List PumpRef :=
  let own := port.pump.toList.map (PumpRef.mk handle)
  match port.kind with
  | .streamServer _ =>
    if port.closed then (port, [])
    else
      ({ port with closed := true, pump := none },
        own ++ (order port.subs.keys).filterMap fun subID =>
          (port.subs.get? subID).map fun sub => ⟨sub, 0⟩)
  | .vhostUser _ =>
    if port.closed then (port, []) else ({ port with closed := true, pump := none }, own)
  | _ => ({ port with closed := true }, own)

end Transport

end GvSwitch.Ports
