import GvSwitch.SwitchCore.Run
import GvSwitch.Ports.Transport

/-!
# The manager, its ports and their goroutines

The manager's port table, the switch and the transports are shared by API calls
and by goroutines.  A `Task` is one of them, stopped before its next section
under a lock; running it executes that section and leaves the tasks that
follow.  Tasks run in any order, so a run of the system is one interleaving.
API calls and events on connections are tasks that may begin at any time.

A task about a port carries the transport that caused it.  The source passes
only the identifier on, so no section reads this handle.
-/

namespace GvSwitch.Manager

open Foundation SwitchCore Ports

/-- `portRecord`; `port` is the handle of the transport. -/
structure PortRecord where
  req : PortRequest
  port : Nat
  deriving DecidableEq, Repr

/-- Omitted means true. -/
def PortRecord.autoRemove (record : PortRecord) : Bool :=
  record.req.autoRemove.getD true

/-- What a goroutine does once the pumps it stops have stopped. -/
inductive Continuation where
  | return
  | portDown (id : String) (source : Nat)
  | readopt (handle : Nat)
  deriving DecidableEq, Repr

structure PatchCall where
  id : String
  patch : PortPatch
  deriving DecidableEq, Repr

inductive Task where
  /-- `CreatePort`: validate the request and look for a duplicate. -/
  | createPort (req : PortRequest)
  /-- `CreatePort`: build the transport. -/
  | build (req : PortRequest)
  /-- `CreatePort`: `AddPort`. -/
  | register (req : PortRequest) (handle : Nat)
  /-- `CreatePort`: `port.Close()` after `AddPort` failed. -/
  | discard (handle : Nat)
  /-- `CreatePort`: store the record. -/
  | store (req : PortRequest) (handle : Nat)
  /-- `DeletePort`; `cause` is the transport whose loss started it, if any. -/
  | delete (id : String) (cause : Option Nat)
  /-- `RemovePort`: take the port out of the map. -/
  | remove (id : String)
  /-- `RemovePort`: `port.Close()`. -/
  | close (id : String) (handle : Nat)
  /-- `stop` on each of these pumps. -/
  | halt (pumps : List PumpRef) (next : Continuation)
  /-- `portDown`: flush the forwarding database. -/
  | down (id : String) (source : Nat)
  /-- The manager's hook: look the port up. -/
  | hook (id : String) (source : Nat)
  /-- The hook: each gateway drops the leases of the port. -/
  | release (id : String) (source : Nat) (record : Option PortRecord)
  /-- The hook: start `DeletePort` if the port found is offline. -/
  | check (id : String) (source : Nat) (handle : Nat)
  /-- A pump's `onExit`. -/
  | exit (handle : Nat)
  /-- `adopt` after the old connection was kicked. -/
  | readopt (handle : Nat)
  /-- `addSub`: `AddPort` for the subport. -/
  | enrol (server : Nat) (sub : Nat) (attrs : PortAttrs)
  /-- `addSub`: forget the subport after `AddPort` failed. -/
  | forget (server : Nat) (sub : Nat)
  /-- `adopt` of a vhost-user port: install the session. -/
  | adopt (handle : Nat)
  /-- A connection or a datagram reaches a listening transport. -/
  | connect (handle : Nat) (peer : String)
  /-- The connection of a pump fails, or the link of an AF_XDP socket is gone. -/
  | disconnect (pump : PumpRef)
  /-- `State(true)` of a vhost-user session. -/
  | ready (session : PumpRef)
  /-- `PatchPort`: look the port up. -/
  | patchPort (id : String) (patch : PortPatch)
  /-- `PatchPort`: read the attributes and merge the patch. -/
  | patchRead (id : String) (record : PortRecord) (patch : PortPatch)
  /-- `PatchPort`: `UpdatePortAttrs`. -/
  | patchWrite (call : PatchCall) (record : PortRecord) (attrs : PortAttrs)
  /-- `UpdateSubAttrs`: store the attributes and list the subports. -/
  | patchSubs (call : PatchCall) (handle : Nat) (attrs : PortAttrs)
  /-- `UpdateSubAttrs`: `UpdatePortAttrs` on each subport. -/
  | patchEach (call : PatchCall) (ids : List String) (attrs : PortAttrs)
  deriving DecidableEq, Repr

/-- The shared state; handles from `next` on are not allocated. -/
structure Core where
  sw : Switch
  ports : GoMap String PortRecord
  transports : Nat → Transport
  next : Nat

namespace Core

def port (core : Core) (handle : Nat) : Transport := core.transports handle

def write (core : Core) (handle : Nat) (transport : Transport) : Core :=
  { core with transports := Function.update core.transports handle transport }

def alloc (core : Core) (transport : Transport) : Core :=
  { core with
    transports := Function.update core.transports core.next transport
    next := core.next + 1 }

/-! ## Creating a port -/

/-- The transport a constructor returns; a multiplex datagram or vhost-user
server is refused, and what dials comes with its connection. -/
def transportFor (req : PortRequest) (attrs : PortAttrs) : Option Transport :=
  match req.endpoint with
  | .client => some (Transport.install { id := req.identifier, kind := .client } true)
  | .streamServer mode =>
    some { id := req.identifier, kind := .streamServer mode, attrs := attrs }
  | .dgramServer .multiplex => none
  | .dgramServer mode => some { id := req.identifier, kind := .dgramServer mode }
  | .vhostUser none =>
    some (Transport.install { id := req.identifier, kind := .vhostUser none } true)
  | .vhostUser (some .multiplex) => none
  | .vhostUser mode => some { id := req.identifier, kind := .vhostUser mode }
  | .afxdp => some { id := req.identifier, kind := .afxdp }

def createPort (core : Core) (req : PortRequest) : Core × List Task :=
  match validateIdentifier req.identifier, req.attrs, core.ports.get? req.identifier with
  | true, .ok _, none => (core, [.build req])
  | _, _, _ => (core, [])

/-- `ok` tells whether dialling or listening succeeded. -/
def build (core : Core) (req : PortRequest) (ok : Bool) : Core × List Task :=
  match req.attrs with
  | .error _ => (core, [])
  | .ok attrs =>
    match transportFor req attrs with
    | none => (core, [])
    | some transport =>
      if ok then (core.alloc transport, [.register req core.next]) else (core, [])

def register (core : Core) (req : PortRequest) (handle : Nat) : Core × List Task :=
  match req.attrs with
  | .error _ => (core, [])
  | .ok attrs =>
    match core.sw.addPort ⟨req.identifier, handle⟩ attrs with
    | .error _ => (core, [.discard handle])
    | .ok sw => ({ core with sw := sw }, [.store req handle])

/-! ## Deleting a port -/

def delete (core : Core) (id : String) : Core × List Task :=
  match core.ports.get? id with
  | none => (core, [])
  | some _ => ({ core with ports := core.ports.erase id }, [.remove id])

def remove (core : Core) (id : String) : Core × List Task :=
  match core.sw.ports.get? id with
  | none => (core, [])
  | some ptr =>
    ({ core with sw := core.sw.unregister id ptr },
      [.close id (core.sw.entry ptr).port.handle])

def close (core : Core) (env : Env) (handle : Nat) (next : Continuation) :
    Core × List Task :=
  let closed := (core.port handle).close handle env.range
  (core.write handle closed.1, [.halt closed.2 next])

def halt (core : Core) : List PumpRef → Continuation → Core × List Task
  | [], .return => (core, [])
  | [], .portDown id source => (core, [.down id source])
  | [], .readopt handle => (core, [.readopt handle])
  | pump :: rest, next =>
    match (core.port pump.handle).stop pump.index with
    | none => (core, [.halt rest next])
    | some port => (core.write pump.handle port, [.exit pump.handle, .halt rest next])

/-! ## The down hook -/

def hook (core : Core) (id : String) (source : Nat) : Core × List Task :=
  (core, [.release id source (core.ports.get? id)])

def release (core : Core) (id : String) (source : Nat) (record : Option PortRecord) :
    Core × List Task :=
  match record with
  | none => (core, [])
  | some found => (core, if found.autoRemove then [.check id source found.port] else [])

def check (core : Core) (id : String) (source handle : Nat) : Core × List Task :=
  (core, if (core.port handle).online then [] else [.delete id (some source)])

/-! ## Connections -/

def exit (core : Core) (handle : Nat) : Core × List Task :=
  let port := core.port handle
  match port.kind with
  | .subPort server anonID =>
    (core.write server ((core.port server).dropSub port.id anonID), [.remove port.id])
  | _ =>
    let exited := port.onExit
    (core.write handle exited.1, if exited.2 then [.down port.id handle] else [])

def addSub (core : Core) (server : Nat) (peer : String) : Core × List Task :=
  let port := core.port server
  let name := port.subName peer
  if port.closed then (core, [])
  else
    match port.subs.get? name.1 with
    | some _ => (core, [])
    | none =>
      let sub : Transport := { id := name.1, kind := .subPort server name.2 }
      ((core.write server (port.keepSub name.1 name.2 core.next)).alloc
          (sub.install false),
        [.enrol server core.next port.attrs])

def enrol (core : Core) (server sub : Nat) (attrs : PortAttrs) : Core × List Task :=
  match core.sw.addPort ⟨(core.port sub).id, sub⟩ attrs with
  | .error _ => (core, [.forget server sub])
  | .ok sw =>
    (({ core with sw := sw } : Core).write sub (core.port sub).start, [])

def forget (core : Core) (server sub : Nat) : Core × List Task :=
  match (core.port sub).kind with
  | .subPort _ anonID =>
    (core.write server ((core.port server).dropSub (core.port sub).id anonID), [])
  | _ => (core, [])

def connect (core : Core) (handle : Nat) (peer : String) : Core × List Task :=
  let port := core.port handle
  match port.kind with
  | .streamServer .multiplex => core.addSub handle peer
  | .streamServer mode =>
    let accepted := port.adopt (mode == .replace)
    (core.write handle accepted.1,
      match accepted.2 with
      | .kicks index => [.halt [⟨handle, index⟩] (.readopt handle)]
      | _ => [])
  | .dgramServer _ => if port.closed then (core, []) else (core.write handle (port.hear peer), [])
  | .vhostUser (some mode) =>
    let accepted := port.acceptSession (mode == .occupy)
    (core.write handle accepted.1,
      match accepted.2 with
      | .refused => []
      | .adopted => [.adopt handle]
      | .kicks index => [.halt [⟨handle, index⟩] (.readopt handle)])
  | _ => (core, [])

def reaccept (core : Core) (handle : Nat) : Core × List Task :=
  let port := core.port handle
  match port.kind with
  | .vhostUser _ => (core, if port.closed || port.pump.isSome then [] else [.adopt handle])
  | _ => (core.write handle port.readopt, [])

def adoptSession (core : Core) (handle : Nat) : Core × List Task :=
  match (core.port handle).kind with
  | .vhostUser _ => (core.write handle ((core.port handle).install true), [])
  | _ => (core, [])

/-- The callback of a session the port no longer holds does nothing. -/
def ready (core : Core) (session : PumpRef) : Core × List Task :=
  let port := core.port session.handle
  match port.kind with
  | .vhostUser _ =>
    if port.pump = some session.index then
      (core.write session.handle { port with up := true }, [])
    else (core, [])
  | _ => (core, [])

/-- Both the link watcher and the receive loop of an AF_XDP socket may see the
link go. -/
def disconnect (core : Core) (pump : PumpRef) : Core × List Task :=
  let port := core.port pump.handle
  if port.kind = .afxdp then (core, if port.closed then [] else [.exit pump.handle])
  else
    match port.pumps[pump.index]? with
    | none => (core, [])
    | some state =>
      if state.started then
        match port.stop pump.index with
        | none => (core, [])
        | some stopped => (core.write pump.handle stopped, [.exit pump.handle])
      else (core, [])

/-! ## Patching a port -/

def patchPort (core : Core) (id : String) (patch : PortPatch) : Core × List Task :=
  match core.ports.get? id with
  | none => (core, [])
  | some record => (core, [.patchRead id record patch])

def patchRead (core : Core) (id : String) (record : PortRecord) (patch : PortPatch) :
    Core × List Task :=
  match core.sw.ports.get? id with
  | none => (core, [])
  | some ptr =>
    match patch.apply (core.sw.entry ptr).attrs.toPortAttrs with
    | .error _ => (core, [])
    | .ok attrs => (core, [.patchWrite ⟨id, patch⟩ record attrs])

/-- Only stream servers have subports to update. -/
def patchWrite (core : Core) (call : PatchCall) (record : PortRecord) (attrs : PortAttrs) :
    Core × List Task :=
  match core.sw.updatePortAttrs call.id attrs with
  | .error _ => (core, [])
  | .ok sw =>
    ({ core with sw := sw },
      match (core.port record.port).kind with
      | .streamServer _ => [.patchSubs call record.port attrs]
      | _ => [])

def patchSubs (core : Core) (env : Env) (call : PatchCall) (handle : Nat)
    (attrs : PortAttrs) : Core × List Task :=
  let port := core.port handle
  (core.write handle { port with attrs := attrs },
    [.patchEach call (env.range port.subs.keys) attrs])

def patchEach (core : Core) (call : PatchCall) (attrs : PortAttrs) :
    List String → Core × List Task
  | [] => (core, [])
  | id :: rest =>
    ({ core with sw := core.sw.settle (core.sw.updatePortAttrs id attrs) },
      [.patchEach call rest attrs])

/-! ## Running a task -/

def exec (core : Core) (env : Env) (ok : Bool) : Task → Core × List Task
  | .createPort req => core.createPort req
  | .build req => core.build req ok
  | .register req handle => core.register req handle
  | .discard handle => core.close env handle .return
  | .store req handle =>
    ({ core with ports := core.ports.set req.identifier ⟨req, handle⟩ }, [])
  | .delete id _ => core.delete id
  | .remove id => core.remove id
  | .close id handle => core.close env handle (.portDown id handle)
  | .halt pumps next => core.halt pumps next
  | .down id source =>
    ({ core with sw := core.sw.portDown id }, [.hook id source])
  | .hook id source => core.hook id source
  | .release id source record => core.release id source record
  | .check id source handle => core.check id source handle
  | .exit handle => core.exit handle
  | .readopt handle => core.reaccept handle
  | .enrol server sub attrs => core.enrol server sub attrs
  | .forget server sub => core.forget server sub
  | .adopt handle => core.adoptSession handle
  | .connect handle peer => core.connect handle peer
  | .disconnect pump => core.disconnect pump
  | .ready session => core.ready session
  | .patchPort id patch => core.patchPort id patch
  | .patchRead id record patch => core.patchRead id record patch
  | .patchWrite call record attrs => core.patchWrite call record attrs
  | .patchSubs call handle attrs => core.patchSubs env call handle attrs
  | .patchEach call ids attrs => core.patchEach call attrs ids

end Core

/-! ## The system -/

def Task.external : Task → Bool
  | .createPort _ => true
  | .delete _ none => true
  | .patchPort _ _ => true
  | .connect _ _ => true
  | .disconnect _ => true
  | .ready _ => true
  | _ => false

structure System where
  core : Core
  tasks : List Task

/-- Traffic is an operation of the switch that registers nothing and sets no
attributes; those come from tasks only. -/
inductive Label where
  | begin (task : Task)
  | run (index : Nat) (ok : Bool)
  | traffic (op : Op)

namespace System

def new (instanceID : UInt64) : System where
  core :=
    { sw := newSwitch instanceID
      ports := .empty
      transports := fun _ => { id := "", kind := .client, closed := true }
      next := 0 }
  tasks := []

def exec (env : Env) (ok : Bool) (core : Core) (others : List Task) (task : Task) :
    System :=
  let result := core.exec env ok task
  ⟨result.1, others ++ result.2⟩

def step (env : Env) (system : System) : Label → System
  | .begin task =>
    if task.external then exec env true system.core system.tasks task else system
  | .run index ok =>
    match system.tasks[index]? with
    | none => system
    | some task => exec env ok system.core (system.tasks.eraseIdx index) task
  | .traffic op =>
    if op.isTraffic then
      ⟨{ system.core with sw := (system.core.sw.apply env op).1 }, system.tasks⟩
    else system

def Initial (system : System) : Prop := ∃ instanceID, system = new instanceID

def Step (system : System) (label : Env × Label) (after : System) : Prop :=
  system.step label.1 label.2 = after

theorem invariant {ok : System → Env × Label → Prop} {motive : System → Prop}
    (start : ∀ instanceID, motive (new instanceID))
    (step : ∀ {system : System}, motive system → ∀ {env : Env} {label : Label},
      ok system (env, label) → motive (system.step env label))
    {system : System} (h : Reachable Initial (Guarded ok Step) system) : motive system := by
  refine Reachable.induct ?_ ?_ h
  · rintro _ ⟨instanceID, rfl⟩
    exact start instanceID
  · rintro state ⟨env, label⟩ _ - hst ⟨hok, rfl⟩
    exact step hst hok

def run (env : Env) (system : System) (labels : List Label) : System :=
  labels.foldl (fun system label => system.step env label) system

theorem reachable_run {init : System → Prop} {system : System}
    (h : Reachable init Step system) (env : Env) (labels : List Label) :
    Reachable init Step (system.run env labels) := by
  induction labels generalizing system with
  | nil => exact h
  | cons label rest ih => exact ih (.next h (show Step system (env, label) _ from rfl))

theorem reachable_run_guarded {init : System → Prop} {guard : System → Env × Label → Prop}
    {system : System} (h : Reachable init (Guarded guard Step) system) {env : Env}
    {labels : List Label}
    (halong : Along (step env) (fun state label => guard state (env, label)) system labels) :
    Reachable init (Guarded guard Step) (system.run env labels) :=
  Reachable.along (Prod.mk env) (fun _ _ hok => ⟨hok, rfl⟩) h halong

end System

end GvSwitch.Manager
