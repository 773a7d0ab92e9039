import GvSwitch.SwitchCore.Fdb
import GvSwitch.SwitchCore.Protect
import Mathlib.Logic.Function.Basic

/-!
# Switch state and the port registry

Registry entries live on a heap and are referred to by pointer: the port map,
the forwarding database, the spanning-tree records and the delivery handles
all hold pointers to the same entries.  Every operation is one step.
-/

namespace GvSwitch.SwitchCore

open Foundation

def isMulticast (mac : MAC) : Bool := mac[0] &&& 0x01 != 0

/-- `01:80:C2:00:00:00` to `01:80:C2:00:00:0F`. -/
def isReservedGroupMAC (mac : MAC) : Bool :=
  mac[0] == 0x01 && mac[1] == 0x80 && mac[2] == 0xc2 &&
    mac[3] == 0x00 && mac[4] == 0x00 && mac[5] &&& 0xf0 == 0x00

inductive StpState where
  | forwarding
  | blocking
  | listening
  | learning
  deriving DecidableEq, Repr

structure PortEntry where
  id : String
  port : Port
  attrs : CheckedAttrs
  stats : PortCounters := {}
  gone : Bool := false
  blockReason : Option BlockReason := none
  storm : StormBucket := {}
  stpState : StpState := .forwarding
  portNum : UInt16 := 0

/-! ## Spanning-tree records -/

inductive Role where
  | root
  | designated
  | blocked
  deriving DecidableEq, Repr

structure PriorityVector where
  rootID : UInt64
  cost : UInt32
  bridgeID : UInt64
  portID : UInt16
  deriving DecidableEq, Repr

def PriorityVector.better (first second : PriorityVector) : Bool :=
  if first.rootID ≠ second.rootID then first.rootID < second.rootID
  else if first.cost ≠ second.cost then first.cost < second.cost
  else if first.bridgeID ≠ second.bridgeID then
    first.bridgeID < second.bridgeID
  else first.portID < second.portID

structure StpPort where
  entry : Ptr
  role : Role
  hasInfo : Bool := false
  info : PriorityVector := ⟨0, 0, 0, 0⟩
  infoAge : Int := 0
  stateTimer : Int := 0
  deriving DecidableEq

structure StpConfig where
  enabled : Bool
  priority : UInt16
  helloTime : Int
  maxAge : Int
  forwardDelay : Int
  deriving DecidableEq, Repr

def second : Int := 1000000000

def defaultStpConfig : StpConfig :=
  ⟨false, 32768, 2 * second, 20 * second, 15 * second⟩

/-- `rootPort = ""` when the bridge believes itself root. -/
structure StpBridge where
  cfg : StpConfig
  mac : MAC
  ports : GoMap String StpPort
  rootID : UInt64
  rootCost : UInt32
  rootPort : String
  tcWhile : Int
  tcnPending : Bool
  lastHello : Int

def newSTPBridge (instanceID : UInt64) : StpBridge where
  cfg := defaultStpConfig
  mac := #v[0x02, (instanceID >>> 48).toUInt8, (instanceID >>> 40).toUInt8,
    (instanceID >>> 32).toUInt8, (instanceID >>> 24).toUInt8, instanceID.toUInt8]
  ports := .empty
  rootID := 0
  rootCost := 0
  rootPort := ""
  tcWhile := 0
  tcnPending := false
  lastHello := 0

def StpBridge.bridgeID (bridge : StpBridge) : UInt64 :=
  bridge.cfg.priority.toUInt64 <<< 48 |||
    bridge.mac[0].toUInt64 <<< 40 ||| bridge.mac[1].toUInt64 <<< 32 |||
    bridge.mac[2].toUInt64 <<< 24 ||| bridge.mac[3].toUInt64 <<< 16 |||
    bridge.mac[4].toUInt64 <<< 8 ||| bridge.mac[5].toUInt64

/-! ## The switch -/

/-- `deferred` counts the resynchronisations scheduled and not yet run. -/
structure Switch where
  heap : Ptr → PortEntry
  next : Ptr
  ports : GoMap String Ptr
  fdb : Fdb
  instanceID : UInt64
  portNumSeq : UInt16
  stp : StpBridge
  deferred : Nat

structure SendCall where
  port : Port
  srcPortID : String
  frame : Bytes
  deriving DecidableEq, Repr

/-- What the runtime decides during one call: the clock, which frames a
transport accepts, and the order in which a map is iterated. -/
structure Env where
  now : Int
  accept : Port → Bytes → Bool
  range : List String → List String
  range_perm : ∀ keys, (range keys).Perm keys

theorem Env.mem_range (env : Env) (keys : List String) (key : String) :
    key ∈ env.range keys ↔ key ∈ keys :=
  (env.range_perm keys).mem_iff

def defaultFDBMaxAge : Int := 300 * second

def nullEntry : PortEntry :=
  ⟨"", ⟨"", 0⟩, ⟨{}, by decide, by decide, by simp⟩, {}, true, none, {}, .forwarding, 0⟩

def newSwitch (instanceID : UInt64) : Switch where
  heap := fun _ => nullEntry
  next := 0
  ports := .empty
  fdb := ⟨.empty, defaultFDBMaxAge⟩
  instanceID := instanceID
  portNumSeq := 0
  stp := newSTPBridge instanceID
  deferred := 0

namespace Switch

def entry (sw : Switch) (ptr : Ptr) : PortEntry := sw.heap ptr

def modify (sw : Switch) (ptr : Ptr) (f : PortEntry → PortEntry) : Switch :=
  { sw with heap := Function.update sw.heap ptr (f (sw.heap ptr)) }

inductive PortError where
  | badAttrs (reason : AttrsError)
  | emptyIdentifier
  | alreadyExists (id : String)
  | notFound (id : String)
  deriving DecidableEq, Repr

/-- Allocate an entry for a new port and schedule a resynchronisation. -/
def register (sw : Switch) (port : Port) (attrs : CheckedAttrs) : Switch :=
  let number := sw.portNumSeq + 1
  { sw with
    heap := Function.update sw.heap sw.next
      { id := port.id, port := port, attrs := attrs, portNum := number }
    next := sw.next + 1
    ports := sw.ports.set port.id sw.next
    portNumSeq := number
    deferred := sw.deferred + 1 }

def addPort (sw : Switch) (port : Port) (attrs : PortAttrs) :
    Except PortError Switch :=
  match attrs.check with
  | .error reason => .error (.badAttrs reason)
  | .ok checked =>
    if port.id = "" then .error .emptyIdentifier
    else
      match sw.ports.get? port.id with
      | some _ => .error (.alreadyExists port.id)
      | none => .ok (sw.register port checked)

def flushPort (sw : Switch) (id : String) : Switch :=
  { sw with fdb := sw.fdb.flushPort id }

def portDown (sw : Switch) (id : String) : Switch := sw.flushPort id

def unregister (sw : Switch) (id : String) (ptr : Ptr) : Switch :=
  { sw with ports := sw.ports.erase id }.modify ptr
    fun entry => { entry with gone := true }

def removePort (sw : Switch) (id : String) : Switch :=
  match sw.ports.get? id with
  | none => sw
  | some ptr => (sw.unregister id ptr).portDown id

def notifyDown (sw : Switch) (id : String) : Switch := sw.portDown id

/-- The locked part of `UpdatePortAttrs`; a manual re-enable clears guard and
loop blocks. -/
def writeAttrs (sw : Switch) (ptr : Ptr) (attrs : CheckedAttrs) : Switch :=
  let updated := sw.modify ptr fun entry =>
    { entry with
      attrs := attrs
      blockReason := if entry.attrs.disabled && !attrs.disabled then none
        else entry.blockReason }
  { updated with deferred := updated.deferred + 1 }

def updatePortAttrs (sw : Switch) (id : String) (attrs : PortAttrs) :
    Except PortError Switch :=
  match attrs.check with
  | .error reason => .error (.badAttrs reason)
  | .ok checked =>
    match sw.ports.get? id with
    | none => .error (.notFound id)
    | some ptr =>
      if (sw.entry ptr).attrs.vlan ≠ attrs.vlan then
        .ok ((sw.writeAttrs ptr checked).flushPort id)
      else .ok (sw.writeAttrs ptr checked)

/-- The locked part of `blockPort`: the first reason stays. -/
def shutPort (sw : Switch) (ptr : Ptr) (reason : BlockReason) : Switch :=
  if (sw.entry ptr).attrs.disabled then sw
  else sw.modify ptr fun entry =>
    { entry with attrs := entry.attrs.disable, blockReason := some reason }

def blockPort (sw : Switch) (ptr : Ptr) (reason : BlockReason) : Switch :=
  (sw.shutPort ptr reason).flushPort (sw.entry ptr).id

/-! ## Administration of the forwarding database -/

inductive StaticError where
  | badVLAN (vlan : Int)
  | noPort
  | badMAC
  | notUnicast
  | table (reason : FdbError)
  deriving DecidableEq, Repr

def macKey (mac : Bytes) : Except StaticError MAC :=
  if mac.length ≠ 6 then .error .badMAC else .ok (macAt mac 0)

def addStaticFDB (sw : Switch) (now : Int) (vlan : Int) (mac : Bytes)
    (portID : String) : Except StaticError Switch :=
  if vlan < 0 ∨ vlan > 4094 then .error (.badVLAN vlan)
  else if portID = "" then .error .noPort
  else
    match macKey mac with
    | .error reason => .error reason
    | .ok key =>
      if isMulticast key then .error .notUnicast
      else .ok { sw with
        fdb := sw.fdb.addStatic now (int32 vlan) key portID }

def removeStaticFDB (sw : Switch) (vlan : Int) (mac : Bytes) :
    Except StaticError Switch :=
  match macKey mac with
  | .error reason => .error reason
  | .ok key =>
    match sw.fdb.removeStatic (int32 vlan) key with
    | .error reason => .error (.table reason)
    | .ok fdb => .ok { sw with fdb := fdb }

def deleteFDBEntry (sw : Switch) (vlan : Int) (mac : Bytes) :
    Except StaticError Switch :=
  match macKey mac with
  | .error reason => .error reason
  | .ok key =>
    match sw.fdb.removeDynamic (int32 vlan) key with
    | .error reason => .error (.table reason)
    | .ok fdb => .ok { sw with fdb := fdb }

def flushFDB (sw : Switch) (portID : String) (vlan : Option Int) :
    Switch × Nat :=
  let flushed := sw.fdb.flush portID (vlan.map int32)
  ({ sw with fdb := flushed.1 }, flushed.2)

def setFDBMaxAge (sw : Switch) (maxAge : Int) : Option Switch :=
  if maxAge ≤ 0 then none
  else some { sw with fdb := sw.fdb.setMaxAge maxAge }

def expire (sw : Switch) (now : Int) : Switch :=
  { sw with fdb := sw.fdb.expire now }

/-! ## Reading back a write -/

variable (sw : Switch) (ptr : Ptr) (f : PortEntry → PortEntry)

@[simp] theorem entry_modify_self : (sw.modify ptr f).entry ptr = f (sw.entry ptr) := by
  simp [modify, entry]

theorem entry_modify_of_ne {ptr other : Ptr} (h : other ≠ ptr) :
    (sw.modify ptr f).entry other = sw.entry other := by
  simp [modify, entry, Function.update_of_ne h]

@[simp] theorem modify_next : (sw.modify ptr f).next = sw.next := rfl

@[simp] theorem modify_ports : (sw.modify ptr f).ports = sw.ports := rfl

@[simp] theorem modify_fdb : (sw.modify ptr f).fdb = sw.fdb := rfl

@[simp] theorem modify_stp : (sw.modify ptr f).stp = sw.stp := rfl

@[simp] theorem modify_instanceID : (sw.modify ptr f).instanceID = sw.instanceID := rfl

theorem entry_modify_field {α : Type} (field : PortEntry → α) (sw : Switch)
    (ptr other : Ptr) (f : PortEntry → PortEntry)
    (hkeep : ∀ entry, field (f entry) = field entry) :
    field ((sw.modify ptr f).entry other) = field (sw.entry other) := by
  by_cases h : other = ptr
  · subst other
    rw [entry_modify_self, hkeep]
  · rw [entry_modify_of_ne _ _ h]

end Switch

end GvSwitch.SwitchCore
