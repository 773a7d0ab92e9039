import GvSwitch.SwitchCore.Run

/-!
# The reference switch

The switch as it would be without pointers: the port map holds the entries
themselves, the forwarding database holds identifiers only, and every frame
resolves its source and its destination in the port map.  It has no spanning
tree, so it describes the switch while that protocol is off.
-/

namespace GvSwitch.SwitchCore

open Foundation

structure Reference where
  ports : GoMap String PortEntry
  fdb : Fdb
  instanceID : UInt64
  portNumSeq : UInt16

namespace Reference

def new (instanceID : UInt64) : Reference :=
  ⟨.empty, ⟨.empty, defaultFDBMaxAge⟩, instanceID, 0⟩

def modify (reference : Reference) (id : String) (f : PortEntry → PortEntry) :
    Reference :=
  { reference with ports := reference.ports.mapValues fun name entry =>
      if name = id then f entry else entry }

/-! ## Administration -/

def addPort (reference : Reference) (port : Port) (attrs : PortAttrs) : Reference :=
  match attrs.check with
  | .error _ => reference
  | .ok checked =>
    if port.id = "" then reference
    else
      match reference.ports.get? port.id with
      | some _ => reference
      | none =>
        let number := reference.portNumSeq + 1
        { reference with
          ports := reference.ports.set port.id
            { id := port.id, port := port, attrs := checked, portNum := number }
          portNumSeq := number }

def flushPort (reference : Reference) (id : String) : Reference :=
  { reference with fdb := reference.fdb.flushPort id }

def removePort (reference : Reference) (id : String) : Reference :=
  match reference.ports.get? id with
  | none => reference
  | some _ => { reference with ports := reference.ports.erase id }.flushPort id

def writeAttrs (reference : Reference) (id : String) (attrs : CheckedAttrs) :
    Reference :=
  reference.modify id fun entry =>
    { entry with
      attrs := attrs
      blockReason := if entry.attrs.disabled && !attrs.disabled then none
        else entry.blockReason }

def updatePortAttrs (reference : Reference) (id : String) (attrs : PortAttrs) :
    Reference :=
  match attrs.check with
  | .error _ => reference
  | .ok checked =>
    match reference.ports.get? id with
    | none => reference
    | some entry =>
      if entry.attrs.vlan ≠ attrs.vlan then
        (reference.writeAttrs id checked).flushPort id
      else reference.writeAttrs id checked

def blockPort (reference : Reference) (id : String) (reason : BlockReason) :
    Reference :=
  match reference.ports.get? id with
  | none => reference
  | some entry =>
    if entry.attrs.disabled then reference.flushPort id
    else (reference.modify id fun entry =>
      { entry with attrs := entry.attrs.disable, blockReason := some reason }).flushPort id

def addStaticFDB (reference : Reference) (now vlan : Int) (mac : Bytes)
    (portID : String) : Reference :=
  if vlan < 0 ∨ vlan > 4094 then reference
  else if portID = "" then reference
  else
    match Switch.macKey mac with
    | .error _ => reference
    | .ok key =>
      if isMulticast key then reference
      else { reference with fdb := reference.fdb.addStatic now (int32 vlan) key portID }

def removeStaticFDB (reference : Reference) (vlan : Int) (mac : Bytes) : Reference :=
  match Switch.macKey mac with
  | .error _ => reference
  | .ok key =>
    match reference.fdb.removeStatic (int32 vlan) key with
    | .error _ => reference
    | .ok fdb => { reference with fdb := fdb }

def deleteFDBEntry (reference : Reference) (vlan : Int) (mac : Bytes) : Reference :=
  match Switch.macKey mac with
  | .error _ => reference
  | .ok key =>
    match reference.fdb.removeDynamic (int32 vlan) key with
    | .error _ => reference
    | .ok fdb => { reference with fdb := fdb }

/-! ## Delivery -/

def countRx (reference : Reference) (id : String) (bytes : Nat) : Reference :=
  reference.modify id fun entry => { entry with stats := { entry.stats with
    rxFrames := entry.stats.rxFrames + 1
    rxBytes := entry.stats.rxBytes + bytes } }

def countRxDropped (reference : Reference) (id : String) : Reference :=
  reference.modify id fun entry => { entry with stats := { entry.stats with
    rxDropped := entry.stats.rxDropped + 1 } }

def countStormDropped (reference : Reference) (id : String) : Reference :=
  reference.modify id fun entry => { entry with stats := { entry.stats with
    rxDropped := entry.stats.rxDropped + 1
    stormDropped := entry.stats.stormDropped + 1 } }

def countTx (reference : Reference) (id : String) (accepted : Bool) (bytes : Nat) :
    Reference :=
  reference.modify id fun entry => { entry with stats :=
    if accepted then { entry.stats with
      txFrames := entry.stats.txFrames + 1
      txBytes := entry.stats.txBytes + bytes }
    else { entry.stats with txDropped := entry.stats.txDropped + 1 } }

def offer (env : Env) (src : PortEntry) (frame : FrameView) (key : Int)
    (state : Reference × List SendCall) (id : String) : Reference × List SendCall :=
  match state.1.ports.get? id with
  | none => state
  | some dst =>
    if id = src.id then state
    else if dst.stpState = .forwarding ∧
        egressEligible src.attrs.toPortAttrs dst.attrs.toPortAttrs key = true then
      let out := egressFrame frame key dst.attrs.toPortAttrs
      (state.1.countTx id (env.accept dst.port out) out.length,
        state.2 ++ [⟨dst.port, src.id, out⟩])
    else state

def flood (env : Env) (reference : Reference) (src : PortEntry) (frame : FrameView)
    (key : Int) : Reference × List SendCall :=
  (env.range reference.ports.keys).foldl (offer env src frame key) (reference, [])

def floodLimited (env : Env) (reference : Reference) (src : PortEntry)
    (frame : FrameView) (key : Int) : Reference × List SendCall :=
  if src.attrs.stormPPS > 0 then
    let taken := src.storm.allow env.now src.attrs.stormPPS
    let charged := reference.modify src.id fun entry => { entry with storm := taken.1 }
    if taken.2 then flood env charged src frame key
    else (charged.countStormDropped src.id, [])
  else flood env reference src frame key

def forward (env : Env) (reference : Reference) (src : PortEntry) (frame : FrameView)
    (key : Int) : Reference × List SendCall :=
  if isMulticast frame.dstMAC then floodLimited env reference src frame key
  else
    let id := (reference.fdb.lookup env.now key frame.dstMAC).2
    if id ≠ "" then offer env src frame key (reference, []) id
    else floodLimited env reference src frame key

def ingress (reference : Reference) (src : PortEntry) (data : Bytes) :
    Switch.Ingress :=
  match parseFrame data with
  | none => .unparsed
  | some frame =>
    if src.attrs.disabled then .disabled
    else if frame.dstMAC = loopProbeDst ∧ isOwnLoopProbe reference.instanceID data then
      .ownProbe
    else if isReservedGroupMAC frame.dstMAC then .reserved
    else if src.stpState = .blocking ∨ src.stpState = .listening then .stpBlocked
    else
      match ingressKey src.attrs.toPortAttrs frame with
      | none => .vlanRefused
      | some key =>
        if Switch.securityViolated src.attrs.toPortAttrs frame.srcMAC then .insecure
        else .admitted frame key

def learnSource (env : Env) (reference : Reference) (srcID : String)
    (frame : FrameView) (key : Int) : Reference :=
  if isMulticast frame.srcMAC then reference
  else
    let fdb := reference.fdb.learn env.now key frame.srcMAC srcID none
    { reference with fdb := fdb }

def deliver (env : Env) (reference : Reference) (srcID : String) (data : Bytes) :
    Reference × List SendCall :=
  match reference.ports.get? srcID with
  | none => (reference, [])
  | some src =>
    let counted := reference.countRx srcID data.length
    match reference.ingress src data with
    | .unparsed | .gone => (reference, [])
    | .disabled | .stpBlocked | .vlanRefused | .insecure =>
      (counted.countRxDropped srcID, [])
    | .ownProbe => (counted.blockPort srcID .loop, [])
    | .reserved =>
      if src.attrs.bpduGuard && isBPDU (macAt data 0) data then
        (counted.blockPort srcID .bpduGuard, [])
      else (counted, [])
    | .admitted frame key =>
      let learned := counted.learnSource env srcID frame key
      if src.stpState = .learning then (learned.countRxDropped srcID, [])
      else forward env learned src frame key

def loopProbes (env : Env) (reference : Reference) : List SendCall :=
  (env.range reference.ports.keys).filterMap fun id =>
    match reference.ports.get? id with
    | none => none
    | some entry =>
      if entry.attrs.loopDetect && !entry.attrs.disabled then
        some ⟨entry.port, "loop-probe", buildLoopProbe reference.instanceID⟩
      else none

/-! ## Runs -/

def apply (env : Env) (reference : Reference) : Op → Reference × List SendCall
  | .addPort port attrs => (reference.addPort port attrs, [])
  | .removePort id => (reference.removePort id, [])
  | .notifyDown id => (reference.flushPort id, [])
  | .updatePortAttrs id attrs => (reference.updatePortAttrs id attrs, [])
  | .blockPort id reason => (reference.blockPort id reason, [])
  | .addStaticFDB vlan mac portID =>
    (reference.addStaticFDB env.now vlan mac portID, [])
  | .removeStaticFDB vlan mac => (reference.removeStaticFDB vlan mac, [])
  | .deleteFDBEntry vlan mac => (reference.deleteFDBEntry vlan mac, [])
  | .flushFDB portID vlan =>
    ({ reference with fdb := (reference.fdb.flush portID (vlan.map int32)).1 }, [])
  | .setFDBMaxAge maxAge =>
    (if maxAge ≤ 0 then reference
      else { reference with fdb := reference.fdb.setMaxAge maxAge }, [])
  | .expire => ({ reference with fdb := reference.fdb.expire env.now }, [])
  -- The spanning tree is not part of the reference.
  | .setSTPConfig _ | .runDeferred | .stpTick _ => (reference, [])
  | .loopProbes => (reference, reference.loopProbes env)
  | .deliver srcID data => deliver env reference srcID data

end Reference

structure ReferenceWorld where
  sw : Reference
  refs : List String

def ReferenceWorld.step (env : Env) (world : ReferenceWorld) :
    Event → ReferenceWorld × List SendCall
  | .op op =>
    let result := world.sw.apply env op
    (⟨result.1, world.refs⟩, result.2)
  | .ref id => (⟨world.sw, world.refs ++ [id]⟩, [])
  | .refDeliver index data =>
    match world.refs[index]? with
    | none => (world, [])
    | some id =>
      let result := Reference.deliver env world.sw id data
      (⟨result.1, world.refs⟩, result.2)

end GvSwitch.SwitchCore
