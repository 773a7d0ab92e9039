import GvSwitch.SwitchCore.Stp

/-!
# The forwarding pipeline

`deliver` takes one ingress frame through the gates in the order of the source
and returns the frames handed to transports.  `Switch.deliverFrom` resolves the
source by identifier, `PortRef.deliver` through a cached pointer.
-/

namespace GvSwitch.SwitchCore

open Foundation

namespace Switch

/-! ## Counters -/

def countRx (sw : Switch) (ptr : Ptr) (bytes : Nat) : Switch :=
  sw.modify ptr fun entry => { entry with stats := { entry.stats with
    rxFrames := entry.stats.rxFrames + 1
    rxBytes := entry.stats.rxBytes + bytes } }

def countRxDropped (sw : Switch) (ptr : Ptr) : Switch :=
  sw.modify ptr fun entry => { entry with stats := { entry.stats with
    rxDropped := entry.stats.rxDropped + 1 } }

def countStormDropped (sw : Switch) (ptr : Ptr) : Switch :=
  sw.modify ptr fun entry => { entry with stats := { entry.stats with
    rxDropped := entry.stats.rxDropped + 1
    stormDropped := entry.stats.stormDropped + 1 } }

def countTx (sw : Switch) (ptr : Ptr) (accepted : Bool) (bytes : Nat) :
    Switch :=
  sw.modify ptr fun entry => { entry with stats :=
    if accepted then { entry.stats with
      txFrames := entry.stats.txFrames + 1
      txBytes := entry.stats.txBytes + bytes }
    else { entry.stats with txDropped := entry.stats.txDropped + 1 } }

/-! ## Sending -/

def send (env : Env) (srcID : String) (frame : FrameView) (key : Int)
    (state : Switch × List SendCall) (dst : Ptr) : Switch × List SendCall :=
  let entry := state.1.entry dst
  let out := egressFrame frame key entry.attrs.toPortAttrs
  (state.1.countTx dst (env.accept entry.port out) out.length,
    state.2 ++ [⟨entry.port, srcID, out⟩])

def mayEgress (sw : Switch) (src dst : Ptr) (key : Int) : Bool :=
  (sw.entry dst).stpState == .forwarding &&
    egressEligible (sw.entry src).attrs.toPortAttrs
      (sw.entry dst).attrs.toPortAttrs key

def floodStep (env : Env) (src : Ptr) (srcID : String) (frame : FrameView)
    (key : Int) (state : Switch × List SendCall) (id : String) :
    Switch × List SendCall :=
  match state.1.ports.get? id with
  | none => state
  | some dst =>
    if id = srcID ∨ state.1.mayEgress src dst key = false then state
    else send env srcID frame key state dst

def flood (env : Env) (sw : Switch) (src : Ptr) (srcID : String)
    (frame : FrameView) (key : Int) : Switch × List SendCall :=
  (env.range sw.ports.keys).foldl (floodStep env src srcID frame key)
    (sw, [])

def unicast (env : Env) (sw : Switch) (src : Ptr) (srcID : String)
    (frame : FrameView) (key : Int) (hit : Option Ptr × String) :
    Switch × List SendCall :=
  -- A static entry is resolved by identifier; the port may not exist.
  let dst := hit.1.or (sw.ports.get? hit.2)
  match dst with
  | none => (sw, [])
  | some dst =>
    if (sw.entry dst).id ≠ srcID ∧ (sw.entry dst).gone = false ∧
        sw.mayEgress src dst key = true then
      send env srcID frame key (sw, []) dst
    else (sw, [])

def chargeStorm (sw : Switch) (src : Ptr) (bucket : StormBucket) : Switch :=
  sw.modify src fun entry => { entry with storm := bucket }

def floodLimited (env : Env) (sw : Switch) (src : Ptr) (srcID : String)
    (frame : FrameView) (key : Int) : Switch × List SendCall :=
  let pps := (sw.entry src).attrs.stormPPS
  if pps > 0 then
    let taken := (sw.entry src).storm.allow env.now pps
    let charged := sw.chargeStorm src taken.1
    if taken.2 then flood env charged src srcID frame key
    else (charged.countStormDropped src, [])
  else flood env sw src srcID frame key

def forward (env : Env) (sw : Switch) (src : Ptr) (srcID : String)
    (frame : FrameView) (key : Int) : Switch × List SendCall :=
  if isMulticast frame.dstMAC then floodLimited env sw src srcID frame key
  else
    let hit := sw.fdb.lookup env.now key frame.dstMAC
    if hit.2 ≠ "" then unicast env sw src srcID frame key hit
    else floodLimited env sw src srcID frame key

/-! ## The pipeline -/

def securityViolated (attrs : PortAttrs) (srcMAC : MAC) : Bool :=
  match attrs.securityMAC with
  | none => false
  | some mac => srcMAC != macAt mac 0

inductive Ingress where
  | unparsed
  | gone
  | disabled
  | ownProbe
  | reserved
  | stpBlocked
  | vlanRefused
  | insecure
  | admitted (frame : FrameView) (key : Int)
  deriving DecidableEq

/-- The ingress gates in source order, without their effects. -/
def ingress (sw : Switch) (src : Ptr) (data : Bytes) : Ingress :=
  match parseFrame data with
  | none => .unparsed
  | some frame =>
    let entry := sw.entry src
    if entry.gone then .gone
    else if entry.attrs.disabled then .disabled
    else if frame.dstMAC = loopProbeDst ∧ isOwnLoopProbe sw.instanceID data then
      .ownProbe
    else if isReservedGroupMAC frame.dstMAC then .reserved
    else if entry.stpState = .blocking ∨ entry.stpState = .listening then
      .stpBlocked
    else
      match ingressKey entry.attrs.toPortAttrs frame with
      | none => .vlanRefused
      | some key =>
        if securityViolated entry.attrs.toPortAttrs frame.srcMAC then .insecure
        else .admitted frame key

/-- BPDUs feed the spanning tree or trip the guard; other reserved frames are
consumed. -/
def consumeReserved (env : Env) (sw : Switch) (src : Ptr) (data : Bytes) :
    Switch × List SendCall :=
  let attrs := (sw.entry src).attrs
  let bpdu := isBPDU (macAt data 0) data
  if attrs.bpduGuard && bpdu then (sw.blockPort src .bpduGuard, [])
  else if attrs.stp && bpdu then handleBPDU env sw src data
  else (sw, [])

def learnSource (env : Env) (sw : Switch) (src : Ptr) (frame : FrameView)
    (key : Int) : Switch :=
  if isMulticast frame.srcMAC then sw
  else
    let fdb := sw.fdb.learn env.now key frame.srcMAC (sw.entry src).id (some src)
    { sw with fdb := fdb }

/-- A frame the gates admitted: learn, then forward unless still learning. -/
def switchFrame (env : Env) (sw : Switch) (src : Ptr) (frame : FrameView)
    (key : Int) : Switch × List SendCall :=
  let learned := learnSource env sw src frame key
  if (sw.entry src).stpState = .learning then
    (learned.countRxDropped src, [])
  else forward env learned src (sw.entry src).id frame key

def deliver (env : Env) (sw : Switch) (src : Ptr) (data : Bytes) :
    Switch × List SendCall :=
  match sw.ingress src data with
  | .unparsed | .gone => (sw, [])
  | .disabled => ((sw.countRx src data.length).countRxDropped src, [])
  | .ownProbe => ((sw.countRx src data.length).blockPort src .loop, [])
  | .reserved => consumeReserved env (sw.countRx src data.length) src data
  | .stpBlocked | .vlanRefused | .insecure =>
    ((sw.countRx src data.length).countRxDropped src, [])
  | .admitted frame key =>
    switchFrame env (sw.countRx src data.length) src frame key

/-- `Switch.Deliver`: an unknown source is ignored. -/
def deliverFrom (env : Env) (sw : Switch) (srcID : String) (data : Bytes) :
    Switch × List SendCall :=
  match sw.ports.get? srcID with
  | none => (sw, [])
  | some src => deliver env sw src data

def loopProbes (env : Env) (sw : Switch) : List SendCall :=
  (env.range sw.ports.keys).filterMap fun id =>
    match sw.ports.get? id with
    | none => none
    | some ptr =>
      let entry := sw.entry ptr
      if entry.attrs.loopDetect && !entry.attrs.disabled then
        some ⟨entry.port, "loop-probe", buildLoopProbe sw.instanceID⟩
      else none

end Switch

/-- A long-lived delivery handle with its cached registry pointer. -/
structure PortRef where
  id : String
  cached : Option Ptr

def PortRef.resolve (ref : PortRef) (sw : Switch) : Option Ptr :=
  match ref.cached with
  | some ptr =>
    if (sw.entry ptr).gone then sw.ports.get? ref.id
    else some ptr
  | none => sw.ports.get? ref.id

def PortRef.deliver (env : Env) (ref : PortRef) (sw : Switch) (data : Bytes) :
    PortRef × Switch × List SendCall :=
  match ref.resolve sw with
  | none => (ref, sw, [])
  | some ptr => ({ ref with cached := some ptr }, sw.deliver env ptr data)

end GvSwitch.SwitchCore
