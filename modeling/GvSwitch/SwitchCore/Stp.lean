import GvSwitch.SwitchCore.Switch

/-!
# The spanning-tree state machine

Classic 802.1D.  Configuration BPDUs flow from the root, a port holds the best
vector received on its segment, roles are recomputed on every change, and a
port that may forward climbs Blocking, Listening, Learning, Forwarding.
-/

namespace GvSwitch.SwitchCore

open Foundation

/-- Go's wrap-around on `int64` arithmetic. -/
def int64 (value : Int) : Int :=
  (value + 9223372036854775808) % 18446744073709551616 - 9223372036854775808

/-- A duration as an unsigned 16-bit count of 1/256 seconds. -/
def bpduTime (duration : Int) : Nat :=
  ((int64 (duration * 256)).tdiv second % 65536).toNat

def portID (priority : UInt8) (number : UInt16) : UInt16 :=
  priority.toUInt16 <<< 8 ||| number &&& 0xff

namespace Switch

def stpPortCost (sw : Switch) (record : StpPort) : UInt32 :=
  let cost := (sw.entry record.entry).attrs.stpCost
  if cost > 0 then cost else 100

def stpPortID (sw : Switch) (record : StpPort) : UInt16 :=
  let entry := sw.entry record.entry
  let priority := if entry.attrs.stpPriority = 0 then 128 else entry.attrs.stpPriority
  portID priority entry.portNum

def setStpState (sw : Switch) (ptr : Ptr) (state : StpState) : Switch :=
  sw.modify ptr fun entry => { entry with stpState := state }

def setStpPort (sw : Switch) (id : String) (record : StpPort) : Switch :=
  { sw with stp := { sw.stp with ports := sw.stp.ports.set id record } }

def eraseStpPort (sw : Switch) (id : String) : Switch :=
  { sw with stp := { sw.stp with ports := sw.stp.ports.erase id } }

/-! ## Enrolment -/

/-- The identifiers `resyncPortsLocked` marks as seen. -/
def participates (sw : Switch) (id : String) : Bool :=
  match sw.ports.get? id with
  | none => false
  | some ptr =>
    (sw.entry ptr).attrs.stp && !(sw.entry ptr).attrs.disabled

def enrol (sw : Switch) (id : String) : Switch :=
  match sw.ports.get? id with
  | none => sw
  | some ptr =>
    if !sw.participates id then sw
    else
      match sw.stp.ports.get? id with
      | some _ => sw
      | none =>
        (sw.setStpPort id { entry := ptr, role := .blocked }).setStpState
          ptr .blocking

def withdraw (sw : Switch) (id : String) : Switch :=
  match sw.stp.ports.get? id with
  | none => sw
  | some record =>
    if !sw.participates id || (sw.entry record.entry).gone then
      (sw.setStpState record.entry .forwarding).eraseStpPort id
    else sw

def resyncPortsLocked (env : Env) (sw : Switch) : Switch :=
  let enrolled := (env.range sw.ports.keys).foldl enrol sw
  (env.range enrolled.stp.ports.keys).foldl withdraw enrolled

/-! ## Root selection and roles -/

/-- The vector a port's stored information offers for root selection. -/
def candidate (sw : Switch) (record : StpPort) : Option PriorityVector :=
  if !record.hasInfo || record.info.bridgeID == sw.stp.bridgeID then none
  else some { record.info with cost := record.info.cost + sw.stpPortCost record }

def ownClaim (sw : Switch) : PriorityVector :=
  ⟨sw.stp.bridgeID, 0, sw.stp.bridgeID, 0⟩

def selectStep (sw : Switch) (best : PriorityVector × Option String)
    (id : String) : PriorityVector × Option String :=
  match sw.stp.ports.get? id with
  | none => best
  | some record =>
    match sw.candidate record with
    | none => best
    | some vector => if vector.better best.1 then (vector, some id) else best

def selectRoot (sw : Switch) (order : List String) :
    PriorityVector × Option String :=
  order.foldl sw.selectStep (sw.ownClaim, none)

def advertised (sw : Switch) (record : StpPort) : PriorityVector :=
  ⟨sw.stp.rootID, sw.stp.rootCost, sw.stp.bridgeID,
    sw.stpPortID record⟩

def designatedLocked (sw : Switch) (record : StpPort) : Bool :=
  if !record.hasInfo then true
  else (sw.advertised record).better record.info

def computeRole (sw : Switch) (rootPort : Option String) (id : String)
    (record : StpPort) : Role :=
  if rootPort = some id then .root
  else if sw.designatedLocked record then .designated
  else .blocked

/-- Root and designated ports start the climb; blocked ports drop at once. -/
def applyRoleLocked (sw : Switch) (id : String) (record : StpPort) : Switch :=
  let current := (sw.entry record.entry).stpState
  if record.role = .blocked then
    if current ≠ .blocking then
      let stopped := sw.setStpState record.entry .blocking
      { stopped with fdb := stopped.fdb.flushPort id }
    else sw
  else if current = .blocking then
    (sw.setStpState record.entry .listening).setStpPort id
      { record with stateTimer := 0 }
  else sw

def assignRole (rootPort : Option String) (state : Switch × Bool) (id : String) :
    Switch × Bool :=
  match state.1.stp.ports.get? id with
  | none => state
  | some record =>
    let role := state.1.computeRole rootPort id record
    let updated := { record with role := role }
    ((state.1.setStpPort id updated).applyRoleLocked id updated,
      state.2 || role != record.role)

def signalTopologyChangeLocked (sw : Switch) : Switch :=
  let stp :=
    if sw.stp.rootPort = "" then
      { sw.stp with
        tcWhile := int64 (sw.stp.cfg.maxAge + sw.stp.cfg.forwardDelay) }
    else { sw.stp with tcnPending := true }
  { sw with stp := stp, fdb := (sw.fdb.flush "" none).1 }

def setRoot (sw : Switch) (best : PriorityVector × Option String) : Switch :=
  { sw with stp := { sw.stp with
      rootID := best.1.rootID
      rootCost := best.1.cost
      rootPort := best.2.getD "" } }

def recomputeLocked (env : Env) (sw : Switch) : Switch :=
  if !sw.stp.cfg.enabled then sw
  else
    let order := env.range sw.stp.ports.keys
    let best := sw.selectRoot order
    let assigned := order.foldl (assignRole best.2) (sw.setRoot best, false)
    if assigned.2 then assigned.1.signalTopologyChangeLocked else assigned.1

def becomeRootLocked (env : Env) (sw : Switch) : Switch :=
  recomputeLocked env { sw with stp := { sw.stp with
    rootID := sw.stp.bridgeID, rootCost := 0, rootPort := "" } }

/-! ## Configuration -/

/-- Zero and negative fields take their defaults. -/
def normalizeConfig (cfg : StpConfig) : StpConfig where
  enabled := cfg.enabled
  priority := if cfg.priority = 0 then 32768 else cfg.priority
  helloTime := if cfg.helloTime ≤ 0 then 2 * second else cfg.helloTime
  maxAge := if cfg.maxAge ≤ 0 then 20 * second else cfg.maxAge
  forwardDelay := if cfg.forwardDelay ≤ 0 then 15 * second else cfg.forwardDelay

def release (sw : Switch) (id : String) : Switch :=
  match sw.stp.ports.get? id with
  | none => sw
  | some record => sw.setStpState record.entry .forwarding

def setSTPConfig (env : Env) (sw : Switch) (cfg : StpConfig) : Switch :=
  let configured :=
    { sw with stp := { sw.stp with cfg := normalizeConfig cfg } }
  if !cfg.enabled then
    let released := (env.range configured.stp.ports.keys).foldl release configured
    { released with stp := { released.stp with ports := .empty } }
  else becomeRootLocked env (resyncPortsLocked env configured)

/-- The body of the goroutine `portChangedLocked` schedules. -/
def runDeferred (env : Env) (sw : Switch) : Switch :=
  let popped := { sw with deferred := sw.deferred - 1 }
  if popped.stp.cfg.enabled then
    recomputeLocked env (resyncPortsLocked env popped)
  else popped

/-! ## BPDU encoding -/

def frameHeader (bridge : StpBridge) (payloadLen : Nat) : Bytes :=
  bpduDstMAC.toList ++ (0x02 : UInt8) :: (bridge.mac.toList.drop 1 ++
    putBE16 (3 + payloadLen) ++ [0x42, 0x42, 0x03])

def pad60 (frame : Bytes) : Bytes :=
  frame ++ List.replicate (60 - frame.length) 0

/-- The message age a bridge puts in the configurations it relays. -/
def messageAge (bridge : StpBridge) : Int :=
  if bridge.rootPort ≠ "" then
    match bridge.ports.get? bridge.rootPort with
    | some record => int64 (record.infoAge + second)
    | none => 0
  else 0

def buildConfig (sw : Switch) (record : StpPort) (flags : UInt8) : Bytes :=
  let bridge := sw.stp
  pad60 (frameHeader bridge 35 ++ [0, 0, 0, 0, flags] ++
    putBE64 bridge.rootID.toNat ++ putBE32 bridge.rootCost.toNat ++
    putBE64 bridge.bridgeID.toNat ++ putBE16 (sw.stpPortID record).toNat ++
    putBE16 (bpduTime (messageAge bridge)) ++ putBE16 (bpduTime bridge.cfg.maxAge) ++
    putBE16 (bpduTime bridge.cfg.helloTime) ++
    putBE16 (bpduTime bridge.cfg.forwardDelay))

def buildTCN (bridge : StpBridge) : Bytes :=
  pad60 (frameHeader bridge 4 ++ [0, 0, 0, 0x80])

def stpSend (sw : Switch) (record : StpPort) (frame : Bytes) : SendCall :=
  ⟨(sw.entry record.entry).port, "stp", frame⟩

/-! ## The protocol clock -/

def tickInterval (cfg : StpConfig) : Int :=
  if cfg.helloTime / 2 ≤ 0 then second else cfg.helloTime / 2

def ageInfo (dt : Int) (state : Switch × Bool) (id : String) : Switch × Bool :=
  match state.1.stp.ports.get? id with
  | none => state
  | some record =>
    if !record.hasInfo then state
    else
      let aged := { record with infoAge := int64 (record.infoAge + dt) }
      if aged.infoAge ≥ state.1.stp.cfg.maxAge then
        (state.1.setStpPort id { aged with hasInfo := false }, true)
      else (state.1.setStpPort id aged, state.2)

def progress (dt : Int) (sw : Switch) (id : String) : Switch :=
  match sw.stp.ports.get? id with
  | none => sw
  | some record =>
    if record.role = .blocked then sw
    else
      let timer := int64 (record.stateTimer + dt)
      match (sw.entry record.entry).stpState with
      | .listening =>
        if timer ≥ sw.stp.cfg.forwardDelay then
          (sw.setStpPort id { record with stateTimer := 0 }).setStpState
            record.entry .learning
        else sw.setStpPort id { record with stateTimer := timer }
      | .learning =>
        if timer ≥ sw.stp.cfg.forwardDelay then
          let climbed :=
            (sw.setStpPort id { record with stateTimer := 0 }).setStpState
              record.entry .forwarding
          { climbed with fdb := climbed.fdb.flushPort id }
        else sw.setStpPort id { record with stateTimer := timer }
      | _ => sw

def transmitConfigsLocked (env : Env) (sw : Switch) : List SendCall :=
  let relays :=
    sw.stp.rootPort = "" ∨
      ∃ record ∈ sw.stp.ports.get? sw.stp.rootPort, record.hasInfo = true
  let flags : UInt8 := if sw.stp.tcWhile > 0 then 0x01 else 0
  if relays then
    (env.range sw.stp.ports.keys).filterMap fun id =>
      match sw.stp.ports.get? id with
      | none => none
      | some record =>
        if record.role ≠ .designated then none
        else some (sw.stpSend record (sw.buildConfig record flags))
  else []

def hello (env : Env) (sw : Switch) : Switch × List SendCall :=
  let configs := transmitConfigsLocked env sw
  let stp := { sw.stp with
    lastHello := 0
    tcWhile := if sw.stp.tcWhile > 0 then
        int64 (sw.stp.tcWhile - sw.stp.cfg.helloTime)
      else sw.stp.tcWhile }
  let tcn :=
    if sw.stp.tcnPending ∧ sw.stp.rootPort ≠ "" then
      match sw.stp.ports.get? sw.stp.rootPort with
      | some record => [sw.stpSend record (buildTCN sw.stp)]
      | none => []
    else []
  ({ sw with stp := stp }, configs ++ tcn)

/-- Age out the stored information; an expiry means that a segment lost its
designated bridge. -/
def ageOut (env : Env) (sw : Switch) (dt : Int) : Switch :=
  let aged := (env.range sw.stp.ports.keys).foldl (ageInfo dt) (sw, false)
  if aged.2 then recomputeLocked env aged.1 else aged.1

def climb (env : Env) (sw : Switch) (dt : Int) : Switch :=
  (env.range sw.stp.ports.keys).foldl (progress dt) sw

def tickLocked (env : Env) (sw : Switch) (dt : Int) : Switch × List SendCall :=
  let climbed := climb env (ageOut env (resyncPortsLocked env sw) dt) dt
  let timed := { climbed with stp := { climbed.stp with
    lastHello := int64 (climbed.stp.lastHello + dt) } }
  if timed.stp.lastHello ≥ timed.stp.cfg.helloTime then hello env timed
  else (timed, [])

/-- One round of `run`; `dt` is the interval it read before going to sleep.
Nothing happens while the protocol is disabled. -/
def stpTick (env : Env) (sw : Switch) (dt : Int) : Switch × List SendCall :=
  if sw.stp.cfg.enabled then tickLocked env sw dt else (sw, [])

/-! ## Received BPDUs -/

/-- The fields of a configuration BPDU, `body` starting behind the LLC header. -/
def configVector (body : Bytes) : PriorityVector :=
  ⟨UInt64.ofNat (be64 body 5), UInt32.ofNat (be32 body 13),
    UInt64.ofNat (be64 body 17), UInt16.ofNat (be16 body 25)⟩

def storeInfo (env : Env) (sw : Switch) (id : String) (record : StpPort)
    (body : Bytes) : Switch :=
  let info := configVector body
  let refresh := record.hasInfo && info.bridgeID == record.info.bridgeID &&
    info.portID == record.info.portID
  if !record.hasInfo || refresh || info.better record.info then
    recomputeLocked env (sw.setStpPort id { record with
      hasInfo := true
      info := info
      infoAge := Int.ofNat (be16 body 27) * second / 256 })
  else sw

/-- The topology-change flag from the root ages the forwarding database. -/
def fastAge (sw : Switch) (flags : UInt8) : Switch :=
  if flags &&& 0x01 != 0 then { sw with fdb := (sw.fdb.flush "" none).1 }
  else sw

/-- An acknowledgement from upstream ends our own notification. -/
def acknowledge (sw : Switch) (id : String) (flags : UInt8) : Switch :=
  if flags &&& 0x80 != 0 ∧ id = sw.stp.rootPort then
    { sw with stp := { sw.stp with tcnPending := false } }
  else sw

def handleConfig (env : Env) (sw : Switch) (id : String) (record : StpPort)
    (body : Bytes) : Switch :=
  let flags := byteAt body 4
  ((storeInfo env sw id record body).fastAge flags).acknowledge id flags

def handleBPDU (env : Env) (sw : Switch) (src : Ptr) (frame : Bytes) :
    Switch × List SendCall :=
  let id := (sw.entry src).id
  if !sw.stp.cfg.enabled then (sw, [])
  else
    match sw.stp.ports.get? id with
    | none => (sw, [])
    | some record =>
      let body := frame.drop (ethHeaderLen + 3)
      if body.length < 4 then (sw, [])
      else if byteAt body 3 = 0x80 then
        if record.role = .designated then
          let signalled := sw.signalTopologyChangeLocked
          (signalled,
            [signalled.stpSend record (signalled.buildConfig record 0x80)])
        else (sw, [])
      else if byteAt body 3 ≠ 0x00 ∨ body.length < 35 then (sw, [])
      else (handleConfig env sw id record body, [])

end Switch

end GvSwitch.SwitchCore
