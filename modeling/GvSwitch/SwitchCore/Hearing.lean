import GvSwitch.SwitchCore.Bridge

/-!
# What the bridge hears

An event leaves the bridge as it was, runs one of the bridge's own operations,
or brings a frame to a port.  A BPDU is ignored, is a notification on a
designated port, or is a configuration, which the port accepts or not.
-/

namespace GvSwitch.SwitchCore

open Foundation Switch

/-- The port stores the vector: it is the first, from the same sender, or
better. -/
def StpPort.accepts (record : StpPort) (info : PriorityVector) : Bool :=
  !record.hasInfo || (record.hasInfo && info.bridgeID == record.info.bridgeID &&
    info.portID == record.info.portID) || info.better record.info

variable (env : Env) (sw : Switch) (id : String) (record : StpPort) (frame : Bytes)

namespace Switch

/-! ## The fields of a BPDU -/

def bpduBody (frame : Bytes) : Bytes := frame.drop (ethHeaderLen + 3)

def isConfig (frame : Bytes) : Bool :=
  isBPDU (macAt frame 0) frame && byteAt (bpduBody frame) 3 == 0 &&
    decide (35 ≤ (bpduBody frame).length)

def wireAge (frame : Bytes) : Int :=
  Int.ofNat (be16 (bpduBody frame) 27) * second / 256

/-! ## What a BPDU does -/

def hears (sw : Switch) (id : String) (record : StpPort) (frame : Bytes) : Switch :=
  sw.setStpPort id
    (heardRecord record (configVector (bpduBody frame)) (wireAge frame))

theorem get?_hears (other : String) (record : StpPort) (frame : Bytes) :
    (sw.hears id record frame).stp.ports.get? other =
      if other = id then
        some (heardRecord record (configVector (bpduBody frame)) (wireAge frame))
      else sw.stp.ports.get? other :=
  GoMap.get?_set _ _ _ _

theorem sameBridge_hears : SameBridge sw (sw.hears id record frame) :=
  sameBridge_setStpPort sw id _

theorem touches_hears {sw : Switch} (hn : Named sw) {id : String}
    {record : StpPort} (hr : sw.stp.ports.get? id = some record) (frame : Bytes) :
    Touches id sw (sw.hears id record frame) :=
  touches_setStpPort hn (hn.record id record hr)

theorem storeInfo_eq :
    storeInfo env sw id record (bpduBody frame) =
      if record.accepts (configVector (bpduBody frame)) then
        recomputeLocked env (sw.hears id record frame)
      else sw := rfl

theorem isConfig_iff {frame : Bytes} : isConfig frame = true ↔
    isBPDU (macAt frame 0) frame = true ∧ byteAt (bpduBody frame) 3 = 0 ∧
      35 ≤ (bpduBody frame).length := by
  simp only [isConfig, Bool.and_eq_true, beq_iff_eq, decide_eq_true_eq, and_assoc]

theorem handleBPDU_of_config {sw : Switch} {src : Ptr} {frame : Bytes}
    {record : StpPort} (hon : sw.stp.cfg.enabled = true)
    (hr : sw.stp.ports.get? (sw.entry src).id = some record)
    (hcfg : byteAt (bpduBody frame) 3 = 0) (hlong : 35 ≤ (bpduBody frame).length) :
    (handleBPDU env sw src frame).1 =
      handleConfig env sw (sw.entry src).id record (bpduBody frame) := by
  have hfour : ¬ (bpduBody frame).length < 4 := by omega
  have hknown : ¬ (byteAt (bpduBody frame) 3 ≠ 0x00 ∨ (bpduBody frame).length < 35) := by
    rw [not_or, not_not, Nat.not_lt]
    exact ⟨hcfg, hlong⟩
  unfold bpduBody at hcfg hfour hknown
  unfold handleBPDU
  simp only [hon, hr, Bool.not_true, Bool.false_eq_true, if_false, if_neg hfour,
    if_neg hknown]
  rw [hcfg, if_neg (by decide)]
  rfl

theorem handleBPDU_moves (src : Ptr) {frame : Bytes}
    (hbpdu : isBPDU (macAt frame 0) frame = true) :
    (handleBPDU env sw src frame).1 = sw ∨
      ∃ record, sw.stp.cfg.enabled = true ∧
        sw.stp.ports.get? (sw.entry src).id = some record ∧
        ((record.role = .designated ∧
            (handleBPDU env sw src frame).1 = sw.signalTopologyChangeLocked) ∨
          (isConfig frame = true ∧ (handleBPDU env sw src frame).1 =
            handleConfig env sw (sw.entry src).id record (bpduBody frame))) := by
  dsimp only [handleBPDU]
  split
  · exact .inl rfl
  rename_i hon
  rw [Bool.not_eq_true, Bool.not_eq_false'] at hon
  split
  · exact .inl rfl
  rename_i record hr
  split
  · exact .inl rfl
  split
  · split
    · rename_i hrole
      exact .inr ⟨record, hon, hr, .inl ⟨hrole, rfl⟩⟩
    · exact .inl rfl
  · split
    · exact .inl rfl
    rename_i hcfg
    rw [not_or, not_not, Nat.not_lt] at hcfg
    exact .inr ⟨record, hon, hr, .inr ⟨isConfig_iff.mpr ⟨hbpdu, hcfg⟩, rfl⟩⟩

theorem stp_apply {op : Op} (hcfg : ∀ cfg, op ≠ .setSTPConfig cfg)
    (hdeferred : op ≠ .runDeferred) (htick : ∀ dt, op ≠ .stpTick dt)
    (hdeliver : ∀ id data, op ≠ .deliver id data) : (sw.apply env op).1.stp = sw.stp := by
  by_cases hfdb : op.isFdb = true
  · obtain ⟨fdb, happly⟩ := apply_fdb env sw hfdb
    rw [happly]
  cases op with
  | addPort port attrs =>
    dsimp only [Switch.apply]
    cases hadd : sw.addPort port attrs with
    | error reason => rfl
    | ok after =>
      obtain ⟨checked, rfl, -, -, rfl⟩ := addPort_ok hadd
      rfl
  | removePort id =>
    dsimp only [Switch.apply, removePort]
    split <;> rfl
  | updatePortAttrs id attrs =>
    dsimp only [Switch.apply]
    cases hupd : sw.updatePortAttrs id attrs with
    | error reason => rfl
    | ok after =>
      obtain ⟨checked, ptr, fdb, rfl, -, rfl⟩ := updatePortAttrs_ok hupd
      rfl
  | blockPort id reason =>
    dsimp only [Switch.apply]
    split
    · rfl
    · exact (spares_blockPort sw _ reason).stp
  | setSTPConfig cfg => exact absurd rfl (hcfg cfg)
  | runDeferred => exact absurd rfl hdeferred
  | stpTick dt => exact absurd rfl (htick dt)
  | loopProbes => rfl
  | deliver srcID data => exact absurd rfl (hdeliver srcID data)
  | _ => exact absurd rfl hfdb

end Switch

namespace World

/-! ## Events -/

def arrival (world : World) : Event → Option (Ptr × Bytes)
  | .op (.deliver id data) => (world.sw.ports.get? id).map (·, data)
  | .refDeliver index data =>
    (world.refs[index]?.bind (·.resolve world.sw)).map (·, data)
  | _ => none

theorem step_of_arrival {world : World} {event : Event} {src : Ptr} {frame : Bytes}
    (h : world.arrival event = some (src, frame)) (env : Env) :
    (world.step env event).1.sw = (deliver env world.sw src frame).1 := by
  unfold arrival at h
  split at h
  · obtain ⟨ptr, hp, heq⟩ := Option.map_eq_some_iff.mp h
    cases heq
    simp only [step, apply, deliverFrom, hp]
  · obtain ⟨ptr, hresolve, heq⟩ := Option.map_eq_some_iff.mp h
    cases heq
    obtain ⟨ref, href, hptr⟩ := Option.bind_eq_some_iff.mp hresolve
    simp only [step, href, PortRef.deliver, hptr]
  · cases h

inductive Moves (env : Env) (world : World) (event : Event) (after : Switch) : Prop
  | still : after.stp = world.sw.stp → Moves env world event after
  | configures (cfg : StpConfig) : event = .op (.setSTPConfig cfg) →
      after = Switch.setSTPConfig env world.sw cfg → Moves env world event after
  | resyncs : event = .op .runDeferred → after = Switch.runDeferred env world.sw →
      Moves env world event after
  | ticks (dt : Int) : event = .op (.stpTick dt) →
      after = (Switch.stpTick env world.sw dt).1 → Moves env world event after
  | hears (src : Ptr) (frame : Bytes) : world.arrival event = some (src, frame) →
      isBPDU (macAt frame 0) frame = true →
      Switch.Spares world.sw (world.sw.countRx src frame.length) →
      after = (Switch.handleBPDU env (world.sw.countRx src frame.length) src frame).1 →
      Moves env world event after

theorem moves_deliver {world : World} {event : Event} {src : Ptr} {data : Bytes}
    (harrival : world.arrival event = some (src, data)) :
    Moves env world event (deliver env world.sw src data).1 := by
  rcases deliver_cases env world.sw src data with
    hspare | ⟨hbpdu, hcnt, hdeliver⟩
  · exact .still hspare.stp
  · exact .hears src data harrival hbpdu hcnt hdeliver

theorem moves (world : World) (event : Event) :
    Moves env world event (world.step env event).1.sw := by
  cases event with
  | op op =>
    cases op with
    | setSTPConfig cfg => exact .configures cfg rfl rfl
    | runDeferred => exact .resyncs rfl rfl
    | stpTick dt => exact .ticks dt rfl rfl
    | deliver srcID data =>
      dsimp only [World.step, apply, deliverFrom]
      split
      · exact .still rfl
      · rename_i src hsrc
        exact moves_deliver env (by rw [arrival, hsrc]; rfl)
    | _ => exact .still (stp_apply env world.sw nofun nofun nofun nofun)
  | ref id => exact .still rfl
  | refDeliver index data =>
    dsimp only [World.step]
    split
    · exact .still rfl
    rename_i ref href
    dsimp only [PortRef.deliver]
    split
    · exact .still rfl
    rename_i src hsrc
    refine moves_deliver env ?_
    rw [arrival, href, Option.bind_some, hsrc]
    rfl

end World

end GvSwitch.SwitchCore
