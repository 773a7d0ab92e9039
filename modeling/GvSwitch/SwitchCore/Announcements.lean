import GvSwitch.SwitchCore.Forwarding
import GvSwitch.SwitchCore.TopologyChange

/-!
# Announcements on their way to the leaves

The root puts the topology-change flag into its configurations.  A bridge that
hears the flag on its root port flushes its own table.  The configurations it
sends on carry the flag only while its own `tcWhile` runs, and hearing the flag
does not start it.
-/

namespace GvSwitch.SwitchCore

open Foundation Switch

namespace Switch

/-! ## The flag of a transmitted configuration -/

theorem byteAt_bpduBody_buildConfig (sw : Switch) (record : StpPort) (flags : UInt8) :
    byteAt (bpduBody (sw.buildConfig record flags)) 4 = flags := by
  unfold bpduBody buildConfig pad60
  simp only [List.append_assoc]
  rw [byteAt_drop, byteAt_append_right _ _ (by rw [length_frameHeader]; decide),
    length_frameHeader]
  rfl

theorem byteAt_bpduBody_buildTCN (bridge : StpBridge) :
    byteAt (bpduBody (buildTCN bridge)) 3 = 0x80 := by
  unfold bpduBody buildTCN pad60
  simp only [List.append_assoc]
  rw [byteAt_drop, byteAt_append_right _ _ (by rw [length_frameHeader]; decide),
    length_frameHeader]
  rfl

variable {env : Env} {sw : Switch} {dt : Int}

theorem acknowledge_standing (sw : Switch) (id : String) (flags : UInt8) :
    ((sw.fastAge flags).acknowledge id flags).stp.rootPort = sw.stp.rootPort ∧
      ((sw.fastAge flags).acknowledge id flags).stp.tcWhile = sw.stp.tcWhile ∧
      ((sw.fastAge flags).acknowledge id flags).stp.cfg = sw.stp.cfg := by
  unfold acknowledge fastAge
  split <;> split <;> exact ⟨rfl, rfl, rfl⟩

theorem foldl_assignRole_changed {rootPort : Option String} {order : List String}
    (hnodup : order.Nodup) {state : Switch × Bool} {id : String} {record : StpPort}
    (hm : id ∈ order) (hr : state.1.stp.ports.get? id = some record)
    (hrole : state.1.computeRole rootPort id record ≠ record.role) :
    (order.foldl (assignRole rootPort) state).2 = true := by
  have hstays (state : Switch × Bool) (other : String) (hchanged : state.2 = true) :
      (assignRole rootPort state other).2 = true := by
    unfold assignRole
    split
    · exact hchanged
    · dsimp only
      rw [hchanged, Bool.true_or]
  induction order generalizing state with
  | nil => cases hm
  | cons first rest ih =>
    obtain ⟨hfresh, hrest⟩ := List.nodup_cons.mp hnodup
    obtain ⟨hbr, hothers, -⟩ := assignRole_spec rootPort state first
    rcases List.mem_cons.mp hm with rfl | hlater
    · have hhead : (assignRole rootPort state id).2 = true := by
        unfold assignRole
        rw [hr]
        exact Bool.or_eq_true_iff.mpr (.inr (bne_iff_ne.mpr hrole))
      exact foldl_related (fun before after : Switch × Bool =>
        before.2 = true → after.2 = true) (fun _ h => h) (fun h h' hfst => h' (h hfst))
        (assignRole rootPort) hstays rest _ hhead
    · refine ih hrest hlater ?_ ?_
      · rw [hothers id fun heq => hfresh (heq ▸ hlater)]
        exact hr
      · rw [hbr.computeRole ⟨rfl, rfl, rfl⟩]
        exact hrole

theorem tcWhile_of_lost_root (henabled : sw.stp.cfg.enabled = true)
    (hlost : ¬ sw.Backed) {id : String} {record : StpPort}
    (hr : sw.stp.ports.get? id = some record) (hrole : record.role = .root) :
    (recomputeLocked env sw).stp.tcWhile =
      int64 (sw.stp.cfg.maxAge + sw.stp.cfg.forwardDelay) := by
  have hnone : (elects env sw).2 = none := by
    cases helects : (elects env sw).2 with
    | none => rfl
    | some other => exact absurd ((elects_isSome_iff env sw).mp ⟨other, helects⟩) hlost
  have hnodup := (env.range_perm _).nodup_iff.mpr sw.stp.ports.nodup
  have hm := (env.mem_range _ _).mpr ((GoMap.mem_keys_iff _ _).mpr ⟨record, hr⟩)
  have hchanges : (sw.setRoot (elects env sw)).computeRole (elects env sw).2 id
      record ≠ record.role := by
    rw [hrole, hnone, computeRole]
    split
    · rename_i hself
      cases hself
    · split <;> simp
  have hchanged : (assigned env sw).2 = true :=
    foldl_assignRole_changed hnodup hm hr hchanges
  obtain ⟨ports, hassigned⟩ := recordsOnly_assigned env sw
  have hroot : (sw.setRoot (elects env sw)).stp.rootPort = "" := by
    change (elects env sw).2.getD "" = ""
    rw [hnone]
    rfl
  rw [recomputeLocked_of_enabled env henabled, if_pos hchanged]
  dsimp only [signalTopologyChangeLocked]
  rw [hassigned, if_pos hroot]
  rfl

end Switch

namespace World

/-! ## From hearing the flag to the next hello -/

/-- A step before the next hello. -/
structure Quiet (world : World) (label : Env × Event) (after : World) : Prop where
  step : Step world label after
  silent : ∀ dt, label.2 = .op (.stpTick dt) →
    int64 (world.sw.stp.lastHello + dt) < world.sw.stp.cfg.helloTime

/-- An announcement that starts does not end at once. -/
def Timed (world : World) : Prop :=
  0 < int64 (world.sw.stp.cfg.maxAge + world.sw.stp.cfg.forwardDelay)

/-- The root port accepts a configuration with the topology-change flag. -/
structure HearsChange (world : World) (src : Ptr) (frame : Bytes) (record : StpPort) :
    Prop where
  enabled : world.sw.stp.cfg.enabled = true
  rootPort : world.sw.stp.rootPort = (world.sw.entry src).id
  recorded : world.sw.stp.ports.get? (world.sw.entry src).id = some record
  role : record.role = .root
  config : Switch.isConfig frame = true
  accepts : record.accepts (Switch.configVector (Switch.bpduBody frame)) = true
  flag : byteAt (Switch.bpduBody frame) 4 &&& 0x01 ≠ 0

/-- Hearing the flag does not start the bridge's own announcement, unless the bridge
turns root by it. -/
theorem HearsChange.tcWhile {world : World} (hreached : world.Reached) {src : Ptr}
    {frame : Bytes} {record : StpPort} (h : world.HearsChange src frame record) (env : Env) :
    ((world.sw.hears (world.sw.entry src).id record frame).Backed →
        (handleBPDU env world.sw src frame).1.stp.tcWhile = world.sw.stp.tcWhile) ∧
      (¬ (world.sw.hears (world.sw.entry src).id record frame).Backed →
        (handleBPDU env world.sw src frame).1.stp.tcWhile =
          int64 (world.sw.stp.cfg.maxAge + world.sw.stp.cfg.forwardDelay)) := by
  obtain ⟨hbpdu, hconfig, hlong⟩ := isConfig_iff.mp h.config
  rw [handleBPDU_of_config env h.enabled h.recorded hconfig hlong, handleConfig,
    (acknowledge_standing _ _ _).2.1, storeInfo_eq, if_pos h.accepts]
  have hon : (world.sw.hears (world.sw.entry src).id record
      frame).stp.cfg.enabled = true := h.enabled
  constructor
  · intro hbacked
    have hnameless := nameless_hears hreached.nameless h.recorded frame
    have hroot := rootPort_recompute_of_backed env hon hnameless hbacked
    exact (recompute_notices env hon).2.2.1.resolve_right fun hends => hroot hends.1
  · intro hlost
    have hheard := get?_hears world.sw (world.sw.entry src).id
      (world.sw.entry src).id record frame
    rw [if_pos rfl] at hheard
    exact tcWhile_of_lost_root hon hlost hheard h.role

end World

end GvSwitch.SwitchCore
