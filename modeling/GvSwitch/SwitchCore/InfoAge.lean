import GvSwitch.SwitchCore.Freshness
import GvSwitch.SwitchCore.Hearing

/-!
# The age of stored information

Stored information should be younger than the limit the bridge is configured
with.  Ticks see to that, and computing the tree changes no age.  A BPDU brings
its own age, and a configuration a new limit; neither is compared with the
other.
-/

namespace GvSwitch.SwitchCore

open Foundation Switch

namespace Switch

/-! ## The invariant -/

def YoungInfo (sw : Switch) : Prop :=
  ∀ id record, sw.stp.ports.get? id = some record → record.hasInfo = true →
    record.infoAge < sw.stp.cfg.maxAge

theorem YoungInfo.of_stp {before after : Switch} (h : before.YoungInfo)
    (hports : after.stp.ports = before.stp.ports) (hcfg : after.stp.cfg = before.stp.cfg) :
    after.YoungInfo := by
  intro id record hr hi
  rw [hports] at hr
  rw [hcfg]
  exact h id record hr hi

theorem YoungInfo.allAgree {before after : Switch} (h : before.YoungInfo)
    (hagree : AllAgree before after) : after.YoungInfo := by
  intro id record hr hi
  rw [(hagree id).record] at hr
  rw [(hagree id).cfg]
  exact h id record hr hi

section Operations

variable {sw : Switch} (h : sw.YoungInfo) (hn : Named sw)

include h hn

theorem YoungInfo.recomputeLocked (env : Env) : (recomputeLocked env sw).YoungInfo := by
  by_cases hon : sw.stp.cfg.enabled = true
  · intro id record' hr' hi
    rw [(recompute_frame hn env hon).1.cfg]
    cases hr : sw.stp.ports.get? id with
    | none =>
      simp [get?_recompute_of_none hn env hon hr] at hr'
    | some record =>
      rw [(recompute_record hn env hon hr).1] at hr'
      cases hr'
      exact h id record hr hi
  · rw [recomputeLocked_of_disabled env hon]
    exact h

theorem YoungInfo.becomeRootLocked (env : Env) : (becomeRootLocked env sw).YoungInfo := by
  have hreset : sw.ownRoot.YoungInfo := h
  exact hreset.recomputeLocked hn.ownRoot env

theorem YoungInfo.resync (hw : WellFormed sw) (env : Env) :
    (resyncPortsLocked env sw).YoungInfo := by
  intro id record hr hi
  rw [(touches_resync hn env).1.cfg]
  rcases resync_cases hn hw env hr with ⟨hold, -⟩ | ⟨-, ptr, -, rfl, -⟩
  · exact h id record hold hi
  · cases hi

omit h in
theorem youngInfo_aged (env : Env) (dt : Int) : (aged env sw dt).1.YoungInfo := by
  intro id record' hr' hi
  rw [(aged_frame hn env dt).1.cfg]
  cases hr : sw.stp.ports.get? id with
  | none =>
    simp [get?_aged_of_none hn env dt hr] at hr'
  | some record =>
    rw [(aged_record hn env dt hr).1] at hr'
    cases hr'
    unfold agedRecord at hi ⊢
    split at hi
    · rename_i hheard
      rw [if_pos hheard]
      exact of_decide_eq_true hi
    · rename_i hsilent
      exact absurd hi hsilent

theorem YoungInfo.climb (env : Env) (dt : Int) : (climb env sw dt).YoungInfo := by
  intro id record' hr' hi
  rw [(climb_frame hn env dt).1.cfg]
  cases hr : sw.stp.ports.get? id with
  | none =>
    simp [get?_climb_of_none hn env dt hr] at hr'
  | some record =>
    obtain ⟨climbed, hclimb, hprog⟩ := climb_record hn env dt hr
    obtain ⟨timer, rfl⟩ := hprog.record_eq
    rw [hclimb] at hr'
    cases hr'
    exact h id record hr hi

omit h in
theorem youngInfo_ageOut (env : Env) (dt : Int) : (ageOut env sw dt).YoungInfo := by
  have haged := youngInfo_aged hn env dt
  dsimp only [ageOut]
  split
  · exact haged.recomputeLocked (aged_frame hn env dt).2 env
  · exact haged

omit h in
theorem youngInfo_tickLocked (env : Env) (dt : Int) :
    (tickLocked env sw dt).1.YoungInfo := by
  have hsync := (touches_resync hn env).2
  have haged := youngInfo_ageOut hsync env dt
  have hn' := (retains_ageOut hsync env dt).named hsync
  obtain ⟨hports, hcfg, -⟩ := tickLocked_climb env sw dt
  exact (haged.climb hn' env dt).of_stp hports hcfg

theorem YoungInfo.hears {id : String} {record : StpPort} {frame : Bytes}
    (hr : sw.stp.ports.get? id = some record) (hage : wireAge frame < sw.stp.cfg.maxAge)
    (env : Env) : (Switch.recomputeLocked env (sw.hears id record frame)).YoungInfo := by
  refine YoungInfo.recomputeLocked ?_ (touches_hears hn hr frame).named env
  intro other found hf hi
  rw [get?_hears] at hf
  split at hf
  · cases hf
    exact hage
  · exact h other found hf hi

theorem YoungInfo.handleBPDU (env : Env) {src : Ptr} {frame : Bytes}
    (hbpdu : isBPDU (macAt frame 0) frame = true)
    (hage : ∀ record, sw.stp.ports.get? (sw.entry src).id = some record →
      isConfig frame = true → record.accepts (configVector (bpduBody frame)) = true →
      wireAge frame < sw.stp.cfg.maxAge) : (handleBPDU env sw src frame).1.YoungInfo := by
  rcases handleBPDU_moves env sw src hbpdu with
    hs | ⟨record, -, hr, ⟨-, hsignals⟩ | ⟨hconfig, hstores⟩⟩
  · rw [hs]
    exact h
  · rw [hsignals]
    exact h.allAgree fun id => agree_signalTopologyChangeLocked sw id
  rw [hstores, handleConfig, storeInfo_eq]
  refine YoungInfo.allAgree ?_ (allAgree_acknowledge _ _ _)
  split
  · rename_i haccepts
    exact h.hears hn hr (hage record hr hconfig haccepts) env
  · exact h

theorem YoungInfo.runDeferred (hw : WellFormed sw) (env : Env) :
    (runDeferred env sw).YoungInfo := by
  have hyoung : sw.popped.YoungInfo := h
  rw [runDeferred_eq]
  split
  · exact (hyoung.resync hn.popped hw.popped env).recomputeLocked
      (touches_resync hn.popped env).2 env
  · exact hyoung

omit h in
theorem youngInfo_setSTPConfig (hw : WellFormed sw) (env : Env) {cfg : StpConfig}
    (hage : cfg.enabled = true → ∀ id record, sw.stp.ports.get? id = some record →
      record.hasInfo = true → record.infoAge < (normalizeConfig cfg).maxAge) :
    (setSTPConfig env sw cfg).YoungInfo := by
  cases hon : cfg.enabled with
  | false =>
    intro id record hr
    simp [setSTPConfig_of_disabled env sw hon] at hr
  | true =>
    have hconfigured : (sw.configured cfg).YoungInfo := hage hon
    have hn' := hn.configured cfg
    have hsync := hconfigured.resync hn' (hw.configured cfg) env
    rw [setSTPConfig_of_enabled env sw hon]
    exact hsync.becomeRootLocked (touches_resync hn' env).2 env

end Operations

end Switch

/-! ## Whole runs -/

namespace World

/-- A configuration sets its limit above the ages held, and a configuration BPDU
that a port accepts is younger than the limit. -/
def bringsYoung (world : World) : Event → Bool
  | .op (.setSTPConfig cfg) => !cfg.enabled || world.sw.stp.ports.entries.all fun port =>
    !port.2.hasInfo || decide (port.2.infoAge < (Switch.normalizeConfig cfg).maxAge)
  | event =>
    match world.arrival event with
    | none => true
    | some (src, frame) =>
      match world.sw.stp.ports.get? (world.sw.entry src).id with
      | none => true
      | some record =>
        !(Switch.isConfig frame &&
            record.accepts (Switch.configVector (Switch.bpduBody frame))) ||
          decide (Switch.wireAge frame < world.sw.stp.cfg.maxAge)

theorem wireAge_of_bringsYoung {world : World} {event : Event} {src : Ptr} {frame : Bytes}
    (hyoung : world.bringsYoung event = true)
    (harrival : world.arrival event = some (src, frame)) {record : StpPort}
    (hr : world.sw.stp.ports.get? (world.sw.entry src).id = some record)
    (hconfig : isConfig frame = true)
    (haccepts : record.accepts (configVector (bpduBody frame)) = true) :
    wireAge frame < world.sw.stp.cfg.maxAge := by
  have hcheck : (!(isConfig frame &&
        record.accepts (configVector (bpduBody frame))) ||
      decide (wireAge frame < world.sw.stp.cfg.maxAge)) = true := by
    cases event with
    | op op =>
      cases op with
      | setSTPConfig cfg => cases harrival
      | _ => simpa only [bringsYoung, harrival, hr] using hyoung
    | _ => simpa only [bringsYoung, harrival, hr] using hyoung
  rw [hconfig, haccepts] at hcheck
  exact of_decide_eq_true hcheck

theorem youngInfo_step {world : World} (h : world.sw.YoungInfo) (hreached : world.Reached)
    {env : Env} {event : Event} (hyoung : world.bringsYoung event = true) :
    (world.step env event).1.sw.YoungInfo := by
  have hn := hreached.tabled.toNamed
  have hw := hreached.wellFormed
  cases world.moves env event with
  | still hstp => exact h.of_stp (by rw [hstp]) (by rw [hstp])
  | configures cfg hevent ha =>
    rw [ha]
    refine youngInfo_setSTPConfig hn hw env ?_
    intro hon id record hr hi
    rw [hevent, bringsYoung, hon, Bool.not_true, Bool.false_or, List.all_eq_true] at hyoung
    have hp := hyoung (id, record) ((GoMap.get?_eq_some_iff _ _ _).mp hr)
    rw [hi, Bool.not_true, Bool.false_or] at hp
    exact of_decide_eq_true hp
  | resyncs hevent ha =>
    rw [ha]
    exact h.runDeferred hn hw env
  | ticks dt hevent ha =>
    rw [ha]
    unfold stpTick
    split
    · exact youngInfo_tickLocked hn env dt
    · exact h
  | hears src frame harrival hbpdu hspare ha =>
    rw [ha]
    have hcnt := h.of_stp (by rw [hspare.stp]) (by rw [hspare.stp])
    refine hcnt.handleBPDU (hspare.retains.named hn) env hbpdu ?_
    intro record hr hconfig haccepts
    rw [hspare.stp, hspare.name] at hr
    exact wireAge_of_bringsYoung hyoung harrival hr hconfig haccepts

/-- In every run whose events bring no old information, stored information is
younger than the limit. -/
theorem info_younger_than_max_age {world : World}
    (h : Reachable Initial
      (Guarded (fun world label => world.bringsYoung label.2 = true) Step) world)
    {id : String} {record : StpPort} (hrecord : world.sw.stp.ports.get? id = some record)
    (hinfo : record.hasInfo = true) : record.infoAge < world.sw.stp.cfg.maxAge := by
  have hyoung : world.sw.YoungInfo := by
    refine switch_invariant ?_ ?_ h
    · intro instanceID id record hrecord
      cases hrecord
    · intro world hreached hworld env event hguard
      exact youngInfo_step hworld hreached hguard
  exact hyoung id record hrecord hinfo

theorem info_younger_than_max_age_heard :
    ∃ record, rootHeard.sw.stp.ports.get? "a" = some record ∧ record.hasInfo = true ∧
      record.infoAge < rootHeard.sw.stp.cfg.maxAge := by
  have hreach : Reachable Initial
      (Guarded (fun world label => world.bringsYoung label.2 = true) Step) rootHeard :=
    reachable_run (.start ⟨7, rfl⟩) _ (by decide)
  have hr : rootHeard.sw.stp.ports.get? "a" =
      some ⟨0, .root, true, ⟨1, 0, 1, 0x8001⟩, 0, 0⟩ := by decide
  exact ⟨_, hr, rfl, info_younger_than_max_age hreach hr rfl⟩

def agedHello (high low : UInt8) : Bytes :=
  (rootHello 1).take 44 ++ [high, low] ++ (rootHello 1).drop 46

def expiredHeard : World :=
  (start 7).run (steadyEnv 1) [
    .op (.addPort ⟨"a", 1⟩ { stp := true }),
    .op .runDeferred,
    .op (.setSTPConfig { defaultStpConfig with enabled := true }),
    .op (.deliver "a" (agedHello 0xff 0xff))]

def limitLowered : World :=
  (start 7).run (steadyEnv 1) [
    .op (.addPort ⟨"a", 1⟩ { stp := true }),
    .op .runDeferred,
    .op (.setSTPConfig { defaultStpConfig with enabled := true }),
    .op (.deliver "a" (agedHello 2 0)),
    .op (.setSTPConfig { defaultStpConfig with enabled := true, maxAge := second })]

def FollowsExpired (world : World) : Prop :=
  world.Reached ∧ world.sw.stp.cfg.enabled = true ∧ world.sw.stp.rootPort = "a" ∧
    ∃ record, world.sw.stp.ports.get? "a" = some record ∧ record.hasInfo = true ∧
      world.sw.stp.cfg.maxAge ≤ record.infoAge

theorem expired_info_elects : expiredHeard.FollowsExpired ∧ limitLowered.FollowsExpired := by
  constructor
  · exact ⟨(reached_start 7).run (steadyEnv 1) _, by decide, by decide,
      ⟨0, .root, true, ⟨1, 0, 1, 0x8001⟩, 255996093750, 0⟩, by decide, rfl, by decide⟩
  · exact ⟨(reached_start 7).run (steadyEnv 1) _, by decide, by decide,
      ⟨0, .root, true, ⟨1, 0, 1, 0x8001⟩, 2 * second, 0⟩, by decide, rfl, by decide⟩

end World

end GvSwitch.SwitchCore
