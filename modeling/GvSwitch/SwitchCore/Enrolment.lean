import GvSwitch.SwitchCore.Bridge

/-!
# Ports outside the tree

An entry starts in the forwarding state and is enrolled later, by a goroutine or
a tick.  Until then a participating port forwards outside the tree.  If ports
come to participate only while the protocol is off, or while the table already
holds their record, every participating port is on the tree.
-/

namespace GvSwitch.SwitchCore

open Foundation

variable {ptr : Ptr} {id : String} {sw : Switch}

namespace Switch

/-! ## The property and the condition -/

/-- A participating port that forwards is on the tree. -/
def ForwardsOnTree (sw : Switch) : Prop :=
  sw.stp.cfg.enabled = true → ∀ id ptr, sw.ports.get? id = some ptr →
    (sw.entry ptr).attrs.stp = true →
      (sw.entry ptr).attrs.disabled = false →
        (sw.entry ptr).stpState = .forwarding → sw.OnTree id ptr

/-- While the protocol is on, `AddPort` brings no participating port, and
`UpdatePortAttrs` makes none of a port that is not on the tree. -/
def EnrolsFirst (sw : Switch) : Event → Prop
  | .op (.addPort _ attrs) => sw.stp.cfg.enabled = true →
      attrs.stp = false ∨ attrs.disabled = true
  | .op (.updatePortAttrs id attrs) => sw.stp.cfg.enabled = true →
      attrs.stp = false ∨ attrs.disabled = true ∨
        ∃ ptr, sw.ports.get? id = some ptr ∧ sw.OnTree id ptr
  | _ => True

/-! ## The invariant -/

structure Enlisted (sw : Switch) : Prop where
  off : sw.stp.cfg.enabled = false → ∀ id, sw.stp.ports.get? id = none
  on : sw.stp.cfg.enabled = true → ∀ id ptr, sw.ports.get? id = some ptr →
    sw.participates id = true → sw.OnTree id ptr

theorem Enlisted.retains {before after : Switch} (h : Enlisted before)
    (hretains : Retains before after) : Enlisted after := by
  constructor
  · intro hoff id
    rw [hretains.enabled] at hoff
    have htable := hretains.table id
    rw [h.off hoff id] at htable
    exact Option.map_eq_none_iff.mp htable
  · intro hon id ptr hp hpart
    rw [hretains.enabled] at hon
    rw [hretains.ports] at hp
    exact (hretains.onTree_iff id ptr).mpr
      (h.on hon id ptr hp (hretains.participates id hpart))

theorem Enlisted.compatible (h : Enlisted sw) {record : StpPort}
    (hp : sw.ports.get? id = some ptr) (hpart : sw.participates id = true)
    (hr : sw.stp.ports.get? id = some record) : record.entry = ptr := by
  cases henabled : sw.stp.cfg.enabled with
  | false =>
    simp [h.off henabled id] at hr
  | true =>
    obtain ⟨found, hf, he⟩ := h.on henabled id ptr hp hpart
    rw [hr] at hf
    cases hf
    exact he

theorem participates_iff (hp : sw.ports.get? id = some ptr) :
    sw.participates id = true ↔ (sw.entry ptr).attrs.stp = true ∧
      (sw.entry ptr).attrs.disabled = false := by
  unfold participates
  rw [hp]
  simp

/-! ## Every event -/

section Events

variable {sw : Switch} (h : Enlisted sw) (htab : Tabled sw)
  (hw : WellFormed sw)

include htab hw in
/-- Once `resyncPortsLocked` has run, every participating port is on the tree. -/
theorem enlisted_resync (env : Env) (henabled : sw.stp.cfg.enabled = true)
    (hcompatible : ∀ id ptr record, sw.ports.get? id = some ptr →
      sw.participates id = true → sw.stp.ports.get? id = some record →
        record.entry = ptr) : Enlisted (resyncPortsLocked env sw) := by
  have hfr := (touches_resync htab.toNamed env).1
  constructor
  · intro hoff
    simp [hfr.cfg, henabled] at hoff
  intro _ id ptr hp hpart
  rw [hfr.ports] at hp
  rw [hfr.participates] at hpart
  have hgone := (hw.registered id ptr hp).2.2.1
  cases hr : sw.stp.ports.get? id with
  | none =>
    have hfresh := resync_of_fresh htab.toNamed env hr hp hpart hgone
    exact ⟨_, hfresh.1, rfl⟩
  | some record =>
    have he := hcompatible id ptr record hp hpart hr
    have hkept : sw.withdraws id record = false := by
      rw [withdraws, hpart, he, hgone]
      rfl
    have hagree := agree_resync_of_kept htab.toNamed env hr hkept
    exact ⟨record, hagree.record.trans hr, he⟩

include h

include hw in
theorem Enlisted.register {port : Port} {attrs : CheckedAttrs}
    (hfst : sw.EnrolsFirst (.op (.addPort port attrs.toPortAttrs))) :
    Enlisted (sw.register port attrs) := by
  refine ⟨h.off, fun hon id ptr hp hpart => ?_⟩
  have hattrs := (participates_iff hp).mp hpart
  rw [get?_register] at hp
  rw [entry_register] at hattrs
  split at hp
  · cases hp
    rw [if_pos rfl] at hattrs
    rcases hfst hon with hstp | hdisabled
    · rw [hattrs.1] at hstp
      cases hstp
    · rw [hattrs.2] at hdisabled
      cases hdisabled
  · rw [if_neg (Nat.ne_of_lt (hw.lt_next hp))] at hattrs
    exact h.on hon id ptr hp ((participates_iff hp).mpr hattrs)

theorem Enlisted.portDown : Enlisted ((sw.unregister id ptr).portDown id) := by
  refine ⟨h.off, fun hon other target hp hpart => ?_⟩
  have hattrs := (participates_iff hp).mp hpart
  have hs : (((sw.unregister id ptr).portDown id).entry target).attrs =
      (sw.entry target).attrs :=
    entry_modify_field (·.attrs) { sw with ports := sw.ports.erase id } ptr
      target (fun entry => { entry with gone := true }) fun _ => rfl
  have hports : ((sw.unregister id ptr).portDown id).ports = sw.ports.erase id := rfl
  rw [hports, GoMap.get?_erase] at hp
  rw [hs] at hattrs
  split at hp
  · cases hp
  · exact h.on hon other target hp ((participates_iff hp).mpr hattrs)

include hw in
theorem Enlisted.writeAttrs {attrs : CheckedAttrs} {fdb : Fdb}
    (hp : sw.ports.get? id = some ptr)
    (hfst : sw.EnrolsFirst (.op (.updatePortAttrs id attrs.toPortAttrs))) :
    Enlisted { sw.writeAttrs ptr attrs with fdb := fdb } := by
  refine ⟨h.off, fun hon other target htgt hpart => ?_⟩
  have hattrs := (participates_iff htgt).mp hpart
  by_cases ho : target = ptr
  · subst ho
    have hwritten : ({ sw.writeAttrs target attrs with fdb := fdb }.entry target).attrs =
        attrs := by
      have hself := entry_modify_self sw target fun entry =>
        { entry with
          attrs := attrs
          blockReason := if entry.attrs.disabled && !attrs.disabled then none
            else entry.blockReason }
      exact congrArg (·.attrs) hself
    have hid : other = id := by
      rw [← (hw.registered other target htgt).1, (hw.registered id target hp).1]
    subst hid
    rw [hwritten] at hattrs
    rcases hfst hon with hstp | hdisabled | ⟨found, hf, hontree⟩
    · simp [hattrs.1] at hstp
    · simp [hattrs.2] at hdisabled
    rw [hp] at hf
    cases hf
    exact hontree
  · have hs : { sw.writeAttrs ptr attrs with fdb := fdb }.entry target =
        sw.entry target := entry_writeAttrs_of_ne sw attrs ho
    have hold : sw.ports.get? other = some target := htgt
    rw [hs] at hattrs
    exact h.on hon other target hold ((participates_iff hold).mpr hattrs)

include htab hw

theorem Enlisted.runDeferred (env : Env) : Enlisted (runDeferred env sw) := by
  have hpopped : Enlisted sw.popped := ⟨h.off, h.on⟩
  rw [runDeferred_eq]
  split
  · rename_i henabled
    have hsync := enlisted_resync htab.popped hw.popped env henabled
      fun _ _ _ hp hpart hr => hpopped.compatible hp hpart hr
    exact hsync.retains
      (retains_recomputeLocked (touches_resync htab.toNamed.popped env).2 env)
  · exact hpopped

theorem Enlisted.stpTick (env : Env) (dt : Int) : Enlisted (stpTick env sw dt).1 := by
  unfold Switch.stpTick
  split
  · rename_i henabled
    have hsync := enlisted_resync htab hw env henabled
      fun _ _ _ hp hpart hr => h.compatible hp hpart hr
    exact hsync.retains (retains_tickLocked htab.toNamed env dt)
  · exact h

theorem Enlisted.setSTPConfig (env : Env) (cfg : StpConfig) :
    Enlisted (setSTPConfig env sw cfg) := by
  cases henabled : cfg.enabled with
  | false =>
    have hbr := setSTPConfig_of_disabled env sw henabled
    constructor
    · intro _ id
      rw [hbr]
      rfl
    intro hon
    rw [hbr] at hon
    rw [show (sw.configured cfg).stp.cfg.enabled = cfg.enabled from rfl, henabled] at hon
    cases hon
  | true =>
    have hcfg := htab.configured cfg
    have hsync := enlisted_resync hcfg (hw.configured cfg) env henabled
      fun _ _ _ hp hpart hr => h.compatible hp hpart hr
    rw [setSTPConfig_of_enabled env sw henabled]
    exact hsync.retains (retains_becomeRootLocked (touches_resync hcfg.toNamed env).2 env)

theorem Enlisted.effect {env : Env} {event : Event} {after : Switch}
    (heff : BridgeEffect env sw event after) (hfst : sw.EnrolsFirst event) :
    Enlisted after := by
  cases heff with
  | spares hspare => exact h.retains hspare.retains
  | adds _ => exact h.register hw hfst
  | removes _ => exact h.portDown
  | updates hp => exact h.writeAttrs hw hp hfst
  | configures cfg => exact h.setSTPConfig htab hw env cfg
  | resyncs => exact h.runDeferred htab hw env
  | ticks dt => exact h.stpTick htab hw env dt
  | hears _ hcnt =>
    have hcnt' := hcnt.retains.tabled htab
    exact (h.retains hcnt.retains).retains (retains_handleBPDU hcnt'.toNamed env _ _)

end Events

theorem Enlisted.forwardsOnTree (h : Enlisted sw) : sw.ForwardsOnTree :=
  fun hon id ptr hp hstp henabled _ =>
    h.on hon id ptr hp ((participates_iff hp).mpr ⟨hstp, henabled⟩)

end Switch

/-! ## Whole runs -/

namespace World

def EnrolsFirst (world : World) (label : Env × Event) : Prop :=
  world.sw.EnrolsFirst label.2

/-- In every run in which ports come to participate only while the protocol is
off or once their record is in the table, no participating port forwards
outside the tree. -/
theorem forwards_on_tree {world : World}
    (h : Reachable Initial (Guarded EnrolsFirst Step) world) : world.sw.ForwardsOnTree := by
  refine Switch.Enlisted.forwardsOnTree (switch_invariant ?_ ?_ h)
  · intro instanceID
    exact ⟨fun _ _ => rfl, nofun⟩
  · intro world hreach hworld env event hfst
    exact hworld.effect hreach.tabled hreach.wellFormed (world.bridgeEffect env event) hfst

/-! ## A port enrolled in time and ports enrolled late -/

def earlyPort : World :=
  (start 7).run (steadyEnv 1) [
    .op (.addPort ⟨"a", 1⟩ { stp := true }),
    .op (.setSTPConfig { defaultStpConfig with enabled := true }),
    .op (.stpTick (15 * second)),
    .op (.stpTick (15 * second))]

theorem forwards_on_tree_early :
    (earlyPort.sw.entry 0).stpState = .forwarding ∧
      earlyPort.sw.ForwardsOnTree := by
  refine ⟨by decide, forwards_on_tree (reachable_run (.start ⟨7, rfl⟩) _ ?_)⟩
  exact ⟨nofun, trivial, trivial, trivial, trivial⟩

/-- The protocol is on when the port is added; later the port is removed and
added again, and every scheduled resynchronisation has run. -/
def latePort : List Event :=
  [.op (.setSTPConfig { defaultStpConfig with enabled := true }),
    .op (.addPort ⟨"a", 1⟩ { stp := true })]

def readdedPort : List Event :=
  [.op .runDeferred, .op (.removePort "a"), .op (.addPort ⟨"a", 2⟩ { stp := true }),
    .op .runDeferred]

/-- A port forwards outside the tree until it is enrolled, and one that is added
again does so even when no resynchronisation is pending. -/
theorem new_port_forwards_off_tree :
    (∃ world : World, world.Reached ∧ ¬ world.sw.ForwardsOnTree) ∧
      ∃ world : World, world.Reached ∧ world.sw.deferred = 0 ∧
        ¬ world.sw.ForwardsOnTree := by
  constructor
  · refine ⟨(start 7).run (steadyEnv 1) latePort, (reached_start 7).run _ _, fun h => ?_⟩
    obtain ⟨record, hr, -⟩ := h (by decide) "a" 0 (by decide) (by decide) (by decide)
      (by decide)
    have hnone : ((start 7).run (steadyEnv 1) latePort).sw.stp.ports.get? "a" = none := by
      decide
    rw [hnone] at hr
    cases hr
  · refine ⟨(start 7).run (steadyEnv 1) (latePort ++ readdedPort),
      (reached_start 7).run _ _, by decide, fun h => ?_⟩
    obtain ⟨record, hr, -⟩ := h (by decide) "a" 1 (by decide) (by decide) (by decide)
      (by decide)
    have hnone : ((start 7).run (steadyEnv 1)
        (latePort ++ readdedPort)).sw.stp.ports.get? "a" = none := by
      decide
    rw [hnone] at hr
    cases hr

end World

end GvSwitch.SwitchCore
