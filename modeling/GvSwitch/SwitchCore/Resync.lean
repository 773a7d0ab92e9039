import GvSwitch.SwitchCore.Enrolment

/-!
# Resynchronisation of the port table

`resyncPortsLocked` enrols every participating port that has no record under its
name, and then drops the records whose port is gone or does not participate.  A
port that was added again under the name of a removed one finds the old record:
it is not enrolled, and the old record is dropped.  An entry the table does not
point to is always in the forwarding state.
-/

namespace GvSwitch.SwitchCore

open Foundation GoMap

variable {id : String} {record : StpPort}

namespace Switch

/-! ## Entries outside the table -/

def Parked (sw : Switch) : Prop :=
  ∀ ptr, (∃ id, sw.OnTree id ptr) ∨
    (sw.entry ptr).stpState = .forwarding

section Bodies

variable {sw : Switch} (h : sw.Parked)

include h

theorem Parked.congr {after : Switch} (hports : after.stp.ports = sw.stp.ports)
    (hst : ∀ ptr, (after.entry ptr).stpState = (sw.entry ptr).stpState) : after.Parked := by
  intro ptr
  rw [hst]
  rcases h ptr with ⟨id, record, hr, he⟩ | hfwd
  · exact .inl ⟨id, record, by rw [hports, hr], he⟩
  · exact .inr hfwd

theorem Parked.setStpState (hr : sw.stp.ports.get? id = some record)
    (state : StpState) : (sw.setStpState record.entry state).Parked := by
  intro ptr
  by_cases hself : ptr = record.entry
  · exact .inl ⟨id, record, hr, hself.symm⟩
  · rw [Switch.setStpState, entry_modify_of_ne _ _ hself]
    exact h ptr

theorem Parked.setStpPort (hr : sw.stp.ports.get? id = some record) (updated : StpPort)
    (he : updated.entry = record.entry) : (sw.setStpPort id updated).Parked := by
  intro ptr
  rcases h ptr with ⟨other, found, hf, hptr⟩ | hfwd
  · by_cases hself : other = id
    · subst hself
      rw [hr] at hf
      cases hf
      exact .inl ⟨other, updated, get?_set_self _ _ _, he.trans hptr⟩
    · refine .inl ⟨other, found, ?_, hptr⟩
      simp only [Switch.setStpPort, get?_set, if_neg hself]
      exact hf
  · exact .inr hfwd

theorem Parked.enrol (id : String) : (sw.enrol id).Parked := by
  unfold Switch.enrol
  split
  · exact h
  rename_i ptr hp
  split
  · exact h
  split
  · exact h
  rename_i hnone
  -- The new record points to the entry whose state is set.
  intro other
  by_cases hself : other = ptr
  · exact .inl ⟨id, _, get?_set_self _ _ _, hself.symm⟩
  rw [Switch.setStpState, entry_modify_of_ne _ _ hself]
  rcases h other with ⟨name, found, hf, hptr⟩ | hfwd
  · refine .inl ⟨name, found, ?_, hptr⟩
    have hname : name ≠ id := by
      rintro rfl
      simp [hnone] at hf
    exact (get?_set _ _ _ _).trans ((if_neg hname).trans hf)
  · exact .inr hfwd

theorem Parked.withdraw (id : String) : (sw.withdraw id).Parked := by
  unfold Switch.withdraw
  split
  · exact h
  rename_i record hr
  split
  · intro ptr
    by_cases hself : ptr = record.entry
    · subst hself
      exact .inr (stpState_setStpState _ _ _)
    have he : ((sw.setStpState record.entry .forwarding).eraseStpPort id).entry
        ptr = sw.entry ptr :=
      entry_modify_of_ne sw (fun entry => { entry with stpState := .forwarding }) hself
    rw [he]
    rcases h ptr with ⟨name, found, hf, hptr⟩ | hfwd
    · refine .inl ⟨name, found, ?_, hptr⟩
      have hname : name ≠ id := by
        rintro rfl
        rw [hr] at hf
        cases hf
        exact hself hptr.symm
      exact (get?_erase _ _ _).trans ((if_neg hname).trans hf)
    · exact .inr hfwd
  · exact h

theorem Parked.applyRoleLocked (hr : sw.stp.ports.get? id = some record) :
    (sw.applyRoleLocked id record).Parked := by
  dsimp only [Switch.applyRoleLocked]
  split
  · split
    · exact (h.setStpState hr .blocking).congr rfl fun _ => rfl
    · exact h
  split
  · have hset := h.setStpState hr .listening
    exact hset.setStpPort hr _ rfl
  · exact h

theorem Parked.progress (dt : Int) (id : String) : (progress dt sw id).Parked := by
  unfold Switch.progress
  split
  · exact h
  rename_i record hr
  have htimer (timer : Int) :
      (sw.setStpPort id { record with stateTimer := timer }).Parked :=
    h.setStpPort hr _ rfl
  have hmove (state : StpState) : ((sw.setStpPort id
      { record with stateTimer := 0 }).setStpState record.entry state).Parked :=
    (htimer 0).setStpState (get?_set_self _ _ _) state
  split
  · exact h
  dsimp only
  split
  · split
    · exact hmove .learning
    · exact htimer _
  · split
    · exact (hmove .forwarding).congr rfl fun _ => rfl
    · exact htimer _
  · exact h

end Bodies

theorem Parked.assignRole {state : Switch × Bool} (h : state.1.Parked)
    (rootPort : Option String) (id : String) : (assignRole rootPort state id).1.Parked := by
  unfold Switch.assignRole
  split
  · exact h
  rename_i record hr
  have hset := h.setStpPort hr
    { record with role := state.1.computeRole rootPort id record } rfl
  exact hset.applyRoleLocked (get?_set_self _ _ _)

theorem Parked.ageInfo {state : Switch × Bool} (h : state.1.Parked) (dt : Int)
    (id : String) : (ageInfo dt state id).1.Parked := by
  unfold Switch.ageInfo
  split
  · exact h
  rename_i record hr
  split
  · exact h
  dsimp only
  split
  · exact h.setStpPort hr _ rfl
  · exact h.setStpPort hr _ rfl

section Operations

variable {sw : Switch} (h : sw.Parked) (env : Env)

include h

theorem Parked.resync : (resyncPortsLocked env sw).Parked := by
  have henrolled : ((env.range sw.ports.keys).foldl Switch.enrol sw).Parked :=
    List.foldlRecOn _ _ h fun _ hst id _ => hst.enrol id
  exact List.foldlRecOn _ _ henrolled fun _ hst id _ => hst.withdraw id

theorem Parked.signalTopologyChangeLocked : sw.signalTopologyChangeLocked.Parked :=
  h.congr (by unfold Switch.signalTopologyChangeLocked; dsimp only; split <;> rfl)
    fun _ => rfl

theorem Parked.recomputeLocked : (recomputeLocked env sw).Parked := by
  by_cases hon : sw.stp.cfg.enabled = true
  · have hassigned : (assigned env sw).1.Parked :=
      List.foldlRecOn (motive := fun state : Switch × Bool => state.1.Parked) _ _
        (h.congr rfl fun _ => rfl) fun _ hst id _ => hst.assignRole _ id
    rw [recomputeLocked_of_enabled env hon]
    split
    · exact hassigned.signalTopologyChangeLocked
    · exact hassigned
  · rw [recomputeLocked_of_disabled env hon]
    exact h

theorem Parked.tickLocked (dt : Int) : (tickLocked env sw dt).1.Parked := by
  have haged : (aged env (resyncPortsLocked env sw) dt).1.Parked :=
    List.foldlRecOn (motive := fun state : Switch × Bool => state.1.Parked) _ _
      (h.resync env) fun _ hst id _ => hst.ageInfo dt id
  have hageOut : (ageOut env (resyncPortsLocked env sw) dt).Parked := by
    dsimp only [ageOut]
    split
    · exact haged.recomputeLocked env
    · exact haged
  have hclimb : (climb env (ageOut env (resyncPortsLocked env sw) dt) dt).Parked :=
    List.foldlRecOn _ _ hageOut fun _ hst id _ => hst.progress dt id
  obtain ⟨hports, -, he⟩ := tickLocked_climb env sw dt
  exact hclimb.congr hports fun _ => by rw [he]

theorem Parked.handleBPDU (src : Ptr) (frame : Bytes) :
    (handleBPDU env sw src frame).1.Parked := by
  have hagree {first second : Switch} (hall : AllAgree first second) (hfst : first.Parked) :
      second.Parked := by
    intro ptr
    have hs := hall (first.entry ptr).id
    rw [hs.state ptr rfl]
    rcases hfst ptr with ⟨id, record, hr, he⟩ | hfwd
    · exact .inl ⟨id, record, (hall id).record.trans hr, he⟩
    · exact .inr hfwd
  rcases handleBPDU_cases env sw src frame with hs | ⟨record, info, age, -, hr, hstored⟩
  · exact hagree hs h
  · have hset := h.setStpPort hr (heardRecord record info age) rfl
    exact hagree hstored (hset.recomputeLocked env)

end Operations

/-! ## Switching the protocol off -/

theorem forwarding_foldl_release (sw : Switch) {order : List String} {ptr : Ptr}
    (h : (sw.entry ptr).stpState = .forwarding ∨ ∃ id ∈ order, sw.OnTree id ptr) :
    ((order.foldl release sw).entry ptr).stpState = .forwarding := by
  induction order generalizing sw with
  | nil =>
    rcases h with hfwd | ⟨id, hm, -⟩
    · exact hfwd
    · cases hm
  | cons id rest ih =>
    refine ih _ ?_
    unfold release
    cases hr : sw.stp.ports.get? id with
    | none =>
      rcases h with hfwd | ⟨other, hm, found, hf, he⟩
      · exact .inl hfwd
      rcases List.mem_cons.mp hm with rfl | hrest
      · simp [hr] at hf
      · exact .inr ⟨other, hrest, found, hf, he⟩
    | some record =>
      by_cases hself : ptr = record.entry
      · subst hself
        exact .inl (stpState_setStpState _ _ _)
      have he : (sw.setStpState record.entry .forwarding).entry ptr =
          sw.entry ptr := entry_modify_of_ne sw _ hself
      rw [he]
      rcases h with hfwd | ⟨other, hm, found, hf, hptr⟩
      · exact .inl hfwd
      rcases List.mem_cons.mp hm with rfl | hrest
      · rw [hr] at hf
        cases hf
        exact absurd hptr.symm hself
      · exact .inr ⟨other, hrest, found, hf, hptr⟩

theorem Parked.setSTPConfig {sw : Switch} (h : sw.Parked) (env : Env)
    (cfg : StpConfig) : (setSTPConfig env sw cfg).Parked := by
  have hcfg : (sw.configured cfg).Parked := h.congr rfl fun _ => rfl
  cases hon : cfg.enabled with
  | false =>
    intro ptr
    refine .inr ?_
    unfold Switch.setSTPConfig
    rw [hon]
    refine forwarding_foldl_release (sw.configured cfg) ?_
    rcases hcfg ptr with ⟨id, record, hr, he⟩ | hfwd
    · refine .inr ⟨id, (env.mem_range _ _).mpr ?_, record, hr, he⟩
      exact (mem_keys_iff _ _).mpr ⟨record, hr⟩
    · exact .inl hfwd
  | true =>
    have hroot : (resyncPortsLocked env (sw.configured cfg)).ownRoot.Parked :=
      (hcfg.resync env).congr rfl fun _ => rfl
    rw [setSTPConfig_of_enabled env sw hon]
    exact hroot.recomputeLocked env

/-! ## Every event -/

theorem Parked.effect {sw : Switch} (h : sw.Parked) {env : Env} {event : Event}
    {after : Switch} (heff : BridgeEffect env sw event after) : after.Parked := by
  cases heff with
  | spares hspare => exact h.congr (by rw [hspare.stp]) hspare.state
  | adds _ =>
    intro ptr
    rw [entry_register]
    split
    · exact .inr rfl
    · exact h ptr
  | @removes id ptr _ =>
    exact h.congr rfl fun other => entry_modify_field (·.stpState)
      { sw with ports := sw.ports.erase id } ptr other
      (fun entry => { entry with gone := true }) fun _ => rfl
  | updates _ =>
    exact h.congr rfl fun other => writeAttrs_field (·.stpState) _ _ other _ fun _ _ => rfl
  | configures cfg => exact h.setSTPConfig env cfg
  | resyncs =>
    have hpopped : sw.popped.Parked := h.congr rfl fun _ => rfl
    rw [runDeferred_eq]
    split
    · exact (hpopped.resync env).recomputeLocked env
    · exact hpopped
  | ticks dt =>
    unfold Switch.stpTick
    split
    · exact h.tickLocked env dt
    · exact h
  | hears _ hcnt =>
    have hcnt' := h.congr (by rw [hcnt.stp]) hcnt.state
    exact hcnt'.handleBPDU env _ _

end Switch

theorem World.Reached.parked {world : World} (h : world.Reached) : world.sw.Parked := by
  refine h.invariant (fun _ _ => .inr rfl) ?_
  intro world _ hparked env event
  exact hparked.effect (world.bridgeEffect env event)

/-! ## The table after a resynchronisation -/

namespace Switch

/-- Exactly the participating ports have a record, each of its current entry; a
new one starts blocking, and whoever has none forwards. -/
structure Resynced (before after : Switch) : Prop where
  table : ∀ id, (after.stp.ports.get? id).isSome = after.participates id
  current : ∀ id record, after.stp.ports.get? id = some record →
    after.ports.get? id = some record.entry
  enrolled : ∀ id record, after.stp.ports.get? id = some record →
    ¬ before.OnTree id record.entry → (after.entry record.entry).stpState = .blocking
  outside : ∀ id ptr, after.ports.get? id = some ptr →
    after.stp.ports.get? id = none → (after.entry ptr).stpState = .forwarding

/-- The table holds a record of another entry under the name of a participating
port. -/
def Superseded (sw : Switch) : Prop :=
  ∃ id ptr record, sw.ports.get? id = some ptr ∧
    sw.participates id = true ∧ sw.stp.ports.get? id = some record ∧
      record.entry ≠ ptr

section Resynced

variable {sw : Switch} (hn : Named sw) (hw : WellFormed sw) (env : Env)

theorem exists_port_of_participates (h : sw.participates id = true) :
    ∃ ptr, sw.ports.get? id = some ptr := by
  cases hp : sw.ports.get? id with
  | none => simp [participates, hp] at h
  | some ptr => exact ⟨ptr, rfl⟩

include hn

/-- The record of a superseded entry is dropped, or kept in the place of the
current one. -/
theorem not_resynced_of_superseded (h : sw.Superseded) :
    ¬ Resynced sw (resyncPortsLocked env sw) := by
  intro hsync
  obtain ⟨id, ptr, record, hp, hpart, hr, ho⟩ := h
  have hfr := (touches_resync hn env).1
  cases hwithdraws : sw.withdraws id record with
  | true =>
    have htable := hsync.table id
    simp [get?_resync_of_withdraws hn env hr hwithdraws, hfr.participates, hpart] at htable
  | false =>
    have hkept := (agree_resync_of_kept hn env hr hwithdraws).record.trans hr
    have hcur := hsync.current id record hkept
    rw [hfr.ports, hp] at hcur
    cases hcur
    exact ho rfl

include hw

theorem isSome_resync (hcur : ¬ sw.Superseded) (id : String) :
    ((resyncPortsLocked env sw).stp.ports.get? id).isSome = sw.participates id := by
  cases hpart : sw.participates id with
  | false =>
    cases hr : sw.stp.ports.get? id with
    | none =>
      rw [(agree_resync_of_absent hn env hr hpart).record, hr]
      rfl
    | some record =>
      have hwithdraws : sw.withdraws id record = true := by
        rw [withdraws, hpart]
        rfl
      rw [get?_resync_of_withdraws hn env hr hwithdraws]
      rfl
  | true =>
    obtain ⟨ptr, hp⟩ := exists_port_of_participates hpart
    have hgone := (hw.registered id ptr hp).2.2.1
    cases hr : sw.stp.ports.get? id with
    | none =>
      rw [(resync_of_fresh hn env hr hp hpart hgone).1]
      rfl
    | some record =>
      have he : record.entry = ptr := by
        by_contra ho
        exact hcur ⟨id, ptr, record, hp, hpart, hr, ho⟩
      have hkept : sw.withdraws id record = false := by
        rw [withdraws, hpart, he, hgone]
        rfl
      rw [(agree_resync_of_kept hn env hr hkept).record, hr]
      rfl

theorem resynced_of_not_superseded (hparked : sw.Parked)
    (hcur : ¬ sw.Superseded) : Resynced sw (resyncPortsLocked env sw) := by
  obtain ⟨hfr, hn'⟩ := touches_resync hn env
  have htable := isSome_resync hn hw env hcur
  refine ⟨fun id => (htable id).trans (hfr.participates id).symm, ?_, ?_, ?_⟩
  · intro id record hr
    have hpart : sw.participates id = true := by
      rw [← htable, hr]
      rfl
    rw [hfr.ports]
    rcases resync_cases hn hw env hr with ⟨hold, -⟩ | ⟨-, ptr, hp, rfl, -⟩
    · obtain ⟨ptr, hp⟩ := exists_port_of_participates hpart
      by_contra ho
      refine hcur ⟨id, ptr, record, hp, hpart, hold, fun he => ?_⟩
      exact ho (he ▸ hp)
    · exact hp
  · intro id record hr hnew
    rcases resync_cases hn hw env hr with ⟨hold, -⟩ | ⟨-, ptr, -, rfl, -, hst⟩
    · exact absurd ⟨record, hold, rfl⟩ hnew
    · exact hst
  · intro id ptr hp hnone
    rcases hparked.resync env ptr with ⟨other, record, hr, he⟩ | hfwd
    · -- A record that points to the entry would stand under the entry's name.
      have hname : other = id := by
        rw [← hn'.record other record hr, he, hn'.registered id ptr hp]
      simp [hname, hnone] at hr
    · exact hfwd

end Resynced

end Switch

/-- In every reached state the table is exact after a resynchronisation, exactly
if no participating port stands under the name of another entry's record. -/
theorem resync_exact_iff {world : World} (h : world.Reached) (env : Env) :
    Switch.Resynced world.sw (Switch.resyncPortsLocked env world.sw) ↔
      ¬ world.sw.Superseded :=
  ⟨fun hsync hsuperseded => Switch.not_resynced_of_superseded h.tabled.toNamed env
      hsuperseded hsync,
    Switch.resynced_of_not_superseded h.tabled.toNamed h.wellFormed env h.parked⟩

def World.replacedBy (id : String) : World :=
  (World.start 7).run (steadyEnv 1) [
    .op (.addPort ⟨"a", 1⟩ { stp := true }),
    .op (.setSTPConfig { defaultStpConfig with enabled := true }),
    .op (.removePort "a"),
    .op (.addPort ⟨id, 2⟩ { stp := true })]

theorem resync_exact_iff_replaced :
    (World.replacedBy "b").Reached ∧ Switch.Resynced (World.replacedBy "b").sw
      (Switch.resyncPortsLocked (steadyEnv 2) (World.replacedBy "b").sw) := by
  have hreach : (World.replacedBy "b").Reached := (World.reached_start 7).run _ _
  refine ⟨hreach, (resync_exact_iff hreach (steadyEnv 2)).mpr ?_⟩
  rintro ⟨id, ptr, record, hp, -, hr, -⟩
  have hold : ∀ name ∈ (World.replacedBy "b").sw.stp.ports.keys,
      (World.replacedBy "b").sw.ports.get? name = none := by decide
  rw [hold id ((mem_keys_iff _ _).mpr ⟨record, hr⟩)] at hp
  cases hp

/-- A port that is added again under its name participates and forwards, and has
no record after the resynchronisation. -/
theorem readded_port_not_enrolled :
    (World.replacedBy "a").Reached ∧
      (World.replacedBy "a").sw.ports.get? "a" = some 1 ∧
      (World.replacedBy "a").sw.participates "a" = true ∧
      (Switch.resyncPortsLocked (steadyEnv 2)
        (World.replacedBy "a").sw).stp.ports.get? "a" = none ∧
      ((Switch.resyncPortsLocked (steadyEnv 2)
        (World.replacedBy "a").sw).entry 1).stpState = .forwarding :=
  ⟨(World.reached_start 7).run _ _, by decide, by decide, by decide, by decide⟩

end GvSwitch.SwitchCore
