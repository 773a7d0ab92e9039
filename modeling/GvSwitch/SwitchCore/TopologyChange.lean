import GvSwitch.SwitchCore.Redundancy
import GvSwitch.SwitchCore.Hearing

/-!
# Topology changes

A root announces a change while `tcWhile` runs; any other bridge notes that a
notification is pending and sends it to the root port until it is
acknowledged.  Which of the two a bridge is can change in any computation of the
tree, and the note stays behind.
-/

namespace GvSwitch.SwitchCore

open Foundation Switch

variable (env : Env) (sw : Switch) (dt : Int)
variable {record : StpPort} {before after : Switch} {id : String}

namespace Switch

/-! ## Loops over the records -/

def RecordsOnly (before after : Switch) : Prop :=
  ∃ ports, after.stp = { before.stp with ports := ports }

theorem RecordsOnly.refl : RecordsOnly sw sw :=
  ⟨sw.stp.ports, rfl⟩

theorem RecordsOnly.trans {first second third : Switch} (h : RecordsOnly first second)
    (h' : RecordsOnly second third) : RecordsOnly first third := by
  obtain ⟨ports, hports⟩ := h
  obtain ⟨ports', hports'⟩ := h'
  exact ⟨ports', by rw [hports', hports]⟩

theorem recordsOnly_foldl {α : Type} {body : Switch → α → Switch}
    (hbody : ∀ state item, RecordsOnly state (body state item)) (items : List α)
    (sw : Switch) : RecordsOnly sw (items.foldl body sw) :=
  foldl_related RecordsOnly .refl .trans body hbody items sw

theorem recordsOnly_foldl_fst {α β : Type} {body : Switch × β → α → Switch × β}
    (hbody : ∀ state item, RecordsOnly state.1 (body state item).1) (items : List α)
    (state : Switch × β) : RecordsOnly state.1 (items.foldl body state).1 :=
  foldl_related (fun before after : Switch × β => RecordsOnly before.1 after.1)
    (fun state => .refl state.1) RecordsOnly.trans body hbody items state

theorem recordsOnly_resync : RecordsOnly sw (resyncPortsLocked env sw) := by
  refine (recordsOnly_foldl ?_ _ _).trans (recordsOnly_foldl ?_ _ _)
  · intro state id
    unfold enrol
    split
    · exact .refl state
    split
    · exact .refl state
    split
    · exact .refl state
    · exact ⟨_, rfl⟩
  · intro state id
    unfold withdraw
    split
    · exact .refl state
    split
    · exact ⟨_, rfl⟩
    · exact .refl state

theorem recordsOnly_aged : RecordsOnly sw (aged env sw dt).1 := by
  refine recordsOnly_foldl_fst ?_ _ (sw, false)
  intro state id
  unfold ageInfo
  split
  · exact .refl _
  split
  · exact .refl _
  dsimp only
  split
  · exact ⟨_, rfl⟩
  · exact ⟨_, rfl⟩

theorem recordsOnly_climb : RecordsOnly sw (climb env sw dt) := by
  refine recordsOnly_foldl ?_ _ _
  intro state id
  unfold progress
  split
  · exact .refl state
  split
  · exact .refl state
  dsimp only
  split
  · split
    · exact ⟨_, rfl⟩
    · exact ⟨_, rfl⟩
  · split
    · exact ⟨_, rfl⟩
    · exact ⟨_, rfl⟩
  · exact .refl state

theorem recordsOnly_assignRole (rootPort : Option String) (state : Switch × Bool)
    (id : String) : RecordsOnly state.1 (assignRole rootPort state id).1 := by
  unfold assignRole
  split
  · exact .refl _
  dsimp only [applyRoleLocked]
  split
  · split
    · exact ⟨_, rfl⟩
    · exact ⟨_, rfl⟩
  · split
    · exact ⟨_, rfl⟩
    · exact ⟨_, rfl⟩

/-! ## The notices of a computation -/

theorem recordsOnly_assigned :
    RecordsOnly (sw.setRoot (elects env sw)) (assigned env sw).1 :=
  recordsOnly_foldl_fst (recordsOnly_assignRole (elects env sw).2)
    (env.range sw.stp.ports.keys) (sw.setRoot (elects env sw), false)

/-- Only a bridge that is the root starts its announcement anew. -/
def Restarts (before after : Switch) : Prop :=
  after.stp.tcWhile = before.stp.tcWhile ∨ after.stp.rootPort = "" ∧
    after.stp.tcWhile = int64 (after.stp.cfg.maxAge + after.stp.cfg.forwardDelay)

/-- A computation of the tree starts an announcement if the bridge is the root
then, and notes a notification if it is not. -/
theorem recompute_notices {sw : Switch} (henabled : sw.stp.cfg.enabled = true) :
    (recomputeLocked env sw).stp.rootPort = (elects env sw).2.getD "" ∧
      ((recomputeLocked env sw).stp.rootPort = "" →
        (recomputeLocked env sw).stp.tcnPending = sw.stp.tcnPending) ∧
      Restarts sw (recomputeLocked env sw) ∧
      (recomputeLocked env sw).stp.lastHello = sw.stp.lastHello ∧
      (recomputeLocked env sw).stp.cfg = sw.stp.cfg := by
  obtain ⟨ports, hassigned⟩ := recordsOnly_assigned env sw
  rw [Restarts, recomputeLocked_of_enabled env henabled]
  split
  · dsimp only [signalTopologyChangeLocked]
    rw [hassigned]
    split
    · rename_i hroot
      exact ⟨rfl, fun _ => rfl, .inr ⟨hroot, rfl⟩, rfl, rfl⟩
    · rename_i ho
      exact ⟨rfl, fun hroot => absurd hroot ho, .inl rfl, rfl, rfl⟩
  · rw [hassigned]
    exact ⟨rfl, fun _ => rfl, .inl rfl, rfl, rfl⟩

/-! ## Who becomes the root -/

/-- The port offers a root that is better than the bridge itself. -/
def supports (sw : Switch) (record : StpPort) : Bool :=
  match sw.candidate record with
  | none => false
  | some vector => vector.better sw.ownClaim

def Backed (sw : Switch) : Prop :=
  ∃ id record, sw.stp.ports.get? id = some record ∧ sw.supports record = true

theorem supports_iff {sw : Switch} : sw.supports record = true ↔
    ∃ vector, sw.candidate record = some vector ∧
      vector.better sw.ownClaim = true := by
  unfold supports
  cases sw.candidate record with
  | none | some vector => simp

theorem elects_isSome_iff : (∃ id, (elects env sw).2 = some id) ↔ sw.Backed := by
  obtain ⟨hown, hleast, horigin⟩ := elects_spec env sw
  constructor
  · rintro ⟨id, helects⟩
    rcases horigin with hnone | ⟨other, vector, hoffers, hsome⟩
    · simp [hnone] at helects
    rw [hsome] at hown
    have hne := ne_ownClaim_of_offers hoffers
    have hlt := lt_of_le_of_ne hown fun heq => hne (PriorityVector.rank_injective heq)
    obtain ⟨record, hr, hcand⟩ := hoffers
    exact ⟨other, record, hr, supports_iff.mpr
      ⟨vector, hcand, (PriorityVector.better_iff _ _).mpr hlt⟩⟩
  · rintro ⟨id, record, hr, hsupports⟩
    obtain ⟨vector, hcand, hbetter⟩ := supports_iff.mp hsupports
    have hlt := (PriorityVector.better_iff _ _).mp hbetter
    rcases horigin with hnone | ⟨other, elected, -, hsome⟩
    · have hle := hleast id vector ⟨record, hr, hcand⟩
      rw [hnone] at hle
      exact absurd hlt (not_lt.mpr hle)
    · exact ⟨other, by rw [hsome]⟩

theorem rootPort_recompute_of_backed {sw : Switch}
    (henabled : sw.stp.cfg.enabled = true) (hnameless : sw.stp.ports.get? "" = none)
    (hbacked : sw.Backed) : (recomputeLocked env sw).stp.rootPort ≠ "" := by
  obtain ⟨id, helects⟩ := (elects_isSome_iff env sw).mpr hbacked
  obtain ⟨record, hr, -⟩ := hasInfo_of_selectRoot helects
  rw [(recompute_notices env henabled).1, helects]
  intro hempty
  rw [Option.getD_some] at hempty
  simp [hempty, hnameless] at hr

theorem SameBridge.supports (h : SameBridge before after) {record' : StpPort}
    (hi : SameInfo record record') : after.supports record' = before.supports record := by
  unfold Switch.supports candidate stpPortCost ownClaim
  rw [h.bridgeID, hi.1, hi.2.1, hi.2.2, h.attrs]

theorem Spares.supports (h : Spares before after) (record : StpPort) :
    after.supports record = before.supports record := by
  have hcost : (after.entry record.entry).attrs.stpCost =
      (before.entry record.entry).attrs.stpCost := by
    rcases h.attrs record.entry with hs | hshut
    · rw [hs]
    · rw [hshut]
      rfl
  unfold Switch.supports candidate stpPortCost ownClaim
  rw [h.stp, hcost]

/-! ## Names of records -/

theorem Retains.nameless (h : Retains before after)
    (hnone : before.stp.ports.get? "" = none) : after.stp.ports.get? "" = none := by
  have htable := h.table ""
  rw [hnone] at htable
  exact Option.map_eq_none_iff.mp htable

theorem nameless_hears {sw : Switch} (hnone : sw.stp.ports.get? "" = none)
    (hr : sw.stp.ports.get? id = some record) (frame : Bytes) :
    (sw.hears id record frame).stp.ports.get? "" = none := by
  rw [get?_hears, if_neg]
  · exact hnone
  intro hempty
  simp [← hempty, hnone] at hr

theorem nameless_resync {sw : Switch} (hn : Named sw) (hw : WellFormed sw)
    (hnone : sw.stp.ports.get? "" = none) (env : Env) :
    (resyncPortsLocked env sw).stp.ports.get? "" = none := by
  cases hr : (resyncPortsLocked env sw).stp.ports.get? "" with
  | none => rfl
  | some record =>
    rcases resync_cases hn hw env hr with ⟨hold, -⟩ | ⟨-, ptr, hp, -⟩
    · simp [hnone] at hold
    · exact absurd rfl (hw.registered "" ptr hp).2.2.2

end Switch

variable {world : World}

theorem World.Reached.nameless (h : world.Reached) : world.sw.stp.ports.get? "" = none := by
  refine World.Reached.invariant (motive := fun sw => sw.stp.ports.get? "" = none)
    (fun _ => rfl) ?_ h
  intro world hreached hnone env event
  have hn := hreached.tabled.toNamed
  have hw := hreached.wellFormed
  cases world.moves env event with
  | still hstp =>
    rw [hstp]
    exact hnone
  | configures cfg hevent ha =>
    rw [ha]
    cases henabled : cfg.enabled with
    | false =>
      rw [setSTPConfig_of_disabled env world.sw henabled]
      rfl
    | true =>
      have hn' := hn.configured cfg
      rw [setSTPConfig_of_enabled env world.sw henabled]
      exact (retains_becomeRootLocked (touches_resync hn' env).2
        env).nameless (nameless_resync hn' (hw.configured cfg) hnone env)
  | resyncs hevent ha =>
    rw [ha]
    rw [runDeferred_eq]
    split
    · exact (retains_recomputeLocked (touches_resync hn.popped env).2
        env).nameless (nameless_resync hn.popped hw.popped hnone env)
    · exact hnone
  | ticks dt hevent ha =>
    rw [ha]
    unfold stpTick
    split
    · exact (retains_tickLocked hn env dt).nameless (nameless_resync hn hw hnone env)
    · exact hnone
  | hears src frame harrival hbpdu hspare ha =>
    rw [ha]
    have hn' := hspare.retains.named hn
    exact (retains_handleBPDU hn' env src frame).nameless (hspare.retains.nameless hnone)

namespace Switch

/-! ## A root without pending notifications -/

/-- While the bridge is the root, no notification is pending. -/
def Honest (sw : Switch) : Prop :=
  sw.stp.cfg.enabled = true → sw.stp.rootPort = "" → sw.stp.tcnPending = false

theorem Honest.of_stp (h : before.Honest) (hcfg : after.stp.cfg = before.stp.cfg)
    (hroot : after.stp.rootPort = before.stp.rootPort)
    (hpend : after.stp.tcnPending = true → before.stp.tcnPending = true) :
    after.Honest := by
  intro henabled hempty
  rw [hcfg] at henabled
  rw [hroot] at hempty
  have hnone := h henabled hempty
  by_contra htrue
  simp [hpend (Bool.not_eq_false _ ▸ htrue)] at hnone

theorem honest_recomputeLocked {sw : Switch} (hnameless : sw.stp.ports.get? "" = none)
    (hbacked : sw.stp.tcnPending = true → sw.Backed) (env : Env) :
    (recomputeLocked env sw).Honest := by
  by_cases henabled : sw.stp.cfg.enabled = true
  · obtain ⟨-, hpend, -, -, -⟩ := recompute_notices env henabled
    intro _ hempty
    rw [hpend hempty]
    by_contra htrue
    exact rootPort_recompute_of_backed env henabled hnameless
      (hbacked (Bool.not_eq_false _ ▸ htrue)) hempty
  · rw [recomputeLocked_of_disabled env henabled]
    exact fun hon => absurd hon henabled

theorem honest_becomeRootLocked {sw : Switch} (hnameless : sw.stp.ports.get? "" = none)
    (hbacked : sw.stp.tcnPending = true → sw.Backed) (env : Env) :
    (becomeRootLocked env sw).Honest := by
  refine honest_recomputeLocked ?_ ?_ env
  · exact hnameless
  · exact hbacked

theorem tickLocked_standing :
    (tickLocked env sw dt).1.stp.cfg =
        (ageOut env (resyncPortsLocked env sw) dt).stp.cfg ∧
      (tickLocked env sw dt).1.stp.rootPort =
        (ageOut env (resyncPortsLocked env sw) dt).stp.rootPort ∧
      (tickLocked env sw dt).1.stp.tcnPending =
        (ageOut env (resyncPortsLocked env sw) dt).stp.tcnPending := by
  obtain ⟨ports, hclimb⟩ :=
    recordsOnly_climb env (ageOut env (resyncPortsLocked env sw) dt) dt
  dsimp only [tickLocked, hello]
  rw [hclimb]
  split
  · exact ⟨rfl, rfl, rfl⟩
  · exact ⟨rfl, rfl, rfl⟩

def keeps (sw : Switch) (test : StpPort → Bool) : Bool :=
  sw.stp.ports.entries.any fun port =>
    !sw.withdraws port.1 port.2 && test port.2

theorem keeps_iff {sw : Switch} {test : StpPort → Bool} : sw.keeps test = true ↔
    ∃ id record, sw.stp.ports.get? id = some record ∧
      sw.withdraws id record = false ∧ test record = true := by
  unfold keeps
  rw [List.any_eq_true]
  constructor
  · rintro ⟨⟨id, record⟩, hm, htest⟩
    rw [Bool.and_eq_true, Bool.not_eq_true'] at htest
    exact ⟨id, record, (GoMap.get?_eq_some_iff _ _ _).mpr hm, htest⟩
  rintro ⟨id, record, hr, hkept, htest⟩
  refine ⟨(id, record), (GoMap.get?_eq_some_iff _ _ _).mp hr, ?_⟩
  rw [hkept, htest]
  rfl

section Operations

variable {sw : Switch} (hn : Named sw) (hw : WellFormed sw)
  (hnameless : sw.stp.ports.get? "" = none)

include hn

theorem backed_resync (env : Env) (hkeeps : sw.keeps sw.supports = true) :
    (resyncPortsLocked env sw).Backed := by
  obtain ⟨id, record, hr, hkept, hsupports⟩ := keeps_iff.mp hkeeps
  have hagree := agree_resync_of_kept hn env hr hkept
  refine ⟨id, record, hagree.record.trans hr, ?_⟩
  rw [hagree.toSameBridge.supports ⟨rfl, rfl, rfl⟩]
  exact hsupports

theorem backed_aged (hr : sw.stp.ports.get? id = some record) {dt : Int}
    (hlasts : expires sw.stp.cfg dt record = false) (hsupports : sw.supports record = true)
    (env : Env) : (aged env sw dt).1.Backed := by
  obtain ⟨vector, hcand, -⟩ := supports_iff.mp hsupports
  have hi := (candidate_eq_some_iff.mp hcand).1
  have hs : SameInfo record (agedRecord sw.stp.cfg dt record) := by
    unfold agedRecord
    rw [if_pos hi]
    rw [expires, hi, Bool.true_and, decide_eq_false_iff_not, Int.not_le] at hlasts
    exact ⟨rfl, by rw [hi]; exact decide_eq_true hlasts, rfl⟩
  refine ⟨id, _, (aged_record hn env dt hr).1, ?_⟩
  rw [(aged_frame hn env dt).1.toSameBridge.supports hs]
  exact hsupports

include hw

theorem resync_kept (env : Env)
    (hr : (resyncPortsLocked env sw).stp.ports.get? id = some record)
    (hi : record.hasInfo = true) :
    sw.stp.ports.get? id = some record ∧ sw.withdraws id record = false := by
  rcases resync_cases hn hw env hr with ⟨hold, -⟩ | ⟨-, ptr, -, rfl, -⟩
  · refine ⟨hold, ?_⟩
    by_contra hwithdraws
    simp [get?_resync_of_withdraws hn env hold (Bool.not_eq_false _ ▸ hwithdraws)] at hr
  · cases hi

include hnameless

theorem honest_runDeferred (h : sw.Honest) (env : Env)
    (hkeeps : sw.stp.cfg.enabled = true → sw.stp.tcnPending = true →
      sw.keeps sw.supports = true) : (runDeferred env sw).Honest := by
  rw [runDeferred_eq]
  split
  · rename_i henabled
    refine honest_recomputeLocked (nameless_resync hn.popped hw.popped hnameless env) ?_ env
    obtain ⟨ports, hports⟩ := recordsOnly_resync env sw.popped
    rw [hports]
    exact fun hpend => backed_resync hn.popped env (hkeeps henabled hpend)
  · exact h

theorem honest_setSTPConfig (env : Env) {cfg : StpConfig}
    (hkeeps : cfg.enabled = true → sw.stp.tcnPending = true →
      sw.keeps (sw.configured cfg).supports = true) : (setSTPConfig env sw cfg).Honest := by
  cases henabled : cfg.enabled with
  | false =>
    intro hon
    rw [setSTPConfig_of_disabled env sw henabled] at hon
    simp [show (sw.configured cfg).stp.cfg.enabled = cfg.enabled from rfl, henabled] at hon
  | true =>
    have hconfigured := hn.configured cfg
    rw [setSTPConfig_of_enabled env sw henabled]
    refine honest_becomeRootLocked
      (nameless_resync hconfigured (hw.configured cfg) hnameless env) ?_ env
    obtain ⟨ports, hports⟩ := recordsOnly_resync env (sw.configured cfg)
    rw [hports]
    exact fun hpend => backed_resync hconfigured env (hkeeps henabled hpend)

theorem honest_tickLocked (h : sw.Honest) (env : Env) (dt : Int)
    (hkeeps : sw.stp.tcnPending = true →
      sw.keeps (expires sw.stp.cfg dt) = true →
      sw.keeps (fun record => !expires sw.stp.cfg dt record &&
        sw.supports record) = true) : (tickLocked env sw dt).1.Honest := by
  obtain ⟨hfr, hsync⟩ := touches_resync hn env
  have hrecords := (recordsOnly_resync env sw).trans
    (recordsOnly_aged env (resyncPortsLocked env sw) dt)
  have haged : (ageOut env (resyncPortsLocked env sw) dt).Honest := by
    change Honest (if (aged env (resyncPortsLocked env sw) dt).2 then
      recomputeLocked env (aged env (resyncPortsLocked env sw) dt).1
      else (aged env (resyncPortsLocked env sw) dt).1)
    obtain ⟨ports, hports⟩ := hrecords
    split
    · rename_i hexpired
      refine honest_recomputeLocked ((retains_aged hsync env dt).nameless
        (nameless_resync hn hw hnameless env)) ?_ env
      rw [hports]
      intro hpend
      obtain ⟨id, record, hr, hexp⟩ := (aged_snd hsync env dt).mp hexpired
      rw [hfr.cfg] at hexp
      obtain ⟨hold, hkept⟩ := resync_kept hn hw env hr (Bool.and_eq_true_iff.mp hexp).1
      obtain ⟨other, found, hf, hstays, htest⟩ := keeps_iff.mp
        (hkeeps hpend (keeps_iff.mpr ⟨id, record, hold, hkept, hexp⟩))
      rw [Bool.and_eq_true, Bool.not_eq_true'] at htest
      have hagree := agree_resync_of_kept hn env hf hstays
      refine backed_aged hsync (hagree.record.trans hf) ?_ ?_ env
      · rw [hfr.cfg]
        exact htest.1
      · rw [hagree.toSameBridge.supports ⟨rfl, rfl, rfl⟩]
        exact htest.2
    · exact h.of_stp (by rw [hports]) (by rw [hports]) fun hpend => by
        rw [hports] at hpend
        exact hpend
  obtain ⟨hcfg, hroot, hpend⟩ := tickLocked_standing env sw dt
  exact haged.of_stp hcfg hroot fun htrue => by rw [← hpend]; exact htrue

omit hn hw in
theorem honest_handleBPDU (h : sw.Honest) (env : Env) {src : Ptr} {frame : Bytes}
    (hbpdu : isBPDU (macAt frame 0) frame = true)
    (hbacked : ∀ record, sw.stp.ports.get? (sw.entry src).id = some record →
      isConfig frame = true → record.accepts (configVector (bpduBody frame)) = true →
      sw.stp.tcnPending = true →
      (sw.hears (sw.entry src).id record frame).Backed) :
    (handleBPDU env sw src frame).1.Honest := by
  rcases handleBPDU_moves env sw src hbpdu with
    hs | ⟨record, -, hr, ⟨-, hsignals⟩ | ⟨hconfig, hstores⟩⟩
  · rw [hs]
    exact h
  · rw [hsignals]
    dsimp only [signalTopologyChangeLocked]
    split
    · exact h.of_stp rfl rfl fun hpend => hpend
    · rename_i ho
      exact fun _ hroot => absurd hroot ho
  · have hstored : (storeInfo env sw (sw.entry src).id record
        (bpduBody frame)).Honest := by
      rw [storeInfo_eq]
      split
      · rename_i haccepts
        exact honest_recomputeLocked (nameless_hears hnameless hr frame)
          (hbacked record hr hconfig haccepts) env
      · exact h
    rw [hstores]
    dsimp only [handleConfig, acknowledge, fastAge]
    split <;> split <;> exact hstored.of_stp rfl rfl (by simp)

end Operations

end Switch

namespace World

/-! ## Runs that heed a pending notification -/

/-- While a notification is pending, the tree is computed anew only if a port
that stays enrolled offers a root better than the bridge itself. -/
def heedsNotice (world : World) (event : Event) : Bool :=
  !world.sw.stp.tcnPending ||
    match event with
    | .op (.setSTPConfig cfg) =>
      !cfg.enabled || world.sw.keeps (world.sw.configured cfg).supports
    | .op .runDeferred =>
      !world.sw.stp.cfg.enabled || world.sw.keeps world.sw.supports
    | .op (.stpTick dt) =>
      !world.sw.stp.cfg.enabled ||
        !world.sw.keeps (Switch.expires world.sw.stp.cfg dt) ||
        world.sw.keeps fun record =>
          !Switch.expires world.sw.stp.cfg dt record && world.sw.supports record
    | event =>
      match world.arrival event with
      | none => true
      | some (src, frame) =>
        match world.sw.stp.ports.get? (world.sw.entry src).id with
        | none => true
        | some record =>
          !(Switch.isConfig frame &&
            record.accepts (Switch.configVector (Switch.bpduBody frame))) ||
          (world.sw.hears (world.sw.entry src).id record
            frame).stp.ports.entries.any fun port => world.sw.supports port.2

theorem supported_of_heedsNotice {event : Event} {src : Ptr} {frame : Bytes}
    (hheeds : world.heedsNotice event = true) (hpend : world.sw.stp.tcnPending = true)
    (harrival : world.arrival event = some (src, frame))
    (hr : world.sw.stp.ports.get? (world.sw.entry src).id = some record)
    (hconfig : isConfig frame = true)
    (haccepts : record.accepts (configVector (bpduBody frame)) = true) :
    ∃ id found, (world.sw.hears (world.sw.entry src).id record
      frame).stp.ports.get? id = some found ∧ world.sw.supports found = true := by
  have hany : ((world.sw.hears (world.sw.entry src).id record
      frame).stp.ports.entries.any fun port => world.sw.supports port.2) = true := by
    cases event with
    | op op =>
      cases op with
      | setSTPConfig cfg | runDeferred | stpTick dt => cases harrival
      | _ => simpa only [heedsNotice, hpend, harrival, hr, hconfig, haccepts,
          Bool.and_self, Bool.not_true, Bool.false_or] using hheeds
    | _ => simpa only [heedsNotice, hpend, harrival, hr, hconfig, haccepts,
        Bool.and_self, Bool.not_true, Bool.false_or] using hheeds
  obtain ⟨⟨id, found⟩, hm, hsupports⟩ := List.any_eq_true.mp hany
  exact ⟨id, found, (GoMap.get?_eq_some_iff _ _ _).mpr hm, hsupports⟩

theorem honest_step (h : world.sw.Honest) (hreached : world.Reached) {env : Env}
    {event : Event} (hheeds : world.heedsNotice event = true) :
    (world.step env event).1.sw.Honest := by
  have hn := hreached.tabled.toNamed
  have hw := hreached.wellFormed
  have hnameless := hreached.nameless
  cases world.moves env event with
  | still hstp =>
    exact h.of_stp (by rw [hstp]) (by rw [hstp]) fun hpend => by
      rw [hstp] at hpend
      exact hpend
  | configures cfg hevent ha =>
    rw [ha]
    refine honest_setSTPConfig hn hw hnameless env ?_
    intro henabled hpend
    subst hevent
    simpa only [heedsNotice, hpend, henabled, Bool.not_true, Bool.false_or] using hheeds
  | resyncs hevent ha =>
    rw [ha]
    refine honest_runDeferred hn hw hnameless h env ?_
    intro henabled hpend
    subst hevent
    simpa only [heedsNotice, hpend, henabled, Bool.not_true, Bool.false_or] using hheeds
  | ticks dt hevent ha =>
    rw [ha]
    unfold stpTick
    split
    · rename_i henabled
      refine honest_tickLocked hn hw hnameless h env dt ?_
      intro hpend hexp
      subst hevent
      simpa only [heedsNotice, hpend, henabled, hexp, Bool.not_true,
        Bool.false_or] using hheeds
    · exact h
  | hears src frame harrival hbpdu hspare ha =>
    rw [ha]
    have hcnt : Honest (world.sw.countRx src frame.length) :=
      h.of_stp (by rw [hspare.stp]) (by rw [hspare.stp]) fun hpend => by
        rw [hspare.stp] at hpend
        exact hpend
    refine honest_handleBPDU (hspare.retains.nameless hnameless) hcnt env hbpdu ?_
    intro record hr hconfig haccepts hpend
    rw [hspare.name] at hr ⊢
    obtain ⟨id, found, hf, hsupports⟩ :=
      supported_of_heedsNotice hheeds hpend harrival hr hconfig haccepts
    refine ⟨id, found, ?_, ?_⟩
    · rw [get?_hears] at hf ⊢
      rw [hspare.stp]
      exact hf
    · rw [(sameBridge_hears _ _ _ _).supports ⟨rfl, rfl, rfl⟩, hspare.supports]
      exact hsupports

/-- In every run that heeds a pending notification, none is pending while the
bridge is the root. -/
theorem root_has_no_notice {world : World}
    (h : Reachable Initial
      (Guarded (fun world label => world.heedsNotice label.2 = true) Step) world)
    (henabled : world.sw.stp.cfg.enabled = true)
    (hroot : world.sw.stp.rootPort = "") : world.sw.stp.tcnPending = false := by
  have hhonest : world.sw.Honest := by
    refine switch_invariant (fun _ _ _ => rfl) ?_ h
    intro world hreached hworld env event hguard
    exact honest_step hworld hreached hguard
  exact hhonest henabled hroot

def flaggedHello (flags : UInt8) : Bytes :=
  (rootHello 1).take 21 ++ [flags] ++ (rootHello 1).drop 22

/-- Port `a` hears the root, the root acknowledges the notification and is not
heard of again. -/
def acknowledged : List Event := [
  .op (.addPort ⟨"a", 1⟩ { stp := true }),
  .op .runDeferred,
  .op (.setSTPConfig { defaultStpConfig with enabled := true }),
  .op (.deliver "a" (rootHello 1)),
  .op (.deliver "a" (flaggedHello 0x80)),
  .op (.stpTick (20 * second))]

theorem root_has_no_notice_acknowledged :
    ((start 7).run (steadyEnv 1) acknowledged).sw.stp.rootPort = "" ∧
      ((start 7).run (steadyEnv 1) acknowledged).sw.stp.tcnPending = false := by
  have hreach : Reachable Initial
      (Guarded (fun world label => world.heedsNotice label.2 = true) Step)
      ((start 7).run (steadyEnv 1) acknowledged) :=
    reachable_run (.start ⟨7, rfl⟩) _ (by decide)
  have hroot : ((start 7).run (steadyEnv 1) acknowledged).sw.stp.rootPort = "" := by
    decide
  exact ⟨hroot, root_has_no_notice hreach (by decide) hroot⟩

def unacknowledged : World := rootHeard.run (steadyEnv 1) [.op (.stpTick (20 * second))]

theorem notice_outlives_root_port :
    unacknowledged.Reached ∧ unacknowledged.sw.stp.cfg.enabled = true ∧
      unacknowledged.sw.stp.rootPort = "" ∧
      unacknowledged.sw.stp.tcnPending = true := by
  refine ⟨?_, by decide, by decide, by decide⟩
  exact ((reached_start 7).run (steadyEnv 1) _).run (steadyEnv 1) _

end World

end GvSwitch.SwitchCore
