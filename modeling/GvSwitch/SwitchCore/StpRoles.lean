import GvSwitch.SwitchCore.Stp
import Mathlib.Data.Prod.Lex

/-!
# What `recomputeLocked` computes

The root is the least candidate vector or the bridge's own claim, and the role
of a port follows from the root that was chosen and the information the port
holds.  The order in which the ports are visited plays no part in the roles.
-/

namespace GvSwitch.SwitchCore

open Foundation

/-! ## The order of priority vectors -/

namespace PriorityVector

def rank (vector : PriorityVector) : ℕ ×ₗ ℕ ×ₗ ℕ ×ₗ ℕ :=
  toLex (vector.rootID.toNat, toLex (vector.cost.toNat,
    toLex (vector.bridgeID.toNat, vector.portID.toNat)))

theorem rank_injective {first second : PriorityVector}
    (h : first.rank = second.rank) : first = second := by
  cases first
  cases second
  simp only [rank, EmbeddingLike.apply_eq_iff_eq, Prod.mk.injEq, UInt64.toNat_inj,
    UInt32.toNat_inj, UInt16.toNat_inj] at h
  simp [h]

theorem better_iff (first second : PriorityVector) :
    first.better second = true ↔ first.rank < second.rank := by
  simp only [rank, Prod.Lex.toLex_lt_toLex, better, ne_eq, UInt64.lt_iff_toNat_lt,
    UInt32.lt_iff_toNat_lt, UInt16.lt_iff_toNat_lt, ← UInt64.toNat_inj,
    ← UInt32.toNat_inj]
  grind

theorem not_better_iff (first second : PriorityVector) :
    first.better second = false ↔ second.rank ≤ first.rank := by
  rw [← not_lt, ← better_iff, Bool.not_eq_true]

theorem rootID_le_of_not_better {first second : PriorityVector}
    (h : first.better second = false) : second.rootID ≤ first.rootID := by
  rw [not_better_iff, rank, rank, Prod.Lex.toLex_le_toLex] at h
  rcases h with hlt | ⟨heq, -⟩
  · exact hlt.le
  · exact heq.le

end PriorityVector

/-! ## Root selection -/

namespace Switch

variable (sw : Switch)

def Offers (id : String) (vector : PriorityVector) : Prop :=
  ∃ record, sw.stp.ports.get? id = some record ∧
    sw.candidate record = some vector

theorem selectStep_cases (best : PriorityVector × Option String) (id : String) :
    (sw.selectStep best id = best ∧
        ∀ vector, sw.Offers id vector → best.1.rank ≤ vector.rank) ∨
      ∃ vector, sw.Offers id vector ∧ vector.rank < best.1.rank ∧
        sw.selectStep best id = (vector, some id) := by
  unfold selectStep
  cases hr : sw.stp.ports.get? id with
  | none =>
    refine .inl ⟨rfl, ?_⟩
    rintro vector ⟨record, hf, -⟩
    simp [hr] at hf
  | some record =>
    have hoffer (vector : PriorityVector) (hoffers : sw.Offers id vector) :
        sw.candidate record = some vector := by
      obtain ⟨found, hf, hcand⟩ := hoffers
      rw [hr] at hf
      cases hf
      exact hcand
    dsimp only
    cases hcand : sw.candidate record with
    | none =>
      refine .inl ⟨rfl, fun vector hoffers => ?_⟩
      simp [hoffer vector hoffers] at hcand
    | some vector =>
      dsimp only
      split
      · rename_i hbetter
        exact .inr ⟨vector, ⟨record, hr, hcand⟩,
          (PriorityVector.better_iff _ _).mp hbetter, rfl⟩
      rename_i hnot
      refine .inl ⟨rfl, fun other hoffers => ?_⟩
      rw [hoffer other hoffers] at hcand
      cases hcand
      exact (PriorityVector.not_better_iff _ _).mp (Bool.eq_false_iff.mpr hnot)

theorem foldl_selectStep (order : List String) (start : PriorityVector × Option String) :
    (order.foldl sw.selectStep start).1.rank ≤ start.1.rank ∧
      (∀ id ∈ order, ∀ vector, sw.Offers id vector →
        (order.foldl sw.selectStep start).1.rank ≤ vector.rank) ∧
      (order.foldl sw.selectStep start = start ∨
        ∃ id vector, sw.Offers id vector ∧
          order.foldl sw.selectStep start = (vector, some id)) := by
  induction order generalizing start with
  | nil => exact ⟨le_rfl, by simp, .inl rfl⟩
  | cons id rest ih =>
    obtain ⟨hstart, hrest, horigin⟩ := ih (sw.selectStep start id)
    rw [List.foldl_cons]
    rcases sw.selectStep_cases start id with
      ⟨hkept, hworse⟩ | ⟨vector, hoffers, hlt, htaken⟩
    · rw [hkept] at hstart hrest horigin ⊢
      refine ⟨hstart, ?_, horigin⟩
      intro other ho vector hoffers
      rcases List.mem_cons.mp ho with rfl | hm
      · exact hstart.trans (hworse vector hoffers)
      · exact hrest other hm vector hoffers
    · rw [htaken] at hstart hrest horigin ⊢
      refine ⟨hstart.trans hlt.le, ?_, ?_⟩
      · intro other ho worse hworse
        rcases List.mem_cons.mp ho with rfl | hm
        · obtain ⟨record, hr, hcand⟩ := hoffers
          obtain ⟨found, hf, hworse⟩ := hworse
          rw [hr] at hf
          cases hf
          rw [hcand] at hworse
          cases hworse
          exact hstart
        · exact hrest other hm worse hworse
      · rcases horigin with hs | hlater
        · exact .inr ⟨id, vector, hoffers, hs⟩
        · exact .inr hlater

/-- The selection over all records: the least of the offers and the bridge's own
claim. -/
theorem selectRoot_spec {order : List String} (horder : order.Perm sw.stp.ports.keys) :
    (sw.selectRoot order).1.rank ≤ sw.ownClaim.rank ∧
      (∀ id vector, sw.Offers id vector →
        (sw.selectRoot order).1.rank ≤ vector.rank) ∧
      (sw.selectRoot order = (sw.ownClaim, none) ∨
        ∃ id vector, sw.Offers id vector ∧
          sw.selectRoot order = (vector, some id)) := by
  obtain ⟨hown, hoffers, horigin⟩ := foldl_selectStep sw order (sw.ownClaim, none)
  refine ⟨hown, fun id vector hoffer => hoffers id ?_ vector hoffer, horigin⟩
  obtain ⟨record, hr, -⟩ := hoffer
  exact horder.mem_iff.mpr ((GoMap.mem_keys_iff _ _).mpr ⟨record, hr⟩)

theorem ne_ownClaim_of_offers {sw : Switch} {id : String} {vector : PriorityVector}
    (h : sw.Offers id vector) : vector ≠ sw.ownClaim := by
  obtain ⟨record, -, hcand⟩ := h
  unfold candidate at hcand
  split at hcand
  · cases hcand
  rename_i ho
  cases hcand
  intro hclaim
  rw [congrArg PriorityVector.bridgeID hclaim] at ho
  simp [ownClaim] at ho

/-! ## Roles -/

structure SameBridge (first second : Switch) : Prop where
  cfg : second.stp.cfg = first.stp.cfg
  mac : second.stp.mac = first.stp.mac
  rootID : second.stp.rootID = first.stp.rootID
  rootCost : second.stp.rootCost = first.stp.rootCost
  rootPort : second.stp.rootPort = first.stp.rootPort
  attrs : ∀ ptr, (second.entry ptr).attrs = (first.entry ptr).attrs
  portNum : ∀ ptr, (second.entry ptr).portNum = (first.entry ptr).portNum

def SameInfo (first second : StpPort) : Prop :=
  second.entry = first.entry ∧ second.hasInfo = first.hasInfo ∧ second.info = first.info

section Roles

variable {sw} {first second third : Switch}

theorem SameBridge.refl (sw : Switch) : SameBridge sw sw :=
  ⟨rfl, rfl, rfl, rfl, rfl, fun _ => rfl, fun _ => rfl⟩

theorem SameBridge.trans (h : SameBridge first second) (h' : SameBridge second third) :
    SameBridge first third :=
  ⟨h'.cfg.trans h.cfg, h'.mac.trans h.mac, h'.rootID.trans h.rootID,
    h'.rootCost.trans h.rootCost, h'.rootPort.trans h.rootPort,
    fun ptr => (h'.attrs ptr).trans (h.attrs ptr),
    fun ptr => (h'.portNum ptr).trans (h.portNum ptr)⟩

theorem sameBridge_setStpPort (sw : Switch) (id : String) (record : StpPort) :
    SameBridge sw (sw.setStpPort id record) :=
  ⟨rfl, rfl, rfl, rfl, rfl, fun _ => rfl, fun _ => rfl⟩

theorem sameBridge_setStpState (sw : Switch) (ptr : Ptr) (state : StpState) :
    SameBridge sw (sw.setStpState ptr state) :=
  ⟨rfl, rfl, rfl, rfl, rfl,
    fun other => entry_modify_field (·.attrs) sw ptr other _ fun _ => rfl,
    fun other => entry_modify_field (·.portNum) sw ptr other _ fun _ => rfl⟩

theorem SameBridge.bridgeID (h : SameBridge first second) :
    second.stp.bridgeID = first.stp.bridgeID := by
  simp only [StpBridge.bridgeID, h.cfg, h.mac]

theorem SameBridge.advertised (h : SameBridge first second) {record record' : StpPort}
    (hi : SameInfo record record') :
    second.advertised record' = first.advertised record := by
  simp only [Switch.advertised, stpPortID, h.bridgeID, h.rootID, h.rootCost, hi.1,
    h.attrs, h.portNum]

theorem SameBridge.computeRole (h : SameBridge first second) {record record' : StpPort}
    (hi : SameInfo record record') (rootPort : Option String) (id : String) :
    second.computeRole rootPort id record' = first.computeRole rootPort id record := by
  have hdes : second.designatedLocked record' = first.designatedLocked record := by
    unfold designatedLocked
    rw [h.advertised hi, hi.2.1, hi.2.2]
  unfold Switch.computeRole
  rw [hdes]

theorem applyRoleLocked_spec (sw : Switch) (id : String) (record : StpPort)
    (hr : sw.stp.ports.get? id = some record) :
    SameBridge sw (sw.applyRoleLocked id record) ∧
      (∀ other, other ≠ id →
        (sw.applyRoleLocked id record).stp.ports.get? other =
          sw.stp.ports.get? other) ∧
      ∃ record', (sw.applyRoleLocked id record).stp.ports.get? id = some record' ∧
        SameInfo record record' ∧ record'.role = record.role := by
  have hs : ∃ record', sw.stp.ports.get? id = some record' ∧
      SameInfo record record' ∧ record'.role = record.role :=
    ⟨record, hr, ⟨rfl, rfl, rfl⟩, rfl⟩
  dsimp only [applyRoleLocked]
  split
  · split
    · have hst := sameBridge_setStpState sw record.entry .blocking
      exact ⟨⟨hst.cfg, hst.mac, hst.rootID, hst.rootCost, hst.rootPort,
        hst.attrs, hst.portNum⟩, fun _ _ => rfl, hs⟩
    · exact ⟨.refl sw, fun _ _ => rfl, hs⟩
  · split
    · refine ⟨(sameBridge_setStpState _ _ _).trans (sameBridge_setStpPort _ _ _), ?_, ?_⟩
      · intro other ho
        simp only [setStpPort, GoMap.get?_set, if_neg ho]
        rfl
      · exact ⟨_, GoMap.get?_set_self _ _ _, ⟨rfl, rfl, rfl⟩, rfl⟩
    · exact ⟨.refl sw, fun _ _ => rfl, hs⟩

theorem assignRole_spec (rootPort : Option String) (state : Switch × Bool) (id : String) :
    SameBridge state.1 (assignRole rootPort state id).1 ∧
      (∀ other, other ≠ id →
        (assignRole rootPort state id).1.stp.ports.get? other =
          state.1.stp.ports.get? other) ∧
      ∀ record, state.1.stp.ports.get? id = some record →
        ∃ record', (assignRole rootPort state id).1.stp.ports.get? id = some record' ∧
          record'.role = state.1.computeRole rootPort id record := by
  unfold assignRole
  cases hr : state.1.stp.ports.get? id with
  | none => exact ⟨.refl _, fun _ _ => rfl, fun _ h => nomatch h⟩
  | some record =>
    obtain ⟨hbr, hothers, record', hr', -, hrole⟩ := applyRoleLocked_spec
      (state.1.setStpPort id
        { record with role := state.1.computeRole rootPort id record }) id _
      (GoMap.get?_set_self _ _ _)
    refine ⟨(sameBridge_setStpPort _ _ _).trans hbr, ?_, ?_⟩
    · intro other ho
      rw [hothers other ho]
      simp only [setStpPort, GoMap.get?_set, if_neg ho]
    · rintro found ⟨⟩
      exact ⟨record', hr', hrole⟩

/-- Each port gets the role it would get alone. -/
theorem foldl_assignRole (rootPort : Option String) (order : List String)
    (hnodup : order.Nodup) (state : Switch × Bool) :
    SameBridge state.1 (order.foldl (assignRole rootPort) state).1 ∧
      (∀ other, other ∉ order →
        (order.foldl (assignRole rootPort) state).1.stp.ports.get? other =
          state.1.stp.ports.get? other) ∧
      ∀ id ∈ order, ∀ record, state.1.stp.ports.get? id = some record →
        ∃ record', (order.foldl (assignRole rootPort) state).1.stp.ports.get? id =
            some record' ∧ record'.role = state.1.computeRole rootPort id record := by
  induction order generalizing state with
  | nil => exact ⟨.refl _, fun _ _ => rfl, by simp⟩
  | cons id rest ih =>
    obtain ⟨hfresh, hrest⟩ := List.nodup_cons.mp hnodup
    obtain ⟨hbr, hothers, hhead⟩ := assignRole_spec rootPort state id
    obtain ⟨hbr', hothers', htail⟩ := ih hrest (assignRole rootPort state id)
    rw [List.foldl_cons]
    refine ⟨hbr.trans hbr', ?_, ?_⟩
    · intro other ho
      rw [hothers' other (List.not_mem_of_not_mem_cons ho),
        hothers other (List.ne_of_not_mem_cons ho)]
    intro other ho record hr
    rcases List.mem_cons.mp ho with rfl | hm
    · obtain ⟨record', hr', hrole⟩ := hhead record hr
      exact ⟨record', by rw [hothers' _ hfresh, hr'], hrole⟩
    have hne : other ≠ id := fun heq => hfresh (heq ▸ hm)
    obtain ⟨record', hr', hrole⟩ := htail other hm record (by rw [hothers other hne, hr])
    exact ⟨record', hr', hrole.trans (hbr.computeRole ⟨rfl, rfl, rfl⟩ rootPort other)⟩

end Roles

/-! ## The whole computation -/

theorem recomputeLocked_spec (env : Env) (sw : Switch) (hon : sw.stp.cfg.enabled = true) :
    let best := sw.selectRoot (env.range sw.stp.ports.keys)
    SameBridge (sw.setRoot best) (recomputeLocked env sw) ∧
      ∀ id record, sw.stp.ports.get? id = some record →
        ∃ record', (recomputeLocked env sw).stp.ports.get? id = some record' ∧
          record'.role = (sw.setRoot best).computeRole best.2 id record := by
  intro best
  have hnodup := (env.range_perm _).nodup_iff.mpr sw.stp.ports.nodup
  obtain ⟨hbr, -, hroles⟩ := foldl_assignRole best.2
    (env.range sw.stp.ports.keys) hnodup (sw.setRoot best, false)
  have hroles' (id : String) (record : StpPort)
      (hr : sw.stp.ports.get? id = some record) :=
    hroles id ((env.mem_range _ _).mpr ((GoMap.mem_keys_iff _ _).mpr ⟨record, hr⟩))
      record hr
  unfold recomputeLocked
  rw [if_neg (by simp [hon])]
  dsimp only
  split
  · unfold signalTopologyChangeLocked
    split
    · exact ⟨⟨hbr.cfg, hbr.mac, hbr.rootID, hbr.rootCost,
        hbr.rootPort, hbr.attrs, hbr.portNum⟩, hroles'⟩
    · exact ⟨⟨hbr.cfg, hbr.mac, hbr.rootID, hbr.rootCost,
        hbr.rootPort, hbr.attrs, hbr.portNum⟩, hroles'⟩
  · exact ⟨hbr, hroles'⟩

end Switch

end GvSwitch.SwitchCore
