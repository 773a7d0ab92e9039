import GvSwitch.SwitchCore.Bridge
import GvSwitch.SwitchCore.SpanningTree

/-!
# What the bridge knows after a tick

A tick brings the table in line with the ports and computes the tree anew only
if stored information expires.  If the table is in line already and no
resynchronisation is pending, what the bridge knows after the tick is what it
would compute.
-/

namespace GvSwitch.SwitchCore

open Foundation

variable {sw after before : Switch} {record' record : StpPort} {id : String}

namespace Switch

/-! ## The condition -/

/-- `resyncPortsLocked` finds nothing to do. -/
def InSync (sw : Switch) : Prop :=
  (∀ id, sw.participates id = true → (sw.stp.ports.get? id).isSome = true) ∧
    ∀ id record, sw.stp.ports.get? id = some record →
      sw.withdraws id record = false

theorem inSync_iff (sw : Switch) : sw.InSync ↔
    (∀ id ∈ sw.ports.keys, sw.participates id = true →
      (sw.stp.ports.get? id).isSome = true) ∧
    ∀ port ∈ sw.stp.ports.entries, sw.withdraws port.1 port.2 = false := by
  refine and_congr ⟨fun h id _ => h id, fun h id hin => h id ?_ hin⟩
    ⟨fun h port hm => h port.1 port.2 ((GoMap.get?_eq_some_iff _ _ _).mpr hm),
      fun h id record hr => h (id, record) ((GoMap.get?_eq_some_iff _ _ _).mp hr)⟩
  rw [GoMap.mem_keys_iff]
  unfold participates at hin
  split at hin
  · cases hin
  · rename_i ptr hptr
    exact ⟨ptr, hptr⟩

instance (sw : Switch) : Decidable sw.InSync :=
  decidable_of_iff _ (inSync_iff sw).symm

def TicksInSync (sw : Switch) : Event → Prop
  | .op (.stpTick _) => sw.stp.cfg.enabled = true →
      sw.deferred = 0 ∧ sw.InSync
  | _ => True

/-! ## Fresh knowledge -/

/-- What the bridge knows is what it computes when it visits the ports in this
order. -/
structure FreshIn (sw : Switch) (order : List String) : Prop where
  nodup : order.Nodup
  mem : ∀ id, id ∈ order ↔ (sw.stp.ports.get? id).isSome = true
  rootID : sw.stp.rootID = (sw.selectRoot order).1.rootID
  rootCost : sw.stp.rootCost = (sw.selectRoot order).1.cost
  rootPort : sw.stp.rootPort = (sw.selectRoot order).2.getD ""
  role : ∀ id record, sw.stp.ports.get? id = some record →
    record.role = sw.computeRole (sw.selectRoot order).2 id record

def Fresh (sw : Switch) : Prop := ∃ order, sw.FreshIn order

structure SamePort (before after : Switch) (record record' : StpPort) : Prop where
  info : SameInfo record record'
  cost : after.stpPortCost record' = before.stpPortCost record
  portID : after.stpPortID record' = before.stpPortID record

structure SameOffers (before after : Switch) : Prop where
  bridgeID : after.stp.bridgeID = before.stp.bridgeID
  absent : ∀ id, before.stp.ports.get? id = none → after.stp.ports.get? id = none
  present : ∀ id record, before.stp.ports.get? id = some record →
    ∃ record', after.stp.ports.get? id = some record' ∧ SamePort before after record record'

/-- The same knowledge, up to ages and timers. -/
structure SameElection (before after : Switch) : Prop extends SameOffers before after where
  rootID : after.stp.rootID = before.stp.rootID
  rootCost : after.stp.rootCost = before.stp.rootCost
  rootPort : after.stp.rootPort = before.stp.rootPort
  role : ∀ id record record', before.stp.ports.get? id = some record →
    after.stp.ports.get? id = some record' → record'.role = record.role

theorem SamePort.of_entry (hi : SameInfo record record')
    (hcost : (after.entry record.entry).attrs.stpCost =
      (before.entry record.entry).attrs.stpCost)
    (hpriority : (after.entry record.entry).attrs.stpPriority =
      (before.entry record.entry).attrs.stpPriority)
    (hnum : (after.entry record.entry).portNum = (before.entry record.entry).portNum) :
    SamePort before after record record' := by
  refine ⟨hi, ?_, ?_⟩
  · unfold stpPortCost
    rw [hi.1, hcost]
  dsimp only [stpPortID]
  rw [hi.1, hpriority, hnum]

theorem SameBridge.samePort (h : SameBridge before after) (hi : SameInfo record record') :
    SamePort before after record record' :=
  .of_entry hi (by rw [h.attrs]) (by rw [h.attrs]) (h.portNum _)

section Offers

variable {before after : Switch} (h : SameOffers before after)

include h

theorem SameOffers.candidate (hp : SamePort before after record record') :
    after.candidate record' = before.candidate record := by
  unfold Switch.candidate
  rw [h.bridgeID, hp.cost, hp.info.2.1, hp.info.2.2]

theorem SameOffers.selectRoot (order : List String) :
    after.selectRoot order = before.selectRoot order := by
  have hstep (best : PriorityVector × Option String) (id : String) :
      after.selectStep best id = before.selectStep best id := by
    unfold selectStep
    cases hr : before.stp.ports.get? id with
    | none => rw [h.absent id hr]
    | some record =>
      obtain ⟨record', hr', hp⟩ := h.present id record hr
      rw [hr']
      dsimp only
      rw [h.candidate hp]
  have hclaim : after.ownClaim = before.ownClaim := by
    simp only [ownClaim, h.bridgeID]
  unfold Switch.selectRoot
  rw [hclaim, funext₂ hstep]

theorem SameOffers.isSome (id : String) :
    (after.stp.ports.get? id).isSome = (before.stp.ports.get? id).isSome := by
  cases hr : before.stp.ports.get? id with
  | none => rw [h.absent id hr]
  | some record =>
    obtain ⟨record', hr', -⟩ := h.present id record hr
    rw [hr']
    rfl

theorem SameOffers.origin (hr' : after.stp.ports.get? id = some record') :
    ∃ record, before.stp.ports.get? id = some record ∧
      SamePort before after record record' := by
  cases hr : before.stp.ports.get? id with
  | none =>
    simp [h.absent id hr] at hr'
  | some record =>
    obtain ⟨found, hf, hp⟩ := h.present id record hr
    rw [hr'] at hf
    cases hf
    exact ⟨record, rfl, hp⟩

end Offers

section Election

variable {before after : Switch} (h : SameElection before after)

include h

theorem SameElection.computeRole (hp : SamePort before after record record')
    (root : Option String) (id : String) :
    after.computeRole root id record' = before.computeRole root id record := by
  have hadvertised : after.advertised record' = before.advertised record := by
    simp only [advertised, h.bridgeID, h.rootID, h.rootCost, hp.portID]
  have hdes : after.designatedLocked record' = before.designatedLocked record := by
    unfold designatedLocked
    rw [hadvertised, hp.info.2.1, hp.info.2.2]
  unfold Switch.computeRole
  rw [hdes]

theorem SameElection.fresh (hfresh : before.Fresh) : after.Fresh := by
  obtain ⟨order, hfresh⟩ := hfresh
  refine ⟨order, hfresh.nodup, fun id => ?_, ?_, ?_, ?_, ?_⟩
  · rw [h.isSome]
    exact hfresh.mem id
  · rw [h.selectRoot, h.rootID]
    exact hfresh.rootID
  · rw [h.selectRoot, h.rootCost]
    exact hfresh.rootCost
  · rw [h.selectRoot, h.rootPort]
    exact hfresh.rootPort
  intro id record' hr'
  obtain ⟨record, hr, hp⟩ := h.origin hr'
  rw [h.role id record record' hr hr', h.selectRoot, h.computeRole hp]
  exact hfresh.role id record hr

end Election

/-! ## Computing the tree makes the knowledge fresh -/

theorem sameInfo_recomputed (role : Role) (state : StpState) (record : StpPort) :
    SameInfo record (recomputed role state record) :=
  ⟨rfl, rfl, rfl⟩

section Recomputed

variable (hn : Named sw) (env : Env) (henabled : sw.stp.cfg.enabled = true)

include hn henabled

theorem sameOffers_recomputeLocked : SameOffers sw (recomputeLocked env sw) := by
  have hfr := (recompute_frame hn env henabled).1
  refine ⟨hfr.bridgeID, ?_, ?_⟩
  · intro id hr
    exact get?_recompute_of_none hn env henabled hr
  intro id record hr
  have hp := hfr.toSameBridge.samePort (sameInfo_recomputed
    (electedRole env sw id record) (sw.entry record.entry).stpState record)
  exact ⟨_, (recompute_record hn env henabled hr).1, hp.info, hp.cost, hp.portID⟩

theorem fresh_recomputeLocked : (recomputeLocked env sw).Fresh := by
  have hfr := (recompute_frame hn env henabled).1
  have hoffers := sameOffers_recomputeLocked hn env henabled
  have hselects : (recomputeLocked env sw).selectRoot (env.range sw.stp.ports.keys) =
      elects env sw := hoffers.selectRoot _
  refine ⟨env.range sw.stp.ports.keys, ?_, ?_, ?_, ?_, ?_, ?_⟩
  · exact (env.range_perm _).nodup_iff.mpr sw.stp.ports.nodup
  · intro id
    rw [env.mem_range, GoMap.mem_keys_iff, hoffers.isSome, Option.isSome_iff_exists]
  · rw [hselects]
    exact hfr.rootID
  · rw [hselects]
    exact hfr.rootCost
  · rw [hselects]
    exact hfr.rootPort
  intro id record' hr'
  obtain ⟨record, hr, hp⟩ := hoffers.origin hr'
  rw [(recompute_record hn env henabled hr).1] at hr'
  cases hr'
  rw [hselects, hfr.toSameBridge.computeRole hp.info]
  rfl

theorem fresh_becomeRootLocked : (becomeRootLocked env sw).Fresh :=
  fresh_recomputeLocked hn.ownRoot env henabled

end Recomputed

theorem Fresh.settled (h : sw.Fresh) (hn : Named sw)
    (henabled : sw.stp.cfg.enabled = true) : sw.Settled := by
  obtain ⟨order, h⟩ := h
  have hperm : order.Perm sw.stp.ports.keys := by
    refine (List.perm_ext_iff_of_nodup h.nodup sw.stp.ports.nodup).mpr fun id => ?_
    rw [h.mem, Option.isSome_iff_exists]
    exact (GoMap.mem_keys_iff _ id).symm
  let env : Env :=
    { now := 0
      accept := fun _ _ => true
      range := fun keys => if keys = sw.stp.ports.keys then order else keys
      range_perm := by
        intro keys
        split
        · rename_i hkeys
          rw [hkeys]
          exact hperm
        · exact .refl keys }
  have helects : elects env sw = sw.selectRoot order := by
    unfold elects
    rw [show env.range sw.stp.ports.keys = order from if_pos rfl]
  have hfr := (recompute_frame hn env henabled).1
  rw [helects] at hfr
  refine ⟨env, hfr.rootID.trans h.rootID.symm, hfr.rootCost.trans h.rootCost.symm,
    hfr.rootPort.trans h.rootPort.symm, ?_⟩
  intro id record hr
  have hbr := sameBridge_setRoot h.rootID h.rootCost h.rootPort
  rw [(recompute_record hn env henabled hr).1, h.role id record hr,
    hbr.computeRole ⟨rfl, rfl, rfl⟩, ← helects]
  rfl

theorem hasInfo_of_selectRoot {order : List String}
    (hroot : (sw.selectRoot order).2 = some id) :
    ∃ record, sw.stp.ports.get? id = some record ∧ record.hasInfo = true := by
  obtain ⟨-, -, horigin⟩ := sw.foldl_selectStep order (sw.ownClaim, none)
  rcases horigin with hstart | ⟨other, vector, ⟨record, hr, hcand⟩, hsel⟩
  · simp [selectRoot, hstart] at hroot
  rw [selectRoot, hsel] at hroot
  cases hroot
  exact ⟨record, hr, (candidate_eq_some_iff.mp hcand).1⟩

theorem Fresh.rootPort (h : sw.Fresh) :
    sw.stp.rootPort = "" ∨ ∃ record,
      sw.stp.ports.get? sw.stp.rootPort = some record ∧ record.hasInfo = true := by
  obtain ⟨order, h⟩ := h
  rw [h.rootPort]
  cases hroot : (sw.selectRoot order).2 with
  | none => exact .inl rfl
  | some id => exact .inr (hasInfo_of_selectRoot hroot)

theorem Fresh.designated (h : sw.Fresh) (hr : sw.stp.ports.get? id = some record)
    (hi : record.hasInfo = false) : record.role = .designated := by
  obtain ⟨order, h⟩ := h
  have hnot : (sw.selectRoot order).2 ≠ some id := by
    intro hroot
    obtain ⟨found, hf, hheard⟩ := hasInfo_of_selectRoot hroot
    rw [hr] at hf
    cases hf
    simp [hi] at hheard
  rw [h.role id record hr, computeRole, if_neg hnot, designatedLocked, hi]
  rfl

/-! ## What keeps the knowledge fresh -/

theorem SameElection.of_bridge (hbr : SameBridge before after)
    (habsent : ∀ id, before.stp.ports.get? id = none → after.stp.ports.get? id = none)
    (hpres : ∀ id record, before.stp.ports.get? id = some record →
      ∃ record', after.stp.ports.get? id = some record' ∧ SameInfo record record' ∧
        record'.role = record.role) : SameElection before after := by
  refine ⟨⟨hbr.bridgeID, habsent, ?_⟩, hbr.rootID, hbr.rootCost, hbr.rootPort, ?_⟩
  · intro id record hr
    obtain ⟨record', hr', hi, -⟩ := hpres id record hr
    exact ⟨record', hr', hbr.samePort hi⟩
  intro id record found hr hf
  obtain ⟨record', hr', -, hrole⟩ := hpres id record hr
  rw [hf] at hr'
  cases hr'
  exact hrole

theorem AllAgree.sameElection (h : AllAgree before after) : SameElection before after :=
  .of_bridge (h "").toSameBridge (fun id hr => (h id).record.trans hr)
    fun id record hr => ⟨record, (h id).record.trans hr, ⟨rfl, rfl, rfl⟩, rfl⟩

theorem Spares.sameElection (h : Spares before after) : SameElection before after := by
  have hcost {α : Type} (field : CheckedAttrs → α)
      (hdisable : ∀ attrs, field attrs.disable = field attrs) (ptr : Ptr) :
      field (after.entry ptr).attrs = field (before.entry ptr).attrs := by
    rcases h.attrs ptr with hs | hshut
    · rw [hs]
    · rw [hshut, hdisable]
  have hstp := h.stp
  refine ⟨⟨by rw [hstp], fun id hr => by rw [hstp, hr], ?_⟩, by rw [hstp],
    by rw [hstp], by rw [hstp], ?_⟩
  · intro id record hr
    exact ⟨record, by rw [hstp, hr], .of_entry ⟨rfl, rfl, rfl⟩
      (hcost (·.stpCost) (fun _ => rfl) _) (hcost (·.stpPriority) (fun _ => rfl) _)
      (h.portNum _)⟩
  · intro id record record' hr hr'
    rw [hstp, hr] at hr'
    cases hr'
    rfl

theorem sameElection_portDown (sw : Switch) (id : String) (ptr : Ptr) :
    SameElection sw ((sw.unregister id ptr).portDown id) := by
  have hfield {α : Type} (field : PortEntry → α)
      (hgone : ∀ entry : PortEntry, field { entry with gone := true } = field entry)
      (other : Ptr) : field (((sw.unregister id ptr).portDown id).entry other) =
        field (sw.entry other) :=
    entry_modify_field field { sw with ports := sw.ports.erase id } ptr other
      (fun entry => { entry with gone := true }) hgone
  refine .of_bridge ⟨rfl, rfl, rfl, rfl, rfl, hfield (·.attrs) fun _ => rfl,
    hfield (·.portNum) fun _ => rfl⟩ (fun _ hr => hr) ?_
  exact fun _ record hr => ⟨record, hr, ⟨rfl, rfl, rfl⟩, rfl⟩

theorem sameElection_climb (hn : Named sw) (env : Env) (dt : Int) :
    SameElection sw (climb env sw dt) := by
  refine .of_bridge (climb_frame hn env dt).1.toSameBridge
    (fun _ hr => get?_climb_of_none hn env dt hr) ?_
  intro id record hr
  obtain ⟨record', hr', hprog⟩ := climb_record hn env dt hr
  obtain ⟨timer, rfl⟩ := hprog.record_eq
  exact ⟨_, hr', ⟨rfl, rfl, rfl⟩, rfl⟩

/-- Ageing matters only if information expires. -/
theorem sameElection_aged (hn : Named sw) (env : Env) (dt : Int)
    (hlasts : (aged env sw dt).2 = false) : SameElection sw (aged env sw dt).1 := by
  refine .of_bridge (aged_frame hn env dt).1.toSameBridge
    (fun _ hr => get?_aged_of_none hn env dt hr) ?_
  intro id record hr
  have hkept : expires sw.stp.cfg dt record = false := by
    rw [← Bool.not_eq_true]
    intro hexp
    simp [(aged_snd hn env dt).mpr ⟨id, record, hr, hexp⟩] at hlasts
  refine ⟨_, (aged_record hn env dt hr).1, ?_⟩
  unfold agedRecord
  split
  · rename_i hi
    rw [expires, hi, Bool.true_and, decide_eq_false_iff_not, Int.not_le] at hkept
    exact ⟨⟨rfl, by rw [hi]; exact decide_eq_true hkept, rfl⟩, rfl⟩
  · exact ⟨⟨rfl, rfl, rfl⟩, rfl⟩

theorem InSync.allAgree (h : sw.InSync) (hn : Named sw) (env : Env) :
    AllAgree sw (resyncPortsLocked env sw) := by
  intro id
  cases hr : sw.stp.ports.get? id with
  | some record => exact agree_resync_of_kept hn env hr (h.2 id record hr)
  | none =>
    refine agree_resync_of_absent hn env hr ?_
    rw [← Bool.not_eq_true]
    intro hpart
    have hsome := h.1 id hpart
    simp [hr] at hsome

theorem fresh_tickLocked (hn : Named sw) (hsync : sw.InSync)
    (hfresh : sw.Fresh) (henabled : sw.stp.cfg.enabled = true) (env : Env)
    (dt : Int) : (tickLocked env sw dt).1.Fresh := by
  have hagree := hsync.allAgree hn env
  have hnamed₁ := (touches_resync hn env).2
  have hsynced := hagree.sameElection.fresh hfresh
  have hon : (resyncPortsLocked env sw).stp.cfg.enabled = true := by
    rw [(hagree "").cfg]
    exact henabled
  have hnamed₂ := (retains_ageOut hnamed₁ env dt).named hnamed₁
  have haged : (ageOut env (resyncPortsLocked env sw) dt).Fresh := by
    have hfr := aged_frame hnamed₁ env dt
    dsimp only [ageOut]
    split
    · exact fresh_recomputeLocked hfr.2 env (by rw [hfr.1.cfg]; exact hon)
    · rename_i hlasts
      exact (sameElection_aged hnamed₁ env dt (Bool.eq_false_iff.mpr hlasts)).fresh hsynced
  have hclimb := (sameElection_climb hnamed₂ env dt).fresh haged
  obtain ⟨order, hclimb⟩ := hclimb
  dsimp only [tickLocked]
  split
  · exact ⟨order, hclimb.nodup, hclimb.mem, hclimb.rootID, hclimb.rootCost,
      hclimb.rootPort, hclimb.role⟩
  · exact ⟨order, hclimb.nodup, hclimb.mem, hclimb.rootID, hclimb.rootCost,
      hclimb.rootPort, hclimb.role⟩

/-! ## Every event -/

def Informed (sw : Switch) : Prop :=
  sw.stp.cfg.enabled = true → sw.deferred = 0 → sw.Fresh

theorem SameElection.informed (h : SameElection before after)
    (henabled : after.stp.cfg.enabled = before.stp.cfg.enabled)
    (hdeferred : after.deferred = before.deferred) (hinformed : before.Informed) :
    after.Informed := by
  intro hon hnone
  rw [henabled] at hon
  rw [hdeferred] at hnone
  exact h.fresh (hinformed hon hnone)

section Events

variable {sw : Switch} (h : Informed sw) (htab : Tabled sw)

include htab

include h

theorem Informed.handleBPDU (env : Env) (src : Ptr) (frame : Bytes) :
    Informed (handleBPDU env sw src frame).1 := by
  rcases handleBPDU_cases env sw src frame with hagree |
    ⟨record, info, age, henabled, hr, hstored⟩
  · exact hagree.sameElection.informed (by rw [(hagree "").cfg]) (hagree "").deferred h
  intro _ _
  have htouch : Touches (sw.entry src).id sw
      (sw.setStpPort (sw.entry src).id (heardRecord record info age)) :=
    touches_setStpPort htab.toNamed (htab.record _ record hr)
  exact hstored.sameElection.fresh (fresh_recomputeLocked htouch.named env henabled)

theorem Informed.stpTick (env : Env) (dt : Int)
    (hticks : sw.TicksInSync (.op (.stpTick dt))) : Informed (stpTick env sw dt).1 := by
  unfold Switch.stpTick
  split
  · rename_i henabled
    obtain ⟨hnone, hsync⟩ := hticks henabled
    exact fun _ _ => fresh_tickLocked htab.toNamed hsync (h henabled hnone) henabled env dt
  · exact h

theorem Informed.effect {env : Env} {event : Event} (heff : BridgeEffect env sw event after)
    (hticks : sw.TicksInSync event) : Informed after := by
  cases heff with
  | spares hspare =>
    exact hspare.sameElection.informed (by rw [hspare.stp]) hspare.deferred h
  | adds _ | updates _ => exact fun _ hnone => absurd hnone (Nat.succ_ne_zero _)
  | removes _ => exact (sameElection_portDown sw _ _).informed rfl rfl h
  | configures cfg =>
    intro hon _
    cases henabled : cfg.enabled with
    | false =>
      rw [setSTPConfig_of_disabled env sw henabled,
        show (sw.configured cfg).stp.cfg.enabled = cfg.enabled from rfl, henabled] at hon
      cases hon
    | true =>
      obtain ⟨hfr, hn⟩ := touches_resync (htab.toNamed.configured cfg) env
      rw [setSTPConfig_of_enabled env sw henabled]
      exact fresh_becomeRootLocked hn env (by rw [hfr.cfg]; exact henabled)
  | resyncs =>
    rw [runDeferred_eq]
    split
    · rename_i henabled
      intro _ _
      obtain ⟨hfr, hn⟩ := touches_resync htab.toNamed.popped env
      exact fresh_recomputeLocked hn env (by rw [hfr.cfg]; exact henabled)
    · rename_i hoff
      exact fun hon => absurd hon hoff
  | ticks dt => exact h.stpTick htab env dt hticks
  | hears _ hcnt =>
    have hinformed := hcnt.sameElection.informed (by rw [hcnt.stp]) hcnt.deferred h
    exact hinformed.handleBPDU (hcnt.retains.tabled htab) env _ _

end Events

/-- The tree the bridge knows is the one it would compute. -/
structure KnowsTree (sw : Switch) : Prop where
  settled : sw.Settled
  rootPort : sw.stp.rootPort = "" ∨ ∃ record,
    sw.stp.ports.get? sw.stp.rootPort = some record ∧ record.hasInfo = true
  silent : ∀ id record, sw.stp.ports.get? id = some record → record.hasInfo = false →
    record.role = .designated

end Switch

/-! ## Whole runs -/

namespace World

def TicksInSync (world : World) (label : Env × Event) : Prop :=
  world.sw.TicksInSync label.2

/-- In every run whose ticks find the table in line and no resynchronisation
pending, the bridge knows its tree after each tick. -/
theorem knows_tree_after_tick {world : World}
    (h : Reachable Initial (Guarded TicksInSync Step) world) (env : Env) (dt : Int)
    (henabled : world.sw.stp.cfg.enabled = true)
    (hticks : world.TicksInSync (env, .op (.stpTick dt))) :
    (Switch.tickLocked env world.sw dt).1.KnowsTree := by
  have hinformed : world.sw.Informed := by
    refine switch_invariant (fun _ => nofun) ?_ h
    intro world hreach hworld env event hticks
    exact hworld.effect hreach.tabled (world.bridgeEffect env event) hticks
  have htab := Reached.tabled (h.mono fun _ _ _ hstep => hstep.2)
  obtain ⟨hnone, hsync⟩ := hticks henabled
  have hretains := Switch.retains_tickLocked htab.toNamed env dt
  obtain ⟨hfr, hsynced⟩ := Switch.touches_resync htab.toNamed env
  have hfresh := Switch.fresh_tickLocked htab.toNamed hsync (hinformed henabled hnone)
    henabled env dt
  have hon : (Switch.tickLocked env world.sw dt).1.stp.cfg.enabled = true := by
    rw [hretains.enabled, hfr.cfg]
    exact henabled
  exact ⟨hfresh.settled (hretains.named hsynced) hon, hfresh.rootPort,
    fun _ _ hr hi => hfresh.designated hr hi⟩

/-! ## A tree that stays known and trees that go stale -/

/-- A configuration BPDU that the bridge with identifier 1, claiming to be the
root, sends from one of its ports. -/
def rootHello (number : UInt8) : Bytes :=
  bpduDstMAC.toList ++ [0x02, 0, 0, 0, 0, 9, 0, 38, 0x42, 0x42, 0x03, 0, 0, 0, 0, 0,
    0, 0, 0, 0, 0, 0, 0, 1, 0, 0, 0, 0, 0, 0, 0, 0, 0, 0, 0, 1, 0x80, number,
    0, 0, 20, 0, 2, 0, 15, 0]

def rootHeard : World :=
  (start 7).run (steadyEnv 1) [
    .op (.addPort ⟨"a", 1⟩ { stp := true }),
    .op .runDeferred,
    .op (.setSTPConfig { defaultStpConfig with enabled := true }),
    .op (.deliver "a" (rootHello 1))]

theorem knows_tree_after_tick_heard :
    (Switch.tickLocked (steadyEnv 2) rootHeard.sw second).1.stp.rootPort = "a" ∧
      (Switch.tickLocked (steadyEnv 2) rootHeard.sw second).1.KnowsTree := by
  refine ⟨by decide, knows_tree_after_tick ?_ _ _ (by decide) fun _ => by decide⟩
  exact reachable_run (.start ⟨7, rfl⟩) _ ⟨trivial, trivial, trivial, trivial, trivial⟩

/-- Port `a` is added and the tick comes before the scheduled resynchronisation. -/
def portAdded : World :=
  (start 7).run (steadyEnv 1) [
    .op (.setSTPConfig { defaultStpConfig with enabled := true }),
    .op (.addPort ⟨"a", 1⟩ { stp := true })]

/-- After the root port is removed a tick leaves it the root port, and a port a
tick enrols is blocked although it has heard nothing. -/
theorem tree_goes_stale :
    (∃ world : World, world.Reached ∧ world.sw.deferred = 0 ∧
      world.sw.stp.cfg.enabled = true ∧
      ¬ (Switch.tickLocked (steadyEnv 2) world.sw second).1.KnowsTree) ∧
    ∃ world : World, world.Reached ∧ world.sw.stp.cfg.enabled = true ∧
      ¬ (Switch.tickLocked (steadyEnv 2) world.sw second).1.KnowsTree := by
  constructor
  · refine ⟨(rootHeard.step (steadyEnv 1) (.op (.removePort "a"))).1, ?_, by decide,
      by decide, fun h => ?_⟩
    · exact .next ((reached_start 7).run (steadyEnv 1) _)
        (show World.Step rootHeard (steadyEnv 1, .op (.removePort "a")) _ from rfl)
    · rcases h.rootPort with hempty | ⟨record, hr, -⟩
      · exact absurd hempty (by decide)
      · exact absurd (Option.isSome_of_mem hr) (by decide)
  · refine ⟨portAdded, (reached_start 7).run (steadyEnv 1) _, by decide, fun h => ?_⟩
    have hrole := h.silent "a" { entry := 0, role := .blocked } (by decide) rfl
    cases hrole

end World

end GvSwitch.SwitchCore
