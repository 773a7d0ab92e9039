import GvSwitch.SwitchCore.Registry
import GvSwitch.SwitchCore.StpRoles

/-!
# Passes over the bridge's ports

Every loop of the spanning-tree code visits each port once, and what it does
there touches the record of that port and the state of its entry only.  So the
outcome for a port is that of the loop's body, whatever the order.
-/

namespace GvSwitch.SwitchCore.Switch

open Foundation GoMap

/-! ## What belongs to a port -/

/-- Records and registrations belong to entries of their name. -/
structure Named (sw : Switch) : Prop where
  record : ∀ id record, sw.stp.ports.get? id = some record →
    (sw.entry record.entry).id = id
  registered : ∀ id ptr, sw.ports.get? id = some ptr →
    (sw.entry ptr).id = id

structure SameFrame (before after : Switch) : Prop extends SameBridge before after where
  next : after.next = before.next
  deferred : after.deferred = before.deferred
  ports : after.ports = before.ports
  name : ∀ ptr, (after.entry ptr).id = (before.entry ptr).id
  gone : ∀ ptr, (after.entry ptr).gone = (before.entry ptr).gone

/-- The switches look the same from one port. -/
structure Agree (id : String) (first second : Switch) : Prop
    extends SameFrame first second where
  record : second.stp.ports.get? id = first.stp.ports.get? id
  state : ∀ ptr, (first.entry ptr).id = id →
    (second.entry ptr).stpState = (first.entry ptr).stpState

section Relations

variable {first second third : Switch} {id : String}

theorem SameFrame.refl (sw : Switch) : SameFrame sw sw :=
  ⟨.refl sw, rfl, rfl, rfl, fun _ => rfl, fun _ => rfl⟩

theorem SameFrame.trans (h : SameFrame first second) (h' : SameFrame second third) :
    SameFrame first third :=
  ⟨h.toSameBridge.trans h'.toSameBridge, h'.next.trans h.next,
    h'.deferred.trans h.deferred, h'.ports.trans h.ports,
    fun ptr => (h'.name ptr).trans (h.name ptr),
    fun ptr => (h'.gone ptr).trans (h.gone ptr)⟩

theorem SameFrame.participates (h : SameFrame first second) (id : String) :
    second.participates id = first.participates id := by
  unfold Switch.participates
  simp only [h.ports, h.attrs]

theorem Agree.refl (id : String) (sw : Switch) : Agree id sw sw :=
  ⟨.refl sw, rfl, fun _ _ => rfl⟩

theorem Agree.trans (h : Agree id first second) (h' : Agree id second third) :
    Agree id first third :=
  ⟨h.toSameFrame.trans h'.toSameFrame, h'.record.trans h.record, fun ptr hid =>
    (h'.state ptr ((h.name ptr).trans hid)).trans (h.state ptr hid)⟩

end Relations

/-! ## Updates of one port -/

structure Touches (id : String) (before after : Switch) : Prop where
  frame : SameFrame before after
  named : Named after
  others : ∀ other, other ≠ id → Agree other before after

variable {ptr : Ptr}

section Updates

variable {sw : Switch} {id : String}

theorem Touches.refl (hn : Named sw) (id : String) : Touches id sw sw :=
  ⟨.refl sw, hn, fun other _ => .refl other sw⟩

theorem Touches.trans {first second third : Switch} (h : Touches id first second)
    (h' : Touches id second third) : Touches id first third :=
  ⟨h.frame.trans h'.frame, h'.named, fun other ho =>
    (h.others other ho).trans (h'.others other ho)⟩

variable {record : StpPort}

theorem touches_setStpPort (hn : Named sw) (hid : (sw.entry record.entry).id = id) :
    Touches id sw (sw.setStpPort id record) := by
  have hfr : SameFrame sw (sw.setStpPort id record) :=
    ⟨sameBridge_setStpPort sw id record, rfl, rfl, rfl, fun _ => rfl, fun _ => rfl⟩
  refine ⟨hfr, ⟨?_, hn.registered⟩, fun other ho => ⟨hfr, ?_, fun _ _ => rfl⟩⟩
  · intro other found hf
    simp only [setStpPort, get?_set] at hf
    split at hf
    · rename_i ho
      cases hf
      exact hid.trans ho.symm
    · exact hn.record other found hf
  · simp only [setStpPort, get?_set, if_neg ho]

theorem touches_eraseStpPort (hn : Named sw) (id : String) :
    Touches id sw (sw.eraseStpPort id) := by
  have hfr : SameFrame sw (sw.eraseStpPort id) :=
    ⟨⟨rfl, rfl, rfl, rfl, rfl, fun _ => rfl, fun _ => rfl⟩, rfl, rfl, rfl, fun _ => rfl,
      fun _ => rfl⟩
  refine ⟨hfr, ⟨?_, hn.registered⟩, fun other ho => ⟨hfr, ?_, fun _ _ => rfl⟩⟩
  · intro other found hf
    simp only [eraseStpPort, get?_erase] at hf
    split at hf
    · cases hf
    · exact hn.record other found hf
  · simp only [eraseStpPort, get?_erase, if_neg ho]

theorem touches_setStpState (hn : Named sw) (hid : (sw.entry ptr).id = id)
    (state : StpState) : Touches id sw (sw.setStpState ptr state) := by
  have hfield {α : Type} (field : PortEntry → α) (other : Ptr)
      (hkeep : ∀ entry, field { entry with stpState := state } = field entry) :
      field ((sw.setStpState ptr state).entry other) = field (sw.entry other) :=
    entry_modify_field field sw ptr other _ hkeep
  have hfr : SameFrame sw (sw.setStpState ptr state) :=
    ⟨sameBridge_setStpState sw ptr state, rfl, rfl, rfl,
      fun other => hfield (·.id) other fun _ => rfl,
      fun other => hfield (·.gone) other fun _ => rfl⟩
  refine ⟨hfr, ⟨?_, ?_⟩, fun other ho => ⟨hfr, rfl, ?_⟩⟩
  · intro other record hr
    exact (hfr.name record.entry).trans (hn.record other record hr)
  · intro other target htgt
    exact (hfr.name target).trans (hn.registered other target htgt)
  intro target htgt
  have hne : target ≠ ptr := by
    rintro rfl
    exact ho (htgt.symm.trans hid)
  rw [setStpState, entry_modify_of_ne sw _ hne]

@[simp] theorem stpState_setStpState (sw : Switch) (ptr : Ptr) (state : StpState) :
    ((sw.setStpState ptr state).entry ptr).stpState = state := by
  rw [setStpState, entry_modify_self]

theorem touches_fdb (hn : Named sw) (id : String) (fdb : Fdb) :
    Touches id sw { sw with fdb := fdb } := by
  have hfr : SameFrame sw { sw with fdb := fdb } :=
    ⟨⟨rfl, rfl, rfl, rfl, rfl, fun _ => rfl, fun _ => rfl⟩, rfl, rfl, rfl, fun _ => rfl,
      fun _ => rfl⟩
  exact ⟨hfr, ⟨hn.record, hn.registered⟩, fun other _ => ⟨hfr, rfl, fun _ _ => rfl⟩⟩

end Updates

/-! ## The bodies of the loops -/

section Bodies

variable {sw : Switch} (hn : Named sw) (id : String)

include hn

theorem touches_enrol : Touches id sw (sw.enrol id) := by
  unfold enrol
  split
  · exact .refl hn id
  rename_i ptr hptr
  have hid := hn.registered id ptr hptr
  split
  · exact .refl hn id
  split
  · exact .refl hn id
  have hr : Touches id sw
      (sw.setStpPort id { entry := ptr, role := .blocked }) :=
    touches_setStpPort hn hid
  exact hr.trans (touches_setStpState hr.named hid .blocking)

theorem touches_withdraw : Touches id sw (sw.withdraw id) := by
  unfold withdraw
  split
  · exact .refl hn id
  rename_i record hr
  split
  · have hst := touches_setStpState hn (hn.record id record hr) .forwarding
    exact hst.trans (touches_eraseStpPort hst.named id)
  · exact .refl hn id

theorem touches_applyRoleLocked (hid : (sw.entry record.entry).id = id) :
    Touches id sw (sw.applyRoleLocked id record) := by
  dsimp only [applyRoleLocked]
  split
  · split
    · have hst := touches_setStpState hn hid .blocking
      exact hst.trans (touches_fdb hst.named id _)
    · exact .refl hn id
  · split
    · have hst := touches_setStpState hn hid .listening
      refine hst.trans (touches_setStpPort hst.named ?_)
      exact (hst.frame.name record.entry).trans hid
    · exact .refl hn id

theorem touches_progress (dt : Int) : Touches id sw (progress dt sw id) := by
  unfold progress
  split
  · exact .refl hn id
  rename_i record hr
  have hid := hn.record id record hr
  have htimer (timer : Int) :
      Touches id sw (sw.setStpPort id { record with stateTimer := timer }) :=
    touches_setStpPort hn hid
  have hmove (state : StpState) : Touches id sw ((sw.setStpPort id
      { record with stateTimer := 0 }).setStpState record.entry state) :=
    (htimer 0).trans (touches_setStpState (htimer 0).named hid state)
  split
  · exact .refl hn id
  dsimp only
  split
  · split
    · exact hmove .learning
    · exact htimer _
  · split
    · exact (hmove .forwarding).trans (touches_fdb (hmove .forwarding).named id _)
    · exact htimer _
  · exact .refl hn id

end Bodies

variable {state : Switch × Bool} {record : StpPort}

theorem touches_assignRole (hn : Named state.1) (rootPort : Option String) (id : String) :
    Touches id state.1 (assignRole rootPort state id).1 := by
  unfold assignRole
  split
  · exact .refl hn id
  rename_i record hr
  have hid := hn.record id record hr
  have hrole : Touches id state.1 (state.1.setStpPort id
      { record with role := state.1.computeRole rootPort id record }) :=
    touches_setStpPort hn hid
  exact hrole.trans (touches_applyRoleLocked hrole.named id hid)

theorem touches_ageInfo (hn : Named state.1) (dt : Int) (id : String) :
    Touches id state.1 (ageInfo dt state id).1 := by
  unfold ageInfo
  split
  · exact .refl hn id
  rename_i record hr
  have hid := hn.record id record hr
  split
  · exact .refl hn id
  dsimp only
  split
  · exact touches_setStpPort hn hid
  · exact touches_setStpPort hn hid

/-! ## Passes -/

section Pass

variable {σ : Type} {view : σ → Switch} {body : σ → String → σ}
  (hbody : ∀ state id, Named (view state) → Touches id (view state) (view (body state id)))
  {start : σ} (hstart : Named (view start)) {order : List String}

include hbody hstart

theorem pass_frame : SameFrame (view start) (view (order.foldl body start)) ∧
    Named (view (order.foldl body start)) := by
  induction order generalizing start with
  | nil => exact ⟨.refl _, hstart⟩
  | cons id rest ih =>
    have htouch := hbody start id hstart
    obtain ⟨hfr, hn⟩ := ih htouch.named
    exact ⟨htouch.frame.trans hfr, hn⟩

theorem pass_of_notMem {id : String} (hid : id ∉ order) :
    Agree id (view start) (view (order.foldl body start)) := by
  have hpass := @foldl_pass_of_notMem σ String body (fun state => Named (view state))
    fun id first second => Agree id (view first) (view second)
  exact hpass (fun _ _ => .refl _ _) .trans (fun state key h => (hbody state key h).named)
    (fun state key other h => (hbody state key h).others other) hid hstart

theorem pass_of_mem (hnodup : order.Nodup) {id : String} (hid : id ∈ order) :
    ∃ middle, Named (view middle) ∧ Agree id (view start) (view middle) ∧
      Agree id (view (body middle id)) (view (order.foldl body start)) := by
  have hpass := @foldl_pass_of_mem σ String body (fun state => Named (view state))
    fun id first second => Agree id (view first) (view second)
  exact hpass (fun _ _ => .refl _ _) .trans (fun state key h => (hbody state key h).named)
    (fun state key other h => (hbody state key h).others other) hnodup hid hstart

theorem record_pass (horder : order.Perm (view start).stp.ports.keys)
    (hnone : ∀ state id, (view state).stp.ports.get? id = none → body state id = state)
    (id : String) :
    ∃ middle, Named (view middle) ∧ Agree id (view start) (view middle) ∧
      Agree id (view (body middle id)) (view (order.foldl body start)) := by
  by_cases hm : id ∈ order
  · have hnodup := horder.nodup_iff.mpr (view start).stp.ports.nodup
    exact pass_of_mem hbody hstart hnodup hm
  refine ⟨start, hstart, .refl _ _, ?_⟩
  have habsent : (view start).stp.ports.get? id = none := by
    rw [horder.mem_iff, mem_keys_iff] at hm
    cases hr : (view start).stp.ports.get? id with
    | none => rfl
    | some record => exact absurd ⟨record, hr⟩ hm
  rw [hnone start id habsent]
  exact pass_of_notMem hbody hstart hm

end Pass

/-! ## Enrolment -/

section Enrolment

variable {sw : Switch} {id : String}

def withdraws (sw : Switch) (id : String) (record : StpPort) : Bool :=
  !sw.participates id || (sw.entry record.entry).gone

variable {record : StpPort}

theorem enrol_of_record (hr : sw.stp.ports.get? id = some record) : sw.enrol id = sw := by
  unfold enrol
  split
  · rfl
  · rw [hr]
    split <;> rfl

theorem enrol_of_not_participates (h : sw.participates id = false) : sw.enrol id = sw := by
  unfold enrol
  split
  · rfl
  · rw [if_pos (by rw [h]; rfl)]

theorem enrol_of_fresh (hp : sw.ports.get? id = some ptr)
    (hpart : sw.participates id = true) (hr : sw.stp.ports.get? id = none) :
    sw.enrol id = (sw.setStpPort id { entry := ptr, role := .blocked }).setStpState
      ptr .blocking := by
  unfold enrol
  simp only [hp, hpart, hr, Bool.not_true, Bool.false_eq_true, if_false]

theorem Agree.withdraws {first second : Switch} (h : Agree id first second)
    (record : StpPort) : second.withdraws id record = first.withdraws id record := by
  unfold Switch.withdraws
  rw [h.toSameFrame.participates, h.gone]

theorem withdraw_of_kept (hr : sw.stp.ports.get? id = some record)
    (hkept : sw.withdraws id record = false) : sw.withdraw id = sw := by
  unfold withdraw
  rw [hr]
  exact if_neg (Bool.eq_false_iff.mp hkept)

theorem get?_withdraw_of_withdraws (hr : sw.stp.ports.get? id = some record)
    (hwithdraws : sw.withdraws id record = true) :
    (sw.withdraw id).stp.ports.get? id = none := by
  unfold withdraw
  rw [hr]
  rw [withdraws] at hwithdraws
  dsimp only
  rw [if_pos hwithdraws]
  simp [eraseStpPort, get?_erase]

end Enrolment

/-! ## Resynchronisation -/

section Resync

variable {sw : Switch} (hn : Named sw) (env : Env)

include hn

theorem touches_resync : SameFrame sw (resyncPortsLocked env sw) ∧
    Named (resyncPortsLocked env sw) := by
  obtain ⟨hfst, hn'⟩ := @pass_frame Switch (fun state => state) enrol
    (fun _ id h => touches_enrol h id) sw hn (env.range sw.ports.keys)
  obtain ⟨hsnd, hn''⟩ := @pass_frame Switch (fun state => state) withdraw
    (fun _ id h => touches_withdraw h id) _ hn'
    (env.range ((env.range sw.ports.keys).foldl enrol sw).stp.ports.keys)
  exact ⟨hfst.trans hsnd, hn''⟩

theorem enrol_pass (id : String) :
    ∃ middle, Named middle ∧ Agree id sw middle ∧
      Agree id (middle.enrol id) ((env.range sw.ports.keys).foldl enrol sw) := by
  have hbody (state : Switch) (id : String) (h : Named state) := touches_enrol h id
  by_cases hm : id ∈ env.range sw.ports.keys
  · have hnodup := (env.range_perm _).nodup_iff.mpr sw.ports.nodup
    exact @pass_of_mem Switch (fun state => state) enrol hbody sw hn _ hnodup id hm
  refine ⟨sw, hn, .refl _ _, ?_⟩
  have hnone : sw.enrol id = sw := by
    refine enrol_of_not_participates ?_
    have habsent : sw.ports.get? id = none := by
      rw [env.mem_range, mem_keys_iff] at hm
      cases hp : sw.ports.get? id with
      | none => rfl
      | some ptr => exact absurd ⟨ptr, hp⟩ hm
    simp [participates, habsent]
  rw [hnone]
  exact @pass_of_notMem Switch (fun state => state) enrol hbody sw hn _ id hm

theorem resync_pass (id : String) :
    ∃ first second, Agree id sw first ∧ Touches id first (first.enrol id) ∧
      Agree id (first.enrol id) second ∧
      Agree id (second.withdraw id) (resyncPortsLocked env sw) := by
  obtain ⟨first, hnamed₁, hfst, henrolled⟩ := enrol_pass hn env id
  have hn' := (@pass_frame Switch (fun state => state) enrol
    (fun _ id h => touches_enrol h id) sw hn (env.range sw.ports.keys)).2
  obtain ⟨second, -, hsnd, hwithdrawn⟩ := @record_pass Switch (fun state => state) withdraw
    (fun _ id h => touches_withdraw h id) _ hn' _ (env.range_perm _)
    (fun state id hnone => by unfold withdraw; rw [hnone]) id
  exact ⟨first, second, hfst, touches_enrol hnamed₁ id, henrolled.trans hsnd, hwithdrawn⟩

theorem agree_resync_of_kept {id : String} (hr : sw.stp.ports.get? id = some record)
    (hkept : sw.withdraws id record = false) : Agree id sw (resyncPortsLocked env sw) := by
  obtain ⟨first, second, hfst, -, hsnd, hlast⟩ := resync_pass hn env id
  rw [enrol_of_record (hfst.record.trans hr)] at hsnd
  have hboth := hfst.trans hsnd
  rw [withdraw_of_kept (hboth.record.trans hr) ((hboth.withdraws record).trans hkept)]
    at hlast
  exact hboth.trans hlast

theorem get?_resync_of_withdraws {id : String} (hr : sw.stp.ports.get? id = some record)
    (hwithdraws : sw.withdraws id record = true) :
    (resyncPortsLocked env sw).stp.ports.get? id = none := by
  obtain ⟨first, second, hfst, -, hsnd, hlast⟩ := resync_pass hn env id
  rw [enrol_of_record (hfst.record.trans hr)] at hsnd
  have hboth := hfst.trans hsnd
  rw [hlast.record]
  exact get?_withdraw_of_withdraws (hboth.record.trans hr)
    ((hboth.withdraws record).trans hwithdraws)

theorem agree_resync_of_absent {id : String} (hr : sw.stp.ports.get? id = none)
    (habsent : sw.participates id = false) : Agree id sw (resyncPortsLocked env sw) := by
  obtain ⟨first, second, hfst, -, hsnd, hlast⟩ := resync_pass hn env id
  rw [enrol_of_not_participates ((hfst.toSameFrame.participates id).trans habsent)] at hsnd
  have hnone : second.stp.ports.get? id = none := (hfst.trans hsnd).record.trans hr
  have hs : second.withdraw id = second := by
    unfold withdraw
    rw [hnone]
  rw [hs] at hlast
  exact (hfst.trans hsnd).trans hlast

theorem resync_of_fresh {id : String} (hr : sw.stp.ports.get? id = none)
    (hp : sw.ports.get? id = some ptr) (hpart : sw.participates id = true)
    (hgone : (sw.entry ptr).gone = false) :
    (resyncPortsLocked env sw).stp.ports.get? id =
        some { entry := ptr, role := .blocked } ∧
      ((resyncPortsLocked env sw).entry ptr).stpState = .blocking := by
  obtain ⟨first, second, hfst, htouch, hsnd, hlast⟩ := resync_pass hn env id
  have hid := hn.registered id ptr hp
  have hfresh := enrol_of_fresh ((congrArg (·.get? id) hfst.ports).trans hp)
    ((hfst.toSameFrame.participates id).trans hpart)
    (hfst.record.trans hr)
  have hfr := (hfst.toSameFrame.trans htouch.frame).trans hsnd.toSameFrame
  have hnew : second.stp.ports.get? id = some { entry := ptr, role := .blocked } := by
    rw [hsnd.record, hfresh]
    exact get?_set_self _ _ _
  have hkept : second.withdraws id { entry := ptr, role := .blocked } = false := by
    rw [withdraws, hfr.participates, hpart, hfr.gone, hgone]
    rfl
  rw [withdraw_of_kept hnew hkept] at hlast
  refine ⟨hlast.record.trans hnew, ?_⟩
  rw [hlast.state ptr ((hfr.name ptr).trans hid), hsnd.state ptr
    (((hfst.toSameFrame.trans htouch.frame).name ptr).trans hid), hfresh,
    stpState_setStpState]

end Resync

/-! ## Roles and states -/

def settledState (role : Role) (state : StpState) : StpState :=
  if role = .blocked then .blocking
  else if state = .blocking then .listening
  else state

def settledTimer (role : Role) (state : StpState) (timer : Int) : Int :=
  if role ≠ .blocked ∧ state = .blocking then 0 else timer

theorem settledState_eq_blocking_iff (role : Role) (state : StpState) :
    settledState role state = .blocking ↔ role = .blocked := by
  unfold settledState
  split
  · rename_i hrole
    exact ⟨fun _ => hrole, fun _ => rfl⟩
  rename_i hrole
  split
  · exact ⟨nofun, fun h => absurd h hrole⟩
  · rename_i hst
    exact ⟨fun h => absurd h hst, fun h => absurd h hrole⟩

def recomputed (role : Role) (state : StpState) (record : StpPort) : StpPort :=
  { record with
    role := role
    stateTimer := settledTimer role state record.stateTimer }

variable {sw : Switch}

theorem applyRoleLocked_self {id : String} (hr : sw.stp.ports.get? id = some record) :
    (sw.applyRoleLocked id record).stp.ports.get? id = some (recomputed record.role
        (sw.entry record.entry).stpState record) ∧
      ((sw.applyRoleLocked id record).entry record.entry).stpState =
        settledState record.role (sw.entry record.entry).stpState := by
  unfold applyRoleLocked recomputed settledTimer settledState
  by_cases hrole : record.role = .blocked
  · simp only [hrole, if_true, ne_eq, not_true_eq_false, false_and, if_false]
    rw [← hrole]
    split
    · exact ⟨hr, stpState_setStpState _ _ _⟩
    · rename_i hst
      exact ⟨hr, not_not.mp hst⟩
  · simp only [hrole, if_false, ne_eq, not_false_eq_true, true_and]
    split
    · exact ⟨get?_set_self _ _ _, stpState_setStpState _ _ _⟩
    · exact ⟨hr, rfl⟩

theorem assignRole_self {id : String} (rootPort : Option String)
    (hr : state.1.stp.ports.get? id = some record) :
    (assignRole rootPort state id).1.stp.ports.get? id =
        some (recomputed (state.1.computeRole rootPort id record)
          (state.1.entry record.entry).stpState record) ∧
      ((assignRole rootPort state id).1.entry record.entry).stpState =
        settledState (state.1.computeRole rootPort id record)
          (state.1.entry record.entry).stpState := by
  have hset : (state.1.setStpPort id { record with
      role := state.1.computeRole rootPort id record }).stp.ports.get? id = some _ :=
    get?_set_self _ _ _
  unfold assignRole
  rw [hr]
  exact applyRoleLocked_self hset

section Recompute

variable {sw : Switch} (hn : Named sw) (env : Env)

/-- `recomputeLocked` with the orders in which its two loops visit the ports. -/
def recomputeIn (sw : Switch) (selecting assigning : List String) : Switch :=
  if !sw.stp.cfg.enabled then sw
  else
    let best := sw.selectRoot selecting
    let assigned := assigning.foldl (assignRole best.2) (sw.setRoot best, false)
    if assigned.2 then assigned.1.signalTopologyChangeLocked else assigned.1

theorem recomputeIn_of_enabled (hon : sw.stp.cfg.enabled = true)
    (selecting assigning : List String) :
    sw.recomputeIn selecting assigning =
      let best := sw.selectRoot selecting
      let assigned := assigning.foldl (assignRole best.2) (sw.setRoot best, false)
      if assigned.2 then assigned.1.signalTopologyChangeLocked else assigned.1 := by
  unfold recomputeIn
  rw [if_neg (by simp [hon])]

def elects (env : Env) (sw : Switch) : PriorityVector × Option String :=
  sw.selectRoot (env.range sw.stp.ports.keys)

def electedRole (env : Env) (sw : Switch) (id : String) (record : StpPort) : Role :=
  (sw.setRoot (elects env sw)).computeRole (elects env sw).2 id record

def assigned (env : Env) (sw : Switch) : Switch × Bool :=
  (env.range sw.stp.ports.keys).foldl (assignRole (elects env sw).2)
    (sw.setRoot (elects env sw), false)

theorem recomputeLocked_of_enabled (hon : sw.stp.cfg.enabled = true) :
    recomputeLocked env sw =
      if (assigned env sw).2 then (assigned env sw).1.signalTopologyChangeLocked
      else (assigned env sw).1 := by
  unfold recomputeLocked
  rw [if_neg (by simp [hon])]
  rfl

theorem recomputeLocked_of_disabled (hoff : ¬ sw.stp.cfg.enabled = true) :
    recomputeLocked env sw = sw := by
  unfold recomputeLocked
  rw [if_pos (by simpa using hoff)]

theorem sameFrame_signalTopologyChangeLocked (sw : Switch) :
    SameFrame sw sw.signalTopologyChangeLocked := by
  dsimp only [signalTopologyChangeLocked]
  split
  · exact ⟨⟨rfl, rfl, rfl, rfl, rfl, fun _ => rfl, fun _ => rfl⟩, rfl, rfl, rfl,
      fun _ => rfl, fun _ => rfl⟩
  · exact ⟨⟨rfl, rfl, rfl, rfl, rfl, fun _ => rfl, fun _ => rfl⟩, rfl, rfl, rfl,
      fun _ => rfl, fun _ => rfl⟩

theorem agree_signalTopologyChangeLocked (sw : Switch) (id : String) :
    Agree id sw sw.signalTopologyChangeLocked := by
  refine ⟨sameFrame_signalTopologyChangeLocked sw, ?_, fun _ _ => rfl⟩
  dsimp only [signalTopologyChangeLocked]
  split <;> rfl

include hn

theorem Named.setRoot (best : PriorityVector × Option String) : Named (sw.setRoot best) :=
  ⟨hn.record, hn.registered⟩

section Orders

variable (hon : sw.stp.cfg.enabled = true) (selecting : List String)
  {assigning : List String} (hassigning : assigning.Perm sw.stp.ports.keys)

include hon

theorem recomputeIn_frame (assigning : List String) :
    SameFrame (sw.setRoot (sw.selectRoot selecting))
        (sw.recomputeIn selecting assigning) ∧
      Named (sw.recomputeIn selecting assigning) := by
  obtain ⟨hfr, hn'⟩ := @pass_frame (Switch × Bool) Prod.fst
    (assignRole (sw.selectRoot selecting).2) (fun _ id h => touches_assignRole h _ id)
    (sw.setRoot (sw.selectRoot selecting), false) (hn.setRoot _) assigning
  rw [recomputeIn_of_enabled hon]
  dsimp only
  split
  · refine ⟨hfr.trans (sameFrame_signalTopologyChangeLocked _), ⟨?_, ?_⟩⟩
    · intro id record hr
      rw [(agree_signalTopologyChangeLocked _ id).record] at hr
      exact hn'.record id record hr
    · exact hn'.registered
  · exact ⟨hfr, hn'⟩

include hassigning

theorem recomputeIn_pass (id : String) :
    ∃ middle : Switch × Bool, Named middle.1 ∧
      Agree id (sw.setRoot (sw.selectRoot selecting)) middle.1 ∧
      Agree id (assignRole (sw.selectRoot selecting).2 middle id).1
        (sw.recomputeIn selecting assigning) := by
  obtain ⟨middle, hmiddle, hb, ha⟩ := @record_pass (Switch × Bool) Prod.fst
    (assignRole (sw.selectRoot selecting).2) (fun _ id h => touches_assignRole h _ id)
    (sw.setRoot (sw.selectRoot selecting), false) (hn.setRoot _) assigning
    hassigning (fun state id hnone => by unfold assignRole; rw [hnone]) id
  refine ⟨middle, hmiddle, hb, ?_⟩
  rw [recomputeIn_of_enabled hon]
  dsimp only
  split
  · exact ha.trans (agree_signalTopologyChangeLocked _ id)
  · exact ha

theorem recomputeIn_record {id : String} (hr : sw.stp.ports.get? id = some record) :
    let best := sw.selectRoot selecting
    let role := (sw.setRoot best).computeRole best.2 id record
    (sw.recomputeIn selecting assigning).stp.ports.get? id =
        some (recomputed role (sw.entry record.entry).stpState record) ∧
      ((sw.recomputeIn selecting assigning).entry record.entry).stpState =
        settledState role (sw.entry record.entry).stpState := by
  intro best role
  obtain ⟨middle, hmiddle, hb, ha⟩ := recomputeIn_pass hn hon selecting hassigning id
  have hid := hn.record id record hr
  obtain ⟨hnew, hst⟩ := assignRole_self best.2 (hb.record.trans hr)
  have hrole : middle.1.computeRole best.2 id record = role :=
    hb.toSameBridge.computeRole ⟨rfl, rfl, rfl⟩ _ _
  have hcur : (middle.1.entry record.entry).stpState =
      (sw.entry record.entry).stpState := hb.state record.entry hid
  rw [hrole, hcur] at hnew hst
  refine ⟨ha.record.trans hnew, ?_⟩
  rw [ha.state record.entry ?_, hst]
  exact ((touches_assignRole hmiddle _ id).frame.name record.entry).trans
    ((hb.name record.entry).trans hid)

theorem get?_recomputeIn_of_none {id : String} (hr : sw.stp.ports.get? id = none) :
    (sw.recomputeIn selecting assigning).stp.ports.get? id = none := by
  obtain ⟨middle, -, hb, ha⟩ := recomputeIn_pass hn hon selecting hassigning id
  have hnone : middle.1.stp.ports.get? id = none := hb.record.trans hr
  rw [ha.record]
  unfold assignRole
  rw [hnone]
  exact hnone

end Orders

theorem recompute_frame (hon : sw.stp.cfg.enabled = true) :
    SameFrame (sw.setRoot (elects env sw)) (recomputeLocked env sw) ∧
      Named (recomputeLocked env sw) :=
  recomputeIn_frame hn hon _ _

theorem recompute_record (hon : sw.stp.cfg.enabled = true) {id : String}
    (hr : sw.stp.ports.get? id = some record) :
    (recomputeLocked env sw).stp.ports.get? id =
        some (recomputed (electedRole env sw id record)
          (sw.entry record.entry).stpState record) ∧
      ((recomputeLocked env sw).entry record.entry).stpState =
        settledState (electedRole env sw id record)
          (sw.entry record.entry).stpState :=
  recomputeIn_record hn hon _ (env.range_perm _) hr

theorem get?_recompute_of_none (hon : sw.stp.cfg.enabled = true) {id : String}
    (hr : sw.stp.ports.get? id = none) :
    (recomputeLocked env sw).stp.ports.get? id = none :=
  get?_recomputeIn_of_none hn hon _ (env.range_perm _) hr

end Recompute

/-! ## Ageing -/

def agedRecord (cfg : StpConfig) (dt : Int) (record : StpPort) : StpPort :=
  if record.hasInfo then
    { record with
      infoAge := int64 (record.infoAge + dt)
      hasInfo := decide (int64 (record.infoAge + dt) < cfg.maxAge) }
  else record

def expires (cfg : StpConfig) (dt : Int) (record : StpPort) : Bool :=
  record.hasInfo && decide (cfg.maxAge ≤ int64 (record.infoAge + dt))

theorem ageInfo_self {id : String} (dt : Int) (hr : state.1.stp.ports.get? id = some record) :
    (ageInfo dt state id).1.stp.ports.get? id =
        some (agedRecord state.1.stp.cfg dt record) ∧
      (∀ ptr, ((ageInfo dt state id).1.entry ptr).stpState =
        (state.1.entry ptr).stpState) ∧
      (ageInfo dt state id).2 = (state.2 || expires state.1.stp.cfg dt record) := by
  unfold ageInfo agedRecord expires
  rw [hr]
  dsimp only
  split
  · rename_i hi
    rw [Bool.not_eq_true'] at hi
    rw [hi]
    exact ⟨hr, fun _ => rfl, (Bool.or_false _).symm⟩
  · rename_i hi
    rw [Bool.not_eq_true, Bool.not_eq_false'] at hi
    rw [hi, if_pos rfl, Bool.true_and]
    split
    · rename_i hage
      rw [decide_eq_true hage, decide_eq_false (Int.not_lt.mpr hage), Bool.or_true]
      exact ⟨get?_set_self _ _ _, fun _ => rfl, rfl⟩
    · rename_i hage
      rw [decide_eq_false hage, decide_eq_true (Int.not_le.mp hage), Bool.or_false]
      exact ⟨get?_set_self _ _ _, fun _ => rfl, rfl⟩

def aged (env : Env) (sw : Switch) (dt : Int) : Switch × Bool :=
  (env.range sw.stp.ports.keys).foldl (ageInfo dt) (sw, false)

section Ageing

variable {sw : Switch} (hn : Named sw) (env : Env) (dt : Int)

include hn

theorem aged_frame : SameFrame sw (aged env sw dt).1 ∧
    Named (aged env sw dt).1 :=
  @pass_frame (Switch × Bool) Prod.fst (ageInfo dt) (fun _ id h => touches_ageInfo h dt id)
    (sw, false) hn (env.range sw.stp.ports.keys)

theorem aged_pass (id : String) :
    ∃ middle : Switch × Bool, Named middle.1 ∧ Agree id sw middle.1 ∧
      Agree id (ageInfo dt middle id).1 (aged env sw dt).1 :=
  @record_pass (Switch × Bool) Prod.fst (ageInfo dt) (fun _ id h => touches_ageInfo h dt id)
    (sw, false) hn _ (env.range_perm _)
    (fun state id hnone => by unfold ageInfo; rw [hnone]) id

theorem aged_record {id : String} (hr : sw.stp.ports.get? id = some record) :
    (aged env sw dt).1.stp.ports.get? id =
        some (agedRecord sw.stp.cfg dt record) ∧
      ((aged env sw dt).1.entry record.entry).stpState =
        (sw.entry record.entry).stpState := by
  obtain ⟨middle, hmiddle, hb, ha⟩ := aged_pass hn env dt id
  have hid := hn.record id record hr
  obtain ⟨hnew, hst, -⟩ := ageInfo_self dt (hb.record.trans hr)
  refine ⟨by rw [ha.record, hnew, hb.cfg], ?_⟩
  rw [ha.state record.entry, hst, hb.state record.entry hid]
  exact ((touches_ageInfo hmiddle dt id).frame.name record.entry).trans
    ((hb.name record.entry).trans hid)

theorem get?_aged_of_none {id : String} (hr : sw.stp.ports.get? id = none) :
    (aged env sw dt).1.stp.ports.get? id = none := by
  obtain ⟨middle, -, hb, ha⟩ := aged_pass hn env dt id
  have hnone : middle.1.stp.ports.get? id = none := hb.record.trans hr
  rw [ha.record]
  unfold ageInfo
  rw [hnone]
  exact hnone

end Ageing

variable {dt : Int}

theorem foldl_ageInfo_snd {order : List String} (hnodup : order.Nodup) (hn : Named state.1) :
    (order.foldl (ageInfo dt) state).2 = true ↔ state.2 = true ∨ ∃ id ∈ order, ∃ record,
      state.1.stp.ports.get? id = some record ∧
        expires state.1.stp.cfg dt record = true := by
  induction order generalizing state with
  | nil => simp
  | cons id rest ih =>
    obtain ⟨hfresh, hrest⟩ := List.nodup_cons.mp hnodup
    have htouch := touches_ageInfo hn dt id
    have hs (other : String) (ho : other ∈ rest) :
        (ageInfo dt state id).1.stp.ports.get? other = state.1.stp.ports.get? other :=
      (htouch.others other fun heq => hfresh (heq ▸ ho)).record
    have hhead : (ageInfo dt state id).2 = true ↔ state.2 = true ∨ ∃ record,
        state.1.stp.ports.get? id = some record ∧
          expires state.1.stp.cfg dt record = true := by
      cases hr : state.1.stp.ports.get? id with
      | none =>
        unfold ageInfo
        rw [hr]
        simp
      | some record =>
        rw [(ageInfo_self dt hr).2.2]
        simp
    rw [List.foldl_cons, ih hrest htouch.named, hhead, htouch.frame.cfg]
    constructor
    · rintro ((hold | hself) | ⟨other, ho, record, hr, hexp⟩)
      · exact .inl hold
      · exact .inr ⟨id, .head _, hself⟩
      · rw [hs other ho] at hr
        exact .inr ⟨other, List.mem_cons_of_mem id ho, record, hr, hexp⟩
    · rintro (hold | ⟨other, ho, record, hr, hexp⟩)
      · exact .inl (.inl hold)
      rcases List.mem_cons.mp ho with rfl | hm
      · exact .inl (.inr ⟨record, hr, hexp⟩)
      · rw [← hs other hm] at hr
        exact .inr ⟨other, hm, record, hr, hexp⟩

theorem aged_snd (hn : Named sw) (env : Env) (dt : Int) :
    (aged env sw dt).2 = true ↔ ∃ id record,
      sw.stp.ports.get? id = some record ∧
        expires sw.stp.cfg dt record = true := by
  have hnodup : (env.range sw.stp.ports.keys).Nodup :=
    (env.range_perm _).nodup_iff.mpr sw.stp.ports.nodup
  rw [aged, foldl_ageInfo_snd hnodup hn]
  simp only [Bool.false_eq_true, false_or]
  constructor
  · rintro ⟨id, -, record, hr, hexp⟩
    exact ⟨id, record, hr, hexp⟩
  rintro ⟨id, record, hr, hexp⟩
  exact ⟨id, (env.mem_range _ _).mpr ((mem_keys_iff _ _).mpr ⟨record, hr⟩),
    record, hr, hexp⟩

/-! ## Climbing -/

inductive Progressed (cfg : StpConfig) (dt : Int) (record : StpPort) (state : StpState) :
    StpPort → StpState → Prop
  | rests : (record.role = .blocked ∨ state = .blocking ∨ state = .forwarding) →
      Progressed cfg dt record state record state
  | waits : record.role ≠ .blocked → (state = .listening ∨ state = .learning) →
      Progressed cfg dt record state
        { record with stateTimer := int64 (record.stateTimer + dt) } state
  | climbs {next : StpState} : record.role ≠ .blocked →
      (state = .listening ∧ next = .learning ∨ state = .learning ∧ next = .forwarding) →
      cfg.forwardDelay ≤ int64 (record.stateTimer + dt) →
      Progressed cfg dt record state { record with stateTimer := 0 } next

theorem Progressed.record_eq {cfg : StpConfig} {record' : StpPort} {state state' : StpState}
    (h : Progressed cfg dt record state record' state') :
    ∃ timer, record' = { record with stateTimer := timer } := by
  cases h with
  | rests _ => exact ⟨record.stateTimer, rfl⟩
  | waits _ _ => exact ⟨_, rfl⟩
  | climbs _ _ _ => exact ⟨0, rfl⟩

theorem Progressed.of_blocked {cfg : StpConfig} {record' : StpPort}
    {state state' : StpState} (h : Progressed cfg dt record state record' state')
    (hrole : record.role = .blocked) : record' = record ∧ state' = state := by
  cases h with
  | rests _ => exact ⟨rfl, rfl⟩
  | waits hclimbing _ | climbs hclimbing _ _ => exact absurd hrole hclimbing

theorem progress_self {id : String} (dt : Int) (hr : sw.stp.ports.get? id = some record) :
    ∃ record', (progress dt sw id).stp.ports.get? id = some record' ∧
      Progressed sw.stp.cfg dt record (sw.entry record.entry).stpState record'
        ((progress dt sw id).entry record.entry).stpState := by
  unfold progress
  rw [hr]
  dsimp only
  split
  · rename_i hrole
    exact ⟨record, hr, .rests (.inl hrole)⟩
  rename_i hrole
  split
  · rename_i hst
    split
    · rename_i htimer
      exact ⟨_, get?_set_self _ _ _,
        .climbs hrole (.inl ⟨hst, stpState_setStpState _ _ _⟩) htimer⟩
    · exact ⟨_, get?_set_self _ _ _, .waits hrole (.inl hst)⟩
  · rename_i hst
    split
    · rename_i htimer
      have hclimb := stpState_setStpState
        (sw.setStpPort id { record with stateTimer := 0 }) record.entry .forwarding
      exact ⟨_, get?_set_self _ _ _, .climbs hrole (.inr ⟨hst, hclimb⟩) htimer⟩
    · exact ⟨_, get?_set_self _ _ _, .waits hrole (.inr hst)⟩
  · rename_i hlistening hlearning
    refine ⟨record, hr, .rests (.inr ?_)⟩
    cases hst : (sw.entry record.entry).stpState with
    | forwarding => exact .inr rfl
    | blocking => exact .inl rfl
    | listening => exact absurd hst hlistening
    | learning => exact absurd hst hlearning

section Climbing

variable {sw : Switch} (hn : Named sw) (env : Env) (dt : Int)

include hn

theorem climb_frame : SameFrame sw (climb env sw dt) ∧
    Named (climb env sw dt) :=
  @pass_frame Switch (fun state => state) (progress dt) (fun _ id h => touches_progress h id dt)
    sw hn (env.range sw.stp.ports.keys)

theorem climb_pass (id : String) :
    ∃ middle, Named middle ∧ Agree id sw middle ∧
      Agree id (progress dt middle id) (climb env sw dt) :=
  @record_pass Switch (fun state => state) (progress dt) (fun _ id h => touches_progress h id dt)
    sw hn _ (env.range_perm _) (fun state id hnone => by unfold progress; rw [hnone]) id

theorem climb_record {id : String} (hr : sw.stp.ports.get? id = some record) :
    ∃ record', (climb env sw dt).stp.ports.get? id = some record' ∧
      Progressed sw.stp.cfg dt record (sw.entry record.entry).stpState record'
        ((climb env sw dt).entry record.entry).stpState := by
  obtain ⟨middle, hmiddle, hb, ha⟩ := climb_pass hn env dt id
  have hid := hn.record id record hr
  have hst := ha.state record.entry
    (((touches_progress hmiddle id dt).frame.name record.entry).trans
      ((hb.name record.entry).trans hid))
  obtain ⟨record', hnew, hprog⟩ := progress_self dt (hb.record.trans hr)
  rw [hb.cfg, hb.state record.entry hid, ← hst] at hprog
  exact ⟨record', ha.record.trans hnew, hprog⟩

theorem get?_climb_of_none {id : String} (hr : sw.stp.ports.get? id = none) :
    (climb env sw dt).stp.ports.get? id = none := by
  obtain ⟨middle, -, hb, ha⟩ := climb_pass hn env dt id
  have hnone : middle.stp.ports.get? id = none := hb.record.trans hr
  rw [ha.record]
  unfold progress
  rw [hnone]
  exact hnone

end Climbing

end GvSwitch.SwitchCore.Switch
