import GvSwitch.SwitchCore.Effects
import GvSwitch.SwitchCore.StaticEntries

/-!
# The registry invariant

The port map, the heap entries and the pointers in the forwarding database
refer to each other consistently in every reachable state.  Most of the switch
is `Quiet`: it registers and unregisters nothing, changes no VLAN and adds
nothing to the forwarding database.
-/

namespace GvSwitch.SwitchCore

open Foundation Fdb PortAttrs

/-- Policy is as it was, or the port may be shut and has just been, with a
reason. -/
def PortEntry.Policed (shut : Prop) (before after : PortEntry) : Prop :=
  (after.attrs = before.attrs ∧ after.blockReason = before.blockReason) ∨
    (shut ∧ before.attrs.disabled = false ∧ after.attrs = before.attrs.disable ∧
      after.blockReason.isSome = true)

theorem PortEntry.Policed.refl (shut : Prop) (entry : PortEntry) :
    entry.Policed shut entry :=
  .inl ⟨rfl, rfl⟩

theorem PortEntry.Policed.trans {shut : Prop} {first second third : PortEntry}
    (h : first.Policed shut second) (h' : second.Policed shut third) :
    first.Policed shut third := by
  rcases h with ⟨hattrs, hreason⟩ | ⟨hshut, hon, hattrs, hreason⟩
  · unfold PortEntry.Policed at h' ⊢
    rw [hattrs, hreason] at h'
    exact h'
  rcases h' with ⟨hattrs', hreason'⟩ | ⟨-, hon', -, -⟩
  · exact .inr ⟨hshut, hon, hattrs'.trans hattrs, by rw [hreason']; exact hreason⟩
  · simp [hattrs] at hon'

theorem PortEntry.Policed.vlan {shut : Prop} {before after : PortEntry}
    (h : before.Policed shut after) : after.attrs.vlan = before.attrs.vlan := by
  rcases h with ⟨hattrs, -⟩ | ⟨-, -, hattrs, -⟩
  · rw [hattrs]
  · rw [hattrs]
    rfl

namespace Switch

/-- Registrations stand, and a port's policy changes only by its being shut,
which happens to the ports in `shut` at most. -/
structure Standing (shut : Ptr → Prop) (before after : Switch) : Prop where
  ports : after.ports = before.ports
  next : after.next = before.next
  id : ∀ ptr, (after.entry ptr).id = (before.entry ptr).id
  port : ∀ ptr, (after.entry ptr).port = (before.entry ptr).port
  policy : ∀ ptr, (before.entry ptr).Policed (shut ptr) (after.entry ptr)

/-- Moreover nothing is unregistered or learned. -/
structure Calm (shut : Ptr → Prop) (before after : Switch) : Prop
    extends Standing shut before after where
  gone : ∀ ptr, (after.entry ptr).gone = (before.entry ptr).gone
  fdb : Fdb.Prunes before.fdb after.fdb

abbrev Quiet : Switch → Switch → Prop := Calm fun _ => False

variable {shut : Ptr → Prop} {before after sw : Switch} {fdb : Fdb} {α : Type}
variable {id : String} {ptr : Ptr} {port : Port} {frame : FrameView} {key : Int}
variable {mac : Bytes}

theorem Calm.vlan (h : Calm shut before after) (ptr : Ptr) :
    (after.entry ptr).attrs.vlan = (before.entry ptr).attrs.vlan :=
  (h.policy ptr).vlan

theorem Standing.refl (sw : Switch) : Standing shut sw sw :=
  ⟨rfl, rfl, fun _ => rfl, fun _ => rfl, fun _ => .refl _ _⟩

theorem Standing.trans {first second third : Switch} (h : Standing shut first second)
    (h' : Standing shut second third) : Standing shut first third where
  ports := h'.ports.trans h.ports
  next := h'.next.trans h.next
  id := fun ptr => (h'.id ptr).trans (h.id ptr)
  port := fun ptr => (h'.port ptr).trans (h.port ptr)
  policy := fun ptr => (h.policy ptr).trans (h'.policy ptr)

theorem Standing.mono {wider : Ptr → Prop} (h : Standing shut before after)
    (hwider : ∀ ptr, shut ptr → wider ptr) : Standing wider before after :=
  ⟨h.ports, h.next, h.id, h.port, fun ptr => (h.policy ptr).imp_right fun hshut =>
    ⟨hwider ptr hshut.1, hshut.2⟩⟩

theorem Calm.refl (sw : Switch) : Calm shut sw sw :=
  ⟨.refl sw, fun _ => rfl, .refl _⟩

theorem Calm.trans {first second third : Switch} (h : Calm shut first second)
    (h' : Calm shut second third) : Calm shut first third :=
  ⟨h.toStanding.trans h'.toStanding, fun ptr => (h'.gone ptr).trans (h.gone ptr),
    h.fdb.trans h'.fdb⟩

theorem Calm.mono {wider : Ptr → Prop} (h : Calm shut before after)
    (hwider : ∀ ptr, shut ptr → wider ptr) : Calm wider before after :=
  ⟨h.toStanding.mono hwider, h.gone, h.fdb⟩

theorem Quiet.calm (h : Quiet before after) (shut : Ptr → Prop) : Calm shut before after :=
  Calm.mono h fun _ => False.elim

theorem Quiet.attrs (h : Quiet before after) (ptr : Ptr) :
    (after.entry ptr).attrs = (before.entry ptr).attrs := by
  rcases h.policy ptr with ⟨hattrs, -⟩ | ⟨hshut, -⟩
  · exact hattrs
  · exact hshut.elim

theorem calm_modify (sw : Switch) (ptr : Ptr) (f : PortEntry → PortEntry)
    (hid : ∀ entry, (f entry).id = entry.id) (hp : ∀ entry, (f entry).port = entry.port)
    (hgone : ∀ entry, (f entry).gone = entry.gone)
    (hpolicy : (sw.entry ptr).Policed (shut ptr) (f (sw.entry ptr))) :
    Calm shut sw (sw.modify ptr f) where
  ports := rfl
  next := rfl
  id := fun other => entry_modify_field (·.id) sw ptr other f hid
  port := fun other => entry_modify_field (·.port) sw ptr other f hp
  gone := fun other => entry_modify_field (·.gone) sw ptr other f hgone
  policy := by
    intro other
    by_cases ho : other = ptr
    · subst other
      rw [entry_modify_self]
      exact hpolicy
    · rw [entry_modify_of_ne sw f ho]
      exact .refl _ _
  fdb := .refl _

theorem quiet_fdb (sw : Switch) (h : Prunes sw.fdb fdb) : Quiet sw { sw with fdb := fdb } :=
  ⟨⟨rfl, rfl, fun _ => rfl, fun _ => rfl, fun _ => .refl _ _⟩, fun _ => rfl, h⟩

/-! ## The spanning tree -/

/-- The bridge, the states of the ports and learned entries may have changed. -/
structure Bridged (before after : Switch) : Prop where
  ports : after.ports = before.ports
  next : after.next = before.next
  entry : ∀ ptr, after.entry ptr =
    { before.entry ptr with stpState := (after.entry ptr).stpState }
  fdb : Fdb.Prunes before.fdb after.fdb

theorem Bridged.refl (sw : Switch) : Bridged sw sw :=
  ⟨rfl, rfl, fun _ => rfl, .refl _⟩

theorem Bridged.trans {first second third : Switch} (h : Bridged first second)
    (h' : Bridged second third) : Bridged first third :=
  ⟨h'.ports.trans h.ports, h'.next.trans h.next,
    fun ptr => by rw [h'.entry, h.entry], h.fdb.trans h'.fdb⟩

theorem Bridged.field (h : Bridged before after) (field : PortEntry → α)
    (hkeep : ∀ entry state, field { entry with stpState := state } = field entry)
    (ptr : Ptr) : field (after.entry ptr) = field (before.entry ptr) := by
  rw [h.entry]
  exact hkeep _ _

theorem Bridged.quiet (h : Bridged before after) : Quiet before after :=
  ⟨⟨h.ports, h.next, h.field (·.id) fun _ _ => rfl, h.field (·.port) fun _ _ => rfl,
    fun ptr => .inl ⟨h.field (·.attrs) (fun _ _ => rfl) ptr,
      h.field (·.blockReason) (fun _ _ => rfl) ptr⟩⟩, h.field (·.gone) fun _ _ => rfl, h.fdb⟩

theorem bridged_fdb (sw : Switch) (h : Prunes sw.fdb fdb) :
    Bridged sw { sw with fdb := fdb } :=
  ⟨rfl, rfl, fun _ => rfl, h⟩

theorem bridged_stp (sw : Switch) (bridge : StpBridge) :
    Bridged sw { sw with stp := bridge } :=
  ⟨rfl, rfl, fun _ => rfl, .refl _⟩

theorem bridged_foldl (body : Switch → α → Switch)
    (hbody : ∀ sw item, Bridged sw (body sw item)) (items : List α)
    (sw : Switch) : Bridged sw (items.foldl body sw) :=
  foldl_related Bridged .refl .trans body hbody items sw

theorem bridged_foldl_fst {β : Type} (body : Switch × β → α → Switch × β)
    (hbody : ∀ state item, Bridged state.1 (body state item).1) (items : List α)
    (state : Switch × β) : Bridged state.1 (items.foldl body state).1 :=
  foldl_related (fun before after => Bridged before.1 after.1)
    (fun state => .refl state.1) Bridged.trans body hbody items state

theorem bridged_setStpState (sw : Switch) (ptr : Ptr) (state : StpState) :
    Bridged sw (sw.setStpState ptr state) := by
  refine ⟨rfl, rfl, fun other => ?_, .refl _⟩
  by_cases ho : other = ptr
  · subst other
    rw [setStpState, entry_modify_self]
  · rw [setStpState, entry_modify_of_ne sw _ ho]

theorem bridged_setStpPort (sw : Switch) (id : String) (record : StpPort) :
    Bridged sw (sw.setStpPort id record) :=
  bridged_stp sw _

theorem bridged_enrol (sw : Switch) (id : String) : Bridged sw (sw.enrol id) := by
  unfold enrol
  split
  · exact .refl _
  split
  · exact .refl _
  split
  · exact .refl _
  · exact (bridged_setStpPort _ _ _).trans (bridged_setStpState _ _ _)

theorem bridged_withdraw (sw : Switch) (id : String) : Bridged sw (sw.withdraw id) := by
  unfold withdraw
  split
  · exact .refl _
  split
  · exact (bridged_setStpState _ _ _).trans (bridged_stp _ _)
  · exact .refl _

variable (env : Env) (dt : Int)

theorem bridged_resyncPortsLocked (sw : Switch) : Bridged sw (resyncPortsLocked env sw) :=
  (bridged_foldl enrol bridged_enrol _ sw).trans
    (bridged_foldl withdraw bridged_withdraw _ _)

theorem bridged_applyRoleLocked (sw : Switch) (id : String) (record : StpPort) :
    Bridged sw (sw.applyRoleLocked id record) := by
  dsimp only [applyRoleLocked]
  split
  · split
    · exact (bridged_setStpState _ _ _).trans (bridged_fdb _ (prunes_flushPort _ _))
    · exact .refl _
  · split
    · exact (bridged_setStpState _ _ _).trans (bridged_setStpPort _ _ _)
    · exact .refl _

theorem bridged_assignRole (rootPort : Option String) (state : Switch × Bool)
    (id : String) : Bridged state.1 (assignRole rootPort state id).1 := by
  unfold assignRole
  split
  · exact .refl _
  · exact (bridged_setStpPort _ _ _).trans (bridged_applyRoleLocked _ _ _)

theorem bridged_signalTopologyChangeLocked (sw : Switch) :
    Bridged sw sw.signalTopologyChangeLocked := by
  exact ⟨rfl, rfl, fun _ => rfl, prunes_flush _ _ _⟩

theorem bridged_recomputeLocked (sw : Switch) : Bridged sw (recomputeLocked env sw) := by
  unfold recomputeLocked
  split
  · exact .refl _
  dsimp only
  have hroles := (bridged_stp sw _).trans
    (bridged_foldl_fst (assignRole (sw.selectRoot
      (env.range sw.stp.ports.keys)).2) (bridged_assignRole _)
      (env.range sw.stp.ports.keys)
      (sw.setRoot (sw.selectRoot (env.range sw.stp.ports.keys)), false))
  split
  · exact hroles.trans (bridged_signalTopologyChangeLocked _)
  · exact hroles

theorem bridged_becomeRootLocked (sw : Switch) : Bridged sw (becomeRootLocked env sw) :=
  (bridged_stp sw _).trans (bridged_recomputeLocked env _)

theorem bridged_release (sw : Switch) (id : String) : Bridged sw (sw.release id) := by
  unfold release
  split
  · exact .refl _
  · exact bridged_setStpState _ _ _

theorem bridged_setSTPConfig (sw : Switch) (cfg : StpConfig) :
    Bridged sw (setSTPConfig env sw cfg) := by
  unfold setSTPConfig
  split
  · exact ((bridged_stp sw _).trans (bridged_foldl release bridged_release _ _)).trans
      (bridged_stp _ _)
  · exact ((bridged_stp sw _).trans (bridged_resyncPortsLocked env _)).trans
      (bridged_becomeRootLocked env _)

theorem bridged_runDeferred (sw : Switch) : Bridged sw (runDeferred env sw) := by
  have hpop : Bridged sw { sw with deferred := sw.deferred - 1 } :=
    ⟨rfl, rfl, fun _ => rfl, .refl _⟩
  dsimp only [runDeferred]
  split
  · exact (hpop.trans (bridged_resyncPortsLocked env _)).trans
      (bridged_recomputeLocked env _)
  · exact hpop

theorem bridged_ageInfo (state : Switch × Bool) (id : String) :
    Bridged state.1 (ageInfo dt state id).1 := by
  unfold ageInfo
  split
  · exact .refl _
  split
  · exact .refl _
  · dsimp only
    split <;> exact bridged_setStpPort _ _ _

theorem bridged_progress (sw : Switch) (id : String) : Bridged sw (progress dt sw id) := by
  unfold progress
  split
  · exact .refl _
  split
  · exact .refl _
  dsimp only
  split
  · split
    · exact (bridged_setStpPort _ _ _).trans (bridged_setStpState _ _ _)
    · exact bridged_setStpPort _ _ _
  · split
    · exact ((bridged_setStpPort _ _ _).trans (bridged_setStpState _ _ _)).trans
        (bridged_fdb _ (prunes_flushPort _ _))
    · exact bridged_setStpPort _ _ _
  · exact .refl _

theorem bridged_ageOut (sw : Switch) (dt : Int) : Bridged sw (ageOut env sw dt) := by
  have haged := bridged_foldl_fst (ageInfo dt) (bridged_ageInfo dt)
    (env.range sw.stp.ports.keys) (sw, false)
  dsimp only [ageOut]
  split
  · exact haged.trans (bridged_recomputeLocked env _)
  · exact haged

theorem bridged_climb (sw : Switch) (dt : Int) : Bridged sw (climb env sw dt) :=
  bridged_foldl (progress dt) (bridged_progress dt) _ sw

theorem bridged_stpTick (sw : Switch) (dt : Int) : Bridged sw (stpTick env sw dt).1 := by
  have hclimb := ((bridged_resyncPortsLocked env sw).trans
    (bridged_ageOut env _ dt)).trans (bridged_climb env _ dt)
  unfold stpTick
  split
  · dsimp only [tickLocked]
    split
    · exact (hclimb.trans (bridged_stp _ _)).trans (bridged_stp _ _)
    · exact hclimb.trans (bridged_stp _ _)
  · exact .refl _

theorem bridged_storeInfo (sw : Switch) (id : String) (record : StpPort) (body : Bytes) :
    Bridged sw (storeInfo env sw id record body) := by
  dsimp only [storeInfo]
  split
  · exact (bridged_setStpPort _ _ _).trans (bridged_recomputeLocked env _)
  · exact .refl _

theorem bridged_fastAge (sw : Switch) (flags : UInt8) : Bridged sw (sw.fastAge flags) := by
  unfold fastAge
  split
  · exact bridged_fdb _ (prunes_flush _ _ _)
  · exact .refl _

theorem bridged_acknowledge (sw : Switch) (id : String) (flags : UInt8) :
    Bridged sw (sw.acknowledge id flags) := by
  unfold acknowledge
  split
  · exact bridged_stp _ _
  · exact .refl _

theorem bridged_handleBPDU (sw : Switch) (src : Ptr) (frame : Bytes) :
    Bridged sw (handleBPDU env sw src frame).1 := by
  dsimp only [handleBPDU]
  split
  · exact .refl _
  split
  · exact .refl _
  split
  · exact .refl _
  split
  · split
    · exact bridged_signalTopologyChangeLocked _
    · exact .refl _
  split
  · exact .refl _
  · exact ((bridged_storeInfo env _ _ _ _).trans (bridged_fastAge _ _)).trans
        (bridged_acknowledge _ _ _)

/-! ## Delivery is quiet except for learning -/

theorem Counted.quiet (h : Counted before after) : Quiet before after :=
  ⟨⟨h.ports, h.next, h.id, h.port, fun ptr => .inl ⟨h.attrs ptr, h.blockReason ptr⟩⟩,
    h.gone, by rw [h.fdb]; exact .refl _⟩

theorem quiet_chargeStorm (sw : Switch) (src : Ptr) (bucket : StormBucket) :
    Quiet sw (sw.chargeStorm src bucket) :=
  calm_modify sw src _ (fun _ => rfl) (fun _ => rfl) (fun _ => rfl) (.inl ⟨rfl, rfl⟩)

theorem quiet_charged (sw : Switch) (src : Ptr) : Quiet sw (charged env sw src) := by
  dsimp only [charged]
  split
  · exact quiet_chargeStorm sw src _
  · exact .refl _

theorem quiet_flushPort (sw : Switch) (id : String) : Quiet sw (sw.flushPort id) :=
  quiet_fdb sw (prunes_flushPort _ _)

theorem calm_shutPort (sw : Switch) (ptr : Ptr) (reason : BlockReason) :
    Calm (· = ptr) sw (sw.shutPort ptr reason) := by
  unfold shutPort
  split
  · exact .refl _
  rename_i hon
  exact calm_modify sw ptr _ (fun _ => rfl) (fun _ => rfl)
    (fun _ => rfl) (.inr ⟨rfl, by simpa using hon, rfl, rfl⟩)

theorem calm_blockPort (sw : Switch) (ptr : Ptr) (reason : BlockReason) :
    Calm (· = ptr) sw (sw.blockPort ptr reason) :=
  (calm_shutPort sw ptr reason).trans ((quiet_flushPort _ _).calm _)

/-! ## The invariant -/

/-- The registry, the heap and the forwarding database agree. -/
structure WellFormed (sw : Switch) : Prop where
  registered : ∀ id ptr, sw.ports.get? id = some ptr →
    (sw.entry ptr).id = id ∧ (sw.entry ptr).port.id = id ∧
      (sw.entry ptr).gone = false ∧ id ≠ ""
  live : ∀ ptr, (sw.entry ptr).gone = false →
    sw.ports.get? (sw.entry ptr).id = some ptr
  unallocated : ∀ ptr, sw.next ≤ ptr →
    (sw.entry ptr).gone = true
  dynamic : ∀ key entry, sw.fdb.m.get? key = some entry →
    entry.static = false → ∃ ptr, entry.port = some ptr ∧
      sw.ports.get? entry.portID = some ptr ∧
      (sw.entry ptr).attrs.admits key.vlan = true ∧
      isMulticast key.mac = false
  static : ∀ key entry, sw.fdb.m.get? key = some entry →
    entry.static = true → entry.port = none ∧ entry.portID ≠ ""

theorem admits_congr {first second : PortAttrs} (h : first.vlan = second.vlan)
    (key : Int) : first.admits key = second.admits key := by
  simp [admits, h]

theorem WellFormed.calm (h : WellFormed before) (hcalm : Calm shut before after) :
    WellFormed after where
  registered := by
    intro id ptr hp
    rw [hcalm.ports] at hp
    rw [hcalm.id, hcalm.port, hcalm.gone]
    exact h.registered id ptr hp
  live := by
    intro ptr hgone
    rw [hcalm.gone] at hgone
    rw [hcalm.ports, hcalm.id]
    exact h.live ptr hgone
  unallocated := by
    intro ptr hnext
    rw [hcalm.next] at hnext
    rw [hcalm.gone]
    exact h.unallocated ptr hnext
  dynamic := by
    intro key entry he hstat
    obtain ⟨ptr, hptr, hp, hadm, hunicast⟩ :=
      h.dynamic key entry (hcalm.fdb.2 key entry he) hstat
    refine ⟨ptr, hptr, ?_, ?_, hunicast⟩
    · rw [hcalm.ports]
      exact hp
    · rw [admits_congr (hcalm.vlan ptr)]
      exact hadm
  static := fun key entry he =>
    h.static key entry (hcalm.fdb.2 key entry he)

theorem WellFormed.quiet (h : WellFormed before) (hq : Quiet before after) :
    WellFormed after :=
  h.calm hq

theorem wellFormed_newSwitch (instanceID : UInt64) :
    WellFormed (newSwitch instanceID) where
  registered := by
    intro id ptr hp
    cases hp
  live := by
    intro ptr hgone
    cases hgone
  unallocated := fun _ _ => rfl
  dynamic := by
    intro key entry he
    cases he
  static := by
    intro key entry he
    cases he

/-! ## Registration -/

theorem entry_register (sw : Switch) (port : Port) (attrs : CheckedAttrs) (ptr : Ptr) :
    (sw.register port attrs).entry ptr =
      if ptr = sw.next then
        { id := port.id, port := port, attrs := attrs,
          portNum := sw.portNumSeq + 1 }
      else sw.entry ptr := by
  by_cases h : ptr = sw.next
  · simp [register, entry, h]
  · simp [register, entry, h]

theorem get?_register (sw : Switch) (port : Port) (attrs : CheckedAttrs) (id : String) :
    (sw.register port attrs).ports.get? id =
      if id = port.id then some sw.next else sw.ports.get? id :=
  GoMap.get?_set _ _ _ _

theorem WellFormed.lt_next (h : WellFormed sw)
    (hp : sw.ports.get? id = some ptr) : ptr < sw.next := by
  by_contra hnot
  have hgone := (h.registered id ptr hp).2.2.1
  simp [h.unallocated ptr (Nat.le_of_not_lt hnot)] at hgone

theorem WellFormed.register (h : WellFormed sw) (attrs : CheckedAttrs)
    (hname : port.id ≠ "") (hfresh : sw.ports.get? port.id = none) :
    WellFormed (sw.register port attrs) where
  registered := by
    intro id ptr hp
    rw [get?_register] at hp
    rw [entry_register]
    split at hp
    · rename_i hid
      cases hp
      simp [hid, hname]
    · rw [if_neg (Nat.ne_of_lt (h.lt_next hp))]
      exact h.registered id ptr hp
  live := by
    intro ptr hgone
    rw [entry_register] at hgone ⊢
    rw [get?_register]
    split at hgone
    · rename_i hptr
      simp [hptr]
    rename_i hptr
    have hp := h.live ptr hgone
    rw [if_neg hptr, if_neg]
    · exact hp
    intro hid
    simp [hid, hfresh] at hp
  unallocated := by
    intro ptr hnext
    have hlater : sw.next + 1 ≤ ptr := hnext
    rw [entry_register, if_neg (Nat.ne_of_gt (Nat.lt_of_succ_le hlater))]
    exact h.unallocated ptr (Nat.le_of_succ_le hlater)
  dynamic := by
    intro key entry he hstat
    obtain ⟨ptr, hptr, hp, hadm, hunicast⟩ := h.dynamic key entry he hstat
    refine ⟨ptr, hptr, ?_, ?_, hunicast⟩
    · rw [get?_register, if_neg]
      · exact hp
      intro hid
      simp [hid, hfresh] at hp
    · rw [entry_register, if_neg (Nat.ne_of_lt (h.lt_next hp))]
      exact hadm
  static := h.static

variable {attrs : PortAttrs}

theorem addPort_ok (hadd : sw.addPort port attrs = .ok after) :
    ∃ checked : CheckedAttrs, checked.toPortAttrs = attrs ∧ port.id ≠ "" ∧
      sw.ports.get? port.id = none ∧ after = sw.register port checked := by
  unfold Switch.addPort at hadd
  split at hadd
  · cases hadd
  rename_i checked hcheck
  split at hadd
  · cases hadd
  rename_i hname
  split at hadd
  · cases hadd
  rename_i hfresh
  cases hadd
  exact ⟨checked, check_toPortAttrs hcheck, hname, hfresh, rfl⟩

theorem WellFormed.addPort (h : WellFormed sw)
    (hadd : sw.addPort port attrs = .ok after) : WellFormed after := by
  obtain ⟨checked, -, hname, hfresh, rfl⟩ := addPort_ok hadd
  exact h.register checked hname hfresh

theorem entry_unregister_of_ne (sw : Switch) (id : String) {other : Ptr} (hne : other ≠ ptr) :
    (sw.unregister id ptr).entry other = sw.entry other :=
  entry_modify_of_ne _ _ hne

theorem WellFormed.removePort (h : WellFormed sw) (id : String) :
    WellFormed (sw.removePort id) := by
  unfold Switch.removePort
  split
  · exact h
  rename_i ptr hptr
  have hid := (h.registered id ptr hptr).1
  -- Only the removed identifier maps to the removed pointer.
  have ho (name : String) (target : Ptr)
      (hp : sw.ports.get? name = some target) (hname : name ≠ id) :
      target ≠ ptr := by
    rintro rfl
    exact hname ((h.registered name _ hp).1.symm.trans hid)
  have hports (name : String) :
      ((sw.unregister id ptr).portDown id).ports.get? name =
        if name = id then none else sw.ports.get? name :=
    GoMap.get?_erase _ _ _
  have he (target : Ptr) (hne : target ≠ ptr) :
      ((sw.unregister id ptr).portDown id).entry target = sw.entry target :=
    entry_unregister_of_ne sw id hne
  have hgone : (((sw.unregister id ptr).portDown id).entry ptr).gone =
      true := by
    simp [portDown, Switch.flushPort, unregister, entry, modify]
  constructor
  · intro name target hp
    rw [hports] at hp
    split at hp
    · cases hp
    rename_i hname
    rw [he target (ho name target hp hname)]
    exact h.registered name target hp
  · intro target hlive
    by_cases htgt : target = ptr
    · simp [htgt, hgone] at hlive
    rw [he target htgt] at hlive ⊢
    have hp := h.live target hlive
    rw [hports, if_neg]
    · exact hp
    intro hname
    rw [hname, hptr] at hp
    exact htgt (Option.some.inj hp).symm
  · intro target hnext
    by_cases htgt : target = ptr
    · rw [htgt, hgone]
    · rw [he target htgt]
      exact h.unallocated target hnext
  · intro key entry hm hstat
    have hb := (prunes_flushPort sw.fdb id).2 key entry hm
    have hportID := flushPort_dynamic hm hstat
    obtain ⟨target, htgt, hp, hadm, hunicast⟩ := h.dynamic key entry hb hstat
    refine ⟨target, htgt, ?_, ?_, hunicast⟩
    · rw [hports, if_neg hportID]
      exact hp
    · rw [he target (ho _ _ hp hportID)]
      exact hadm
  · intro key entry hm
    exact h.static key entry ((prunes_flushPort sw.fdb id).2 key entry hm)

/-! ## Attribute changes -/

theorem entry_writeAttrs_of_ne (sw : Switch) {other : Ptr} (attrs : CheckedAttrs)
    (hne : other ≠ ptr) : (sw.writeAttrs ptr attrs).entry other = sw.entry other := by
  simp [Switch.writeAttrs, Switch.modify, Switch.entry, Function.update_of_ne hne]

theorem writeAttrs_field (field : PortEntry → α) (sw : Switch) (ptr other : Ptr)
    (attrs : CheckedAttrs)
    (hkeep : ∀ entry reason, field { entry with
      attrs := attrs, blockReason := reason } = field entry) :
    field ((sw.writeAttrs ptr attrs).entry other) =
      field (sw.entry other) :=
  entry_modify_field field sw ptr other _ fun entry => hkeep entry _

theorem updatePortAttrs_cases (hupd : sw.updatePortAttrs id attrs = .ok after) :
    ∃ (checked : CheckedAttrs) (ptr : Ptr), attrs.check = .ok checked ∧
      sw.ports.get? id = some ptr ∧
      (after = (sw.writeAttrs ptr checked).flushPort id ∨
        ((sw.entry ptr).attrs.vlan = attrs.vlan ∧
          after = sw.writeAttrs ptr checked)) := by
  unfold Switch.updatePortAttrs at hupd
  split at hupd
  · cases hupd
  rename_i checked hcheck
  split at hupd
  · cases hupd
  rename_i ptr hptr
  refine ⟨checked, ptr, hcheck, hptr, ?_⟩
  split at hupd
  · cases hupd
    exact .inl rfl
  rename_i hv
  cases hupd
  exact .inr ⟨not_not.mp hv, rfl⟩

/-- Whether the VLAN changed matters to the forwarding database only. -/
theorem updatePortAttrs_ok (hupd : sw.updatePortAttrs id attrs = .ok after) :
    ∃ (checked : CheckedAttrs) (ptr : Ptr) (fdb : Fdb), checked.toPortAttrs = attrs ∧
      sw.ports.get? id = some ptr ∧
      after = { sw.writeAttrs ptr checked with fdb := fdb } := by
  obtain ⟨checked, ptr, hcheck, hptr, rfl | ⟨-, rfl⟩⟩ := updatePortAttrs_cases hupd
  · exact ⟨checked, ptr, _, check_toPortAttrs hcheck, hptr, rfl⟩
  · exact ⟨checked, ptr, _, check_toPortAttrs hcheck, hptr, rfl⟩

theorem WellFormed.writeAttrs (h : WellFormed sw) (ptr : Ptr) (attrs : CheckedAttrs)
    (ha : after = { sw.writeAttrs ptr attrs with fdb := after.fdb })
    (hfdb : Prunes sw.fdb after.fdb)
    (hadm : ∀ key entry, after.fdb.m.get? key = some entry →
      entry.static = false → entry.port = some ptr →
        attrs.admits key.vlan = true) : WellFormed after := by
  have hports : after.ports = sw.ports := by rw [ha]; rfl
  have hnext : after.next = sw.next := by rw [ha]; rfl
  have he (target : Ptr) :
      after.entry target = (sw.writeAttrs ptr attrs).entry target := by
    rw [ha]; rfl
  have hid (target : Ptr) : (after.entry target).id = (sw.entry target).id := by
    rw [he]
    exact writeAttrs_field (·.id) sw ptr target attrs fun _ _ => rfl
  have hp (target : Ptr) :
      (after.entry target).port = (sw.entry target).port := by
    rw [he]
    exact writeAttrs_field (·.port) sw ptr target attrs fun _ _ => rfl
  have hgone (target : Ptr) :
      (after.entry target).gone = (sw.entry target).gone := by
    rw [he]
    exact writeAttrs_field (·.gone) sw ptr target attrs fun _ _ => rfl
  constructor
  · intro name target hm
    rw [hports] at hm
    rw [hid, hp, hgone]
    exact h.registered name target hm
  · intro target hlive
    rw [hgone] at hlive
    rw [hports, hid]
    exact h.live target hlive
  · intro target hlater
    rw [hnext] at hlater
    rw [hgone]
    exact h.unallocated target hlater
  · intro key entry hm hstat
    obtain ⟨target, htgt, hmap, hold, hunicast⟩ :=
      h.dynamic key entry (hfdb.2 key entry hm) hstat
    refine ⟨target, htgt, by rw [hports]; exact hmap, ?_, hunicast⟩
    by_cases hs : target = ptr
    · subst hs
      rw [he]
      have hnew := hadm key entry hm hstat htgt
      simpa [Switch.writeAttrs, Switch.modify, Switch.entry] using hnew
    · rw [he, entry_writeAttrs_of_ne sw attrs hs]
      exact hold
  · intro key entry hm
    exact h.static key entry (hfdb.2 key entry hm)

theorem WellFormed.updatePortAttrs (h : WellFormed sw)
    (hupd : sw.updatePortAttrs id attrs = .ok after) : WellFormed after := by
  obtain ⟨checked, ptr, hcheck, hptr, rfl | ⟨hv, rfl⟩⟩ := updatePortAttrs_cases hupd
  · -- The VLAN changed: what was learned on the port is flushed.
    refine h.writeAttrs ptr checked rfl (prunes_flushPort _ _) ?_
    intro key entry hm hstat hp
    have hportID := flushPort_dynamic hm hstat
    obtain ⟨target, htgt, hmap, -, -⟩ := h.dynamic key entry
      ((prunes_flushPort _ _).2 key entry hm) hstat
    rw [hp] at htgt
    cases htgt
    have hname := (h.registered _ _ hmap).1
    have hs := (h.registered _ _ hptr).1
    exact absurd (hname.symm.trans hs) hportID
  · refine h.writeAttrs ptr checked rfl (Prunes.refl _) ?_
    intro key entry hm hstat hp
    obtain ⟨target, htgt, -, hadm, -⟩ := h.dynamic key entry hm hstat
    rw [hp] at htgt
    cases htgt
    have hs : checked.vlan = (sw.entry ptr).attrs.vlan := by
      rw [hv, ← check_toPortAttrs hcheck]
    rw [admits_congr hs]
    exact hadm

/-! ## Learning -/

theorem admits_of_ingressKey (h : ingressKey attrs frame = some key) :
    attrs.admits key = true := by
  unfold ingressKey at h
  unfold admits
  split at h
  · rename_i htrunk
    simp [htrunk]
  rename_i htrunk
  split at h
  · rename_i huntagged
    split at h
    · cases h
    · cases h
      simp [huntagged, untaggedKey]
  · rename_i huntagged
    split at h
    · cases h
    · cases h
      simp [htrunk, huntagged]

theorem WellFormed.learnSource (h : WellFormed sw) (env : Env) {src : Ptr}
    (hgone : (sw.entry src).gone = false) (hadm : (sw.entry src).attrs.admits key = true) :
    WellFormed (learnSource env sw src frame key) := by
  unfold Switch.learnSource
  split
  · exact h
  rename_i hunicast
  dsimp only
  constructor
  · exact h.registered
  · exact h.live
  · exact h.unallocated
  · intro slot entry hm hstat
    rw [get?_learn] at hm
    split at hm
    · rename_i hnew
      cases hm
      refine ⟨src, rfl, h.live src hgone, ?_, ?_⟩
      · rw [hnew.1]
        exact hadm
      · rw [hnew.1]
        simpa using hunicast
    · exact h.dynamic slot entry hm hstat
  · intro slot entry hm hstat
    rw [get?_learn] at hm
    split at hm
    · cases hm
      cases hstat
    · exact h.static slot entry hm hstat

theorem ingress_eq_admitted {src : Ptr} {data : Bytes}
    (h : sw.ingress src data = .admitted frame key) :
    parseFrame data = some frame ∧ (sw.entry src).gone = false ∧
      (sw.entry src).attrs.disabled = false ∧
      ¬ (frame.dstMAC = loopProbeDst ∧ isOwnLoopProbe sw.instanceID data = true) ∧
      isReservedGroupMAC frame.dstMAC = false ∧
      ((sw.entry src).stpState = .forwarding ∨
        (sw.entry src).stpState = .learning) ∧
      ingressKey (sw.entry src).attrs.toPortAttrs frame = some key ∧
      securityViolated (sw.entry src).attrs.toPortAttrs frame.srcMAC = false := by
  unfold ingress at h
  split at h
  · cases h
  rename_i parsed hparse
  dsimp only at h
  split at h
  · cases h
  rename_i hgone
  split at h
  · cases h
  rename_i hoff
  split at h
  · cases h
  rename_i hprobe
  split at h
  · cases h
  rename_i hreserved
  split at h
  · cases h
  rename_i hstp
  split at h
  · cases h
  rename_i admitted hkey
  split at h
  · cases h
  rename_i hsecure
  cases h
  refine ⟨hparse, by simpa using hgone, by simpa using hoff,
    hprobe, by simpa using hreserved, ?_, hkey,
    by simpa using hsecure⟩
  cases hst : (sw.entry src).stpState <;> simp [hst] at hstp ⊢

theorem WellFormed.deliver (h : WellFormed sw) (env : Env) (src : Ptr) (data : Bytes) :
    WellFormed (deliver env sw src data).1 := by
  have hdel := delivered env sw src data
  generalize (Switch.deliver env sw src data).1 = after at hdel ⊢
  cases hdel with
  | counted hcnt => exact h.quiet hcnt.quiet
  | shut reason _ hcnt =>
    exact (h.quiet hcnt.quiet).calm (calm_blockPort _ src reason)
  | heard _ _ =>
    exact (h.quiet (counted_countRx sw src _).quiet).quiet
      (bridged_handleBPDU env _ src _).quiet
  | @learned frame key counted _ hin hcnt hsent =>
    obtain ⟨-, hgone, -, -, -, -, hkey, -⟩ := ingress_eq_admitted hin
    have hlearn : WellFormed (Switch.learnSource env counted src frame key) := by
      refine (h.quiet hcnt.quiet).learnSource env ?_ ?_
      · rw [hcnt.gone]
        exact hgone
      · rw [hcnt.attrs]
        exact admits_of_ingressKey hkey
    rcases hsent with hsent | hsent
    · exact hlearn.quiet hsent.quiet
    · exact (hlearn.quiet (quiet_charged env _ src)).quiet hsent.quiet

/-! ## Administration of the forwarding database -/

theorem WellFormed.withFdb (h : WellFormed sw)
    (hdyn : ∀ key entry, fdb.m.get? key = some entry → entry.static = false →
      sw.fdb.m.get? key = some entry)
    (hstat : ∀ key entry, fdb.m.get? key = some entry → entry.static = true →
      entry.port = none ∧ entry.portID ≠ "") : WellFormed { sw with fdb := fdb } :=
  ⟨h.registered, h.live, h.unallocated,
    fun key entry hm hk => h.dynamic key entry (hdyn key entry hm hk) hk,
    hstat⟩

theorem WellFormed.prune (h : WellFormed sw)
    (hsub : ∀ key entry, fdb.m.get? key = some entry → sw.fdb.m.get? key = some entry) :
    WellFormed { sw with fdb := fdb } :=
  h.withFdb (fun key entry hm _ => hsub key entry hm)
    fun key entry hm => h.static key entry (hsub key entry hm)

theorem fdb_of_addStaticFDB {now vlan : Int} {portID : String}
    (hadd : sw.addStaticFDB now vlan mac portID = .ok after) :
    ∃ fdb, after = { sw with fdb := fdb } ∧
      ∀ key entry, fdb.m.get? key = some entry →
        sw.fdb.m.get? key = some entry ∨
          (entry.static = true ∧ entry.port = none ∧ entry.portID ≠ "") := by
  unfold Switch.addStaticFDB at hadd
  split at hadd
  · cases hadd
  split at hadd
  · cases hadd
  rename_i hname
  split at hadd
  · cases hadd
  split at hadd
  · cases hadd
  cases hadd
  refine ⟨_, rfl, fun key entry he => ?_⟩
  simp only [addStatic, GoMap.get?_set] at he
  split at he
  · cases he
    exact .inr ⟨rfl, rfl, hname⟩
  · exact .inl he

private theorem get?_of_get?_erase {map : GoMap FdbKey FdbEntry} {key slot : FdbKey}
    {entry : FdbEntry} (hm : (map.erase slot).get? key = some entry) :
    map.get? key = some entry := by
  rw [GoMap.get?_erase] at hm
  split at hm
  · cases hm
  · exact hm

theorem fdb_of_removeStaticFDB {vlan : Int}
    (hremove : sw.removeStaticFDB vlan mac = .ok after) :
    ∃ fdb, after = { sw with fdb := fdb } ∧
      ∀ key entry, fdb.m.get? key = some entry →
        sw.fdb.m.get? key = some entry := by
  unfold Switch.removeStaticFDB at hremove
  split at hremove
  · cases hremove
  split at hremove
  · cases hremove
  rename_i fdb hfdb
  cases hremove
  rw [removeStatic_ok hfdb]
  exact ⟨_, rfl, fun _ _ => get?_of_get?_erase⟩

theorem fdb_of_deleteFDBEntry {vlan : Int}
    (hdelete : sw.deleteFDBEntry vlan mac = .ok after) :
    ∃ fdb, after = { sw with fdb := fdb } ∧
      ∀ key entry, fdb.m.get? key = some entry →
        sw.fdb.m.get? key = some entry := by
  unfold Switch.deleteFDBEntry at hdelete
  split at hdelete
  · cases hdelete
  split at hdelete
  · cases hdelete
  rename_i fdb hfdb
  cases hdelete
  rw [(removeDynamic_ok hfdb).1]
  exact ⟨_, rfl, fun _ _ => get?_of_get?_erase⟩

theorem WellFormed.addStaticFDB (h : WellFormed sw) {now vlan : Int} {portID : String}
    (hadd : sw.addStaticFDB now vlan mac portID = .ok after) : WellFormed after := by
  obtain ⟨fdb, rfl, hfdb⟩ := fdb_of_addStaticFDB hadd
  refine h.withFdb (fun key entry he hdyn => ?_) fun key entry he hstat => ?_
  · rcases hfdb key entry he with hold | ⟨hstat, -⟩
    · exact hold
    · simp [hdyn] at hstat
  · rcases hfdb key entry he with hold | ⟨-, hn⟩
    · exact h.static key entry hold hstat
    · exact hn

theorem WellFormed.removeStaticFDB (h : WellFormed sw) {vlan : Int}
    (hremove : sw.removeStaticFDB vlan mac = .ok after) : WellFormed after := by
  obtain ⟨fdb, rfl, hfdb⟩ := fdb_of_removeStaticFDB hremove
  exact h.prune hfdb

theorem WellFormed.deleteFDBEntry (h : WellFormed sw) {vlan : Int}
    (hdelete : sw.deleteFDBEntry vlan mac = .ok after) : WellFormed after := by
  obtain ⟨fdb, rfl, hfdb⟩ := fdb_of_deleteFDBEntry hdelete
  exact h.prune hfdb

end Switch

end GvSwitch.SwitchCore
