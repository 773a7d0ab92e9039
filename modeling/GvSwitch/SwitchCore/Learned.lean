import GvSwitch.SwitchCore.Forwarding

/-!
# Learned addresses and the policy of their port

A dynamic entry was admitted when it was learned, and the port may change
afterwards.  A change of the VLAN and an automatic shutdown flush the entries of
the port; the other changes `UpdatePortAttrs` makes do not.
-/

namespace GvSwitch.SwitchCore

open Foundation World

/-! ## VLANs -/

theorem admits_cases {attrs : CheckedAttrs} {key : Int} (h : attrs.admits key = true) :
    attrs.vlan = vlanTrunk ∨ (attrs.vlan = vlanUntaggedOnly ∧ key = untaggedKey) ∨
      attrs.vlan = key := by
  have hlow := attrs.vlan_nonneg
  have hhigh := attrs.vlan_le
  unfold PortAttrs.admits at h
  split at h
  · rename_i htrunk
    exact .inl htrunk
  split at h
  · rename_i huntagged
    exact .inr (.inl ⟨huntagged, by simpa using h⟩)
  · rw [beq_iff_eq, int32_of_range (by omega) (by omega)] at h
    exact .inr (.inr h.symm)

theorem learned_entries_usable {world : World} (h : world.Reached) {key : FdbKey}
    {entry : FdbEntry} (hentry : world.sw.fdb.m.get? key = some entry)
    (hdynamic : entry.static = false) :
    isMulticast key.mac = false ∧
      ∃ ptr, world.sw.ports.get? entry.portID = some ptr ∧
        ((world.sw.entry ptr).attrs.vlan = vlanTrunk ∨
          ((world.sw.entry ptr).attrs.vlan = vlanUntaggedOnly ∧
            key.vlan = untaggedKey) ∨
          (world.sw.entry ptr).attrs.vlan = key.vlan) := by
  obtain ⟨ptr, -, hp, hadm, hunicast⟩ := h.wellFormed.dynamic key entry hentry hdynamic
  exact ⟨hunicast, ptr, hp, admits_cases hadm⟩

def greeting : Bytes :=
  [0xff, 0xff, 0xff, 0xff, 0xff, 0xff, 0x02, 0, 0, 0, 0, 7, 0x08, 0]

def greeted : World := threePorts.run (steadyEnv 1) [.op (.deliver "ten" greeting)]

theorem learned_entries_usable_greeted :
    ∃ entry, greeted.sw.fdb.m.get? ⟨10, macAt greeting 6⟩ = some entry ∧
      entry.static = false ∧ isMulticast (macAt greeting 6) = false ∧
      ∃ ptr, greeted.sw.ports.get? entry.portID = some ptr ∧
        ((greeted.sw.entry ptr).attrs.vlan = vlanTrunk ∨
          ((greeted.sw.entry ptr).attrs.vlan = vlanUntaggedOnly ∧
            (10 : Int) = untaggedKey) ∨
          (greeted.sw.entry ptr).attrs.vlan = 10) := by
  have he : greeted.sw.fdb.m.get? ⟨10, macAt greeting 6⟩ =
      some ⟨"ten", some 1, 1, false⟩ := by decide
  exact ⟨_, he, rfl, learned_entries_usable
    (reached_threePorts.run (steadyEnv 1) [.op (.deliver "ten" greeting)]) he rfl⟩

/-! ## Admission -/

/-- A frame from this address is admitted on an enabled port with these attributes. -/
def PortAttrs.Vouches (attrs : PortAttrs) (mac : MAC) : Prop :=
  attrs.disabled = false ∧
    ∀ secure, attrs.securityMAC = some secure → mac = macAt secure 0

namespace Switch

def Vouched (sw : Switch) : Prop :=
  ∀ key entry ptr, sw.fdb.m.get? key = some entry → entry.static = false →
    sw.ports.get? entry.portID = some ptr →
      (sw.entry ptr).attrs.Vouches key.mac

/-- `UpdatePortAttrs` keeps the VLAN of a port only if the new attributes admit
every address learned there. -/
def Cautious (sw : Switch) : Op → Prop
  | .updatePortAttrs id attrs => ∀ ptr, sw.ports.get? id = some ptr →
      (sw.entry ptr).attrs.vlan = attrs.vlan →
        ∀ key entry, sw.fdb.m.get? key = some entry → entry.static = false →
          entry.portID = id → attrs.Vouches key.mac
  | _ => True

variable {after sw : Switch}

/-- What was learned before stays vouched for while its port keeps its attributes. -/
theorem Vouched.keep {before : Switch} (h : before.Vouched)
    (hkeep : ∀ key entry ptr, after.fdb.m.get? key = some entry →
      entry.static = false → after.ports.get? entry.portID = some ptr →
        before.fdb.m.get? key = some entry ∧
          before.ports.get? entry.portID = some ptr ∧
          (after.entry ptr).attrs = (before.entry ptr).attrs) : after.Vouched := by
  intro key entry ptr he hdyn hp
  obtain ⟨hb, hreg, hattrs⟩ := hkeep key entry ptr he hdyn hp
  rw [hattrs]
  exact h key entry ptr hb hdyn hreg

theorem Vouched.quiet {before : Switch} (h : before.Vouched) (hq : Quiet before after) :
    after.Vouched := by
  refine h.keep fun key entry ptr he _ hp => ?_
  rw [hq.ports] at hp
  exact ⟨hq.fdb.2 key entry he, hp, hq.attrs ptr⟩

theorem Vouched.withFdb (h : sw.Vouched) {fdb : Fdb}
    (hdyn : ∀ key entry, fdb.m.get? key = some entry → entry.static = false →
      sw.fdb.m.get? key = some entry) : Vouched { sw with fdb := fdb } :=
  h.keep fun key entry _ he hk hp => ⟨hdyn key entry he hk, hp, rfl⟩

theorem Vouched.settle {ε : Type} (h : sw.Vouched) {result : Except ε Switch}
    (hok : ∀ after, result = .ok after → after.Vouched) : (sw.settle result).Vouched := by
  cases result with
  | error reason => exact h
  | ok after => exact hok after rfl

/-! ## Each operation -/

theorem Vouched.addPort (h : sw.Vouched) (hw : sw.WellFormed) {port : Port}
    {attrs : PortAttrs} (hadd : sw.addPort port attrs = .ok after) : after.Vouched := by
  obtain ⟨checked, -, -, hfresh, rfl⟩ := addPort_ok hadd
  refine h.keep fun key entry ptr he hdyn hp => ?_
  obtain ⟨old, -, hold, -⟩ := hw.dynamic key entry he hdyn
  have hne : entry.portID ≠ port.id := by
    intro hid
    simp [hid, hfresh] at hold
  rw [get?_register, if_neg hne] at hp
  rw [entry_register, if_neg (Nat.ne_of_lt (hw.lt_next hp))]
  exact ⟨he, hp, rfl⟩

theorem Vouched.removePort (h : sw.Vouched) (id : String) : (sw.removePort id).Vouched := by
  unfold Switch.removePort
  split
  · exact h
  rename_i removed hremoved
  refine h.keep fun key entry ptr he _ hp => ?_
  have hb := (Fdb.prunes_flushPort sw.fdb id).2 key entry he
  have hports : ((sw.unregister id removed).portDown id).ports = sw.ports.erase id := rfl
  rw [hports, GoMap.get?_erase] at hp
  split at hp
  · cases hp
  exact ⟨hb, hp, entry_modify_field (·.attrs)
    { sw with ports := sw.ports.erase id } removed ptr
    (fun entry => { entry with gone := true }) fun _ => rfl⟩

theorem Vouched.blockPort (h : sw.Vouched) (hw : sw.WellFormed) (ptr : Ptr)
    (reason : BlockReason) : (sw.blockPort ptr reason).Vouched := by
  have hcalm := calm_blockPort sw ptr reason
  refine h.keep fun key entry other he hdyn hp => ?_
  rw [hcalm.ports] at hp
  -- The entries of the port itself are flushed.
  have hname := Fdb.flushPort_dynamic he hdyn
  have hne : other ≠ ptr := by
    rintro rfl
    exact hname (hw.registered _ other hp).1.symm
  refine ⟨hcalm.fdb.2 key entry he, hp, ?_⟩
  rcases hcalm.policy other with ⟨hattrs, -⟩ | ⟨hshut, -⟩
  · exact hattrs
  · exact absurd hshut hne

theorem entry_writeAttrs_self (sw : Switch) (ptr : Ptr) (attrs : CheckedAttrs) :
    ((sw.writeAttrs ptr attrs).entry ptr).attrs = attrs := by
  simp [writeAttrs, modify, Switch.entry]

theorem Vouched.updatePortAttrs (h : sw.Vouched) (hw : sw.WellFormed) {id : String}
    {attrs : PortAttrs} (hcautious : sw.Cautious (.updatePortAttrs id attrs))
    (hupd : sw.updatePortAttrs id attrs = .ok after) : after.Vouched := by
  obtain ⟨checked, updated, hcheck, hupdated, ha⟩ := updatePortAttrs_cases hupd
  have hid := (hw.registered id updated hupdated).1
  -- The entries of other ports stand, whether or not this port is flushed.
  have ho {key : FdbKey} {entry : FdbEntry} {ptr : Ptr}
      (he : sw.fdb.m.get? key = some entry) (hdyn : entry.static = false)
      (hp : sw.ports.get? entry.portID = some ptr)
      (hname : entry.portID ≠ id) :
      ((sw.writeAttrs updated checked).entry ptr).attrs.Vouches key.mac := by
    have hne : ptr ≠ updated := by
      rintro rfl
      exact hname ((hw.registered _ ptr hp).1.symm.trans hid)
    rw [entry_writeAttrs_of_ne sw checked hne]
    exact h key entry ptr he hdyn hp
  rcases ha with rfl | ⟨hv, rfl⟩
  · intro key entry ptr he hdyn hp
    have hb := (Fdb.prunes_flushPort sw.fdb id).2 key entry he
    exact ho hb hdyn hp (Fdb.flushPort_dynamic he hdyn)
  intro key entry ptr he hdyn hp
  by_cases hname : entry.portID = id
  · have hptr : ptr = updated := by
      have hp' : sw.ports.get? entry.portID = some ptr := hp
      rw [hname, hupdated] at hp'
      exact (Option.some.inj hp').symm
    have hvouches := hcautious updated hupdated hv key entry he hdyn hname
    rw [hptr, entry_writeAttrs_self, PortAttrs.check_toPortAttrs hcheck]
    exact hvouches
  · exact ho he hdyn hp hname

theorem Vouched.learnSource (h : sw.Vouched) (hw : sw.WellFormed) (env : Env)
    {src : Ptr} {frame : FrameView} {key : Int} (hgone : (sw.entry src).gone = false)
    (hvouches : (sw.entry src).attrs.Vouches frame.srcMAC) :
    (learnSource env sw src frame key).Vouched := by
  unfold Switch.learnSource
  split
  · exact h
  intro slot entry ptr he hdyn hp
  rw [Fdb.get?_learn] at he
  split at he
  · rename_i hnew
    cases he
    rw [hw.live src hgone] at hp
    cases hp
    rw [hnew.1]
    exact hvouches
  · exact h slot entry ptr he hdyn hp

theorem Vouched.deliver (h : sw.Vouched) (hw : sw.WellFormed) (env : Env)
    (src : Ptr) (data : Bytes) : (deliver env sw src data).1.Vouched := by
  have hdel := delivered env sw src data
  generalize (Switch.deliver env sw src data).1 = after at hdel ⊢
  cases hdel with
  | counted hcnt => exact h.quiet hcnt.quiet
  | shut reason _ hcnt =>
    exact (h.quiet hcnt.quiet).blockPort (hw.quiet hcnt.quiet) src reason
  | heard _ _ =>
    exact (h.quiet (counted_countRx sw src _).quiet).quiet
      (bridged_handleBPDU env _ src _).quiet
  | @learned frame key counted _ hin hcnt hsent =>
    have hlearn : (Switch.learnSource env counted src frame key).Vouched := by
      refine (h.quiet hcnt.quiet).learnSource (hw.quiet hcnt.quiet) env ?_ ?_
      · rw [hcnt.gone]
        exact (ingress_eq_admitted hin).2.1
      rw [hcnt.attrs]
      obtain ⟨-, -, hon, -, -, -, -, hsecure⟩ := ingress_eq_admitted hin
      refine ⟨hon, fun secure hmac => ?_⟩
      simpa [securityViolated, hmac] using hsecure
    rcases hsent with hsent | hsent
    · exact hlearn.quiet hsent.quiet
    · exact (hlearn.quiet (quiet_charged env _ src)).quiet hsent.quiet

theorem Vouched.addStaticFDB (h : sw.Vouched) {now vlan : Int} {mac : Bytes}
    {portID : String} (hadd : sw.addStaticFDB now vlan mac portID = .ok after) :
    after.Vouched := by
  obtain ⟨fdb, rfl, hfdb⟩ := fdb_of_addStaticFDB hadd
  refine h.withFdb fun key entry he hdyn => ?_
  rcases hfdb key entry he with hold | ⟨hstat, -⟩
  · exact hold
  · simp [hdyn] at hstat

theorem Vouched.apply (h : sw.Vouched) (hw : sw.WellFormed) (env : Env) {op : Op}
    (hcautious : sw.Cautious op) : (sw.apply env op).1.Vouched := by
  cases op with
  | addPort port attrs => exact h.settle fun _ => h.addPort hw
  | removePort id => exact h.removePort id
  | notifyDown id => exact h.quiet (quiet_flushPort sw id)
  | updatePortAttrs id attrs => exact h.settle fun _ => h.updatePortAttrs hw hcautious
  | blockPort id reason =>
    dsimp only [Switch.apply]
    split
    · exact h
    · exact h.blockPort hw _ reason
  | addStaticFDB vlan mac portID => exact h.settle fun _ => h.addStaticFDB
  | removeStaticFDB vlan mac =>
    refine h.settle fun _ hremove => ?_
    obtain ⟨fdb, rfl, hfdb⟩ := fdb_of_removeStaticFDB hremove
    exact h.withFdb fun key entry he _ => hfdb key entry he
  | deleteFDBEntry vlan mac =>
    refine h.settle fun _ hdelete => ?_
    obtain ⟨fdb, rfl, hfdb⟩ := fdb_of_deleteFDBEntry hdelete
    exact h.withFdb fun key entry he _ => hfdb key entry he
  | flushFDB portID vlan => exact h.quiet (quiet_fdb sw (Fdb.prunes_flush _ _ _))
  | setFDBMaxAge maxAge =>
    dsimp only [Switch.apply, setFDBMaxAge]
    split
    · exact h
    · exact h.withFdb fun _ _ he _ => he
  | expire => exact h.quiet (quiet_fdb sw (Fdb.prunes_expire _ _))
  | setSTPConfig cfg => exact h.quiet (bridged_setSTPConfig env sw cfg).quiet
  | runDeferred => exact h.quiet (bridged_runDeferred env sw).quiet
  | stpTick dt => exact h.quiet (bridged_stpTick env sw dt).quiet
  | loopProbes => exact h
  | deliver srcID data =>
    dsimp only [Switch.apply, Switch.deliverFrom]
    split
    · exact h
    · exact h.deliver hw env _ data

end Switch

/-! ## Runs -/

namespace World

def Cautious (world : World) (label : Env × Event) : Prop :=
  ∀ op, label.2 = .op op → world.sw.Cautious op

theorem vouched_step {world : World} (h : world.sw.Vouched)
    (hw : world.sw.WellFormed) {label : Env × Event} (hcautious : world.Cautious label) :
    (world.step label.1 label.2).1.sw.Vouched := by
  obtain ⟨env, event⟩ := label
  cases event with
  | op op => exact h.apply hw env (hcautious op rfl)
  | ref id => exact h
  | refDeliver index data =>
    dsimp only [World.step]
    split
    · exact h
    unfold PortRef.deliver
    split
    · exact h
    · exact h.deliver hw env _ data

end World

/-- In every run in which no update of a port leaves addresses behind that the new
attributes exclude, the port of a dynamic entry is enabled and its security MAC,
if it has one, is the address learned. -/
theorem learned_entries_vouched {world : World}
    (h : Reachable World.Initial (Guarded World.Cautious World.Step) world) {key : FdbKey}
    {entry : FdbEntry} {ptr : Ptr} (hentry : world.sw.fdb.m.get? key = some entry)
    (hdynamic : entry.static = false) (hport : world.sw.ports.get? entry.portID = some ptr) :
    (world.sw.entry ptr).attrs.disabled = false ∧
      ∀ secure, (world.sw.entry ptr).attrs.securityMAC = some secure →
        key.mac = macAt secure 0 := by
  have hvouched : world.sw.Vouched := by
    refine switch_invariant ?_ ?_ h
    · intro instanceID key entry ptr hentry
      cases hentry
    · intro state hreached hst env event hcautious
      exact vouched_step hst hreached.wellFormed hcautious
  exact hvouched key entry ptr hentry hdynamic hport

def pinned : List Event :=
  [.op (.addPort ⟨"ten", 1⟩ { vlan := 10 }), .op (.deliver "ten" greeting),
    .op (.updatePortAttrs "ten" { vlan := 10, securityMAC := some [0x02, 0, 0, 0, 0, 7] })]

theorem learned_entries_vouched_pinned :
    ∃ world, Reachable World.Initial (Guarded World.Cautious World.Step) world ∧
      ∃ key entry, world.sw.fdb.m.get? key = some entry ∧ entry.static = false ∧
        world.sw.ports.get? entry.portID = some 0 ∧
        (world.sw.entry 0).attrs.disabled = false ∧
        ∀ secure, (world.sw.entry 0).attrs.securityMAC = some secure →
          key.mac = macAt secure 0 := by
  have hreach : Reachable Initial (Guarded Cautious Step)
      ((start 7).run (steadyEnv 1) pinned) := by
    refine reachable_run (.start ⟨7, rfl⟩) _ ⟨?_, ?_, ?_, trivial⟩ <;> rintro op ⟨⟩
    · trivial
    · trivial
    · intro ptr _ _ key entry he _ _
      have hall : ∀ item ∈ ((start 7).run (steadyEnv 1) (pinned.take 2)).sw.fdb.m.entries,
          item.1.mac = macAt [0x02, 0, 0, 0, 0, 7] 0 := by decide
      refine ⟨rfl, fun secure hsecure => ?_⟩
      cases hsecure
      exact hall _ ((GoMap.get?_eq_some_iff _ _ _).mp he)
  have he : ((start 7).run (steadyEnv 1) pinned).sw.fdb.m.get?
      ⟨10, macAt greeting 6⟩ = some ⟨"ten", some 0, 1, false⟩ := by decide
  have hp : ((start 7).run (steadyEnv 1) pinned).sw.ports.get? "ten" = some 0 := by decide
  exact ⟨_, hreach, _, _, he, rfl, hp, learned_entries_vouched hreach he rfl hp⟩

def disabledLater : World :=
  greeted.run (steadyEnv 1) [.op (.updatePortAttrs "ten" { vlan := 10, disabled := true })]

def pinnedOther : World :=
  greeted.run (steadyEnv 1)
    [.op (.updatePortAttrs "ten" { vlan := 10, securityMAC := some [0x02, 0, 0, 0, 0, 9] })]

/-- The entry stays, and frames for the address go to the port and nowhere else. -/
theorem update_leaves_entries :
    (disabledLater.Reached ∧
      disabledLater.sw.fdb.m.get? ⟨10, macAt greeting 6⟩ =
        some ⟨"ten", some 1, 1, false⟩ ∧
      (disabledLater.sw.entry 1).attrs.disabled = true) ∧
    pinnedOther.Reached ∧
      pinnedOther.sw.fdb.m.get? ⟨10, macAt greeting 6⟩ =
        some ⟨"ten", some 1, 1, false⟩ ∧
      (pinnedOther.sw.entry 1).attrs.securityMAC = some [0x02, 0, 0, 0, 0, 9] ∧
      macAt greeting 6 ≠ macAt [0x02, 0, 0, 0, 0, 9] 0 := by
  have hgreeted : greeted.Reached := reached_threePorts.run (steadyEnv 1) _
  exact ⟨⟨hgreeted.run (steadyEnv 1) _, by decide, by decide⟩,
    hgreeted.run (steadyEnv 1) _, by decide, by decide, by decide⟩

end GvSwitch.SwitchCore
