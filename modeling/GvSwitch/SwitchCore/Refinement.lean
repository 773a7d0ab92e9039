import GvSwitch.SwitchCore.Forwarding
import GvSwitch.SwitchCore.Reference

/-!
# Pointers refine identifiers

`abs` forgets the pointers.  While the spanning tree is off, every operation of
the switch commutes with `abs`: it acts on the port map, the counters and the
forwarding database as the reference switch does, and makes the same calls.
-/

namespace GvSwitch.SwitchCore

open Foundation GoMap PortRef

def Op.plain : Op → Bool
  | .setSTPConfig _ => false
  | _ => true

def Event.plain : Event → Bool
  | .op operation => operation.plain
  | _ => true

/-! ## Forgetting pointers in the table -/

namespace Fdb

def forget (fdb : Fdb) : Fdb :=
  { fdb with m := fdb.m.mapValues fun _ entry => { entry with port := none } }

section Tables

variable (fdb : Fdb)

theorem get?_forget (key : FdbKey) :
    fdb.forget.m.get? key =
      (fdb.m.get? key).map fun entry => { entry with port := none } :=
  get?_mapValues _ _ _

theorem forget_flushPort (id : String) :
    (fdb.flushPort id).forget = fdb.forget.flushPort id := by
  simp only [forget, flushPort, filter_mapValues]

theorem forget_flush (id : String) (vlan : Option Int) :
    (fdb.flush id vlan).1.forget = (fdb.forget.flush id vlan).1 := by
  simp only [forget, flush, flushes, filter_mapValues]

theorem forget_expire (now : Int) : (fdb.expire now).forget = fdb.forget.expire now := by
  unfold forget expire
  rw [filter_mapValues]

theorem forget_addStatic (now vlan : Int) (mac : MAC) (id : String) :
    (fdb.addStatic now vlan mac id).forget = fdb.forget.addStatic now vlan mac id := by
  simp only [forget, addStatic, mapValues_set]

theorem forget_learn (now vlan : Int) (mac : MAC) (srcID : String) (src : Option Ptr) :
    (fdb.learn now vlan mac srcID src).forget =
      fdb.forget.learn now vlan mac srcID none := by
  unfold learn
  rw [get?_forget]
  cases fdb.m.get? ⟨vlan, mac⟩ with
  | none => simp only [forget, mapValues_set, Option.map_none]
  | some entry =>
    simp only [Option.map_some]
    split
    · rfl
    · simp only [forget, mapValues_set]

theorem forget_removeStatic (vlan : Int) (mac : MAC) :
    fdb.forget.removeStatic vlan mac = (fdb.removeStatic vlan mac).map forget := by
  unfold removeStatic
  rw [get?_forget]
  cases fdb.m.get? ⟨vlan, mac⟩ with
  | none => rfl
  | some entry =>
    simp only [Option.map_some]
    split
    · simp only [forget, erase_mapValues, Except.map]
    · rfl

theorem forget_removeDynamic (vlan : Int) (mac : MAC) :
    fdb.forget.removeDynamic vlan mac = (fdb.removeDynamic vlan mac).map forget := by
  unfold removeDynamic
  rw [get?_forget]
  cases fdb.m.get? ⟨vlan, mac⟩ with
  | none => rfl
  | some entry =>
    simp only [Option.map_some]
    split
    · rfl
    · simp only [forget, erase_mapValues, Except.map]

theorem forget_lookup (now vlan : Int) (mac : MAC) :
    (fdb.forget.lookup now vlan mac).2 = (fdb.lookup now vlan mac).2 := by
  have hage : fdb.forget.maxAge = fdb.maxAge := rfl
  unfold lookup
  simp only [get?_forget, hage]
  cases fdb.m.get? ⟨vlan, mac⟩ with
  | none => rfl
  | some entry =>
    simp only [Option.map_some]
    split <;> rfl

end Tables

end Fdb

/-! ## The abstraction -/

namespace Switch

def abs (sw : Switch) : Reference where
  ports := sw.ports.mapValues fun _ ptr => sw.entry ptr
  fdb := sw.fdb.forget
  instanceID := sw.instanceID
  portNumSeq := sw.portNumSeq

theorem abs_get? (sw : Switch) (id : String) :
    sw.abs.ports.get? id = (sw.ports.get? id).map sw.entry :=
  get?_mapValues _ _ _

@[simp] theorem abs_keys (sw : Switch) : sw.abs.ports.keys = sw.ports.keys :=
  keys_mapValues _ _

variable {sw before after : Switch} {id : String} {ptr src : Ptr}
variable {source : PortEntry}

/-- A write through the pointer of a registered port is a write by name. -/
theorem WellFormed.abs_modify (h : WellFormed sw) (hp : sw.ports.get? id = some ptr)
    (f : PortEntry → PortEntry) : (sw.modify ptr f).abs = sw.abs.modify id f := by
  have hports : (sw.modify ptr f).abs.ports =
      (sw.abs.modify id f).ports := by
    dsimp only [Reference.modify, abs]
    rw [mapValues_mapValues]
    refine mapValues_congr sw.ports ?_
    intro name target hname
    split
    · rename_i hs
      rw [hs, hp] at hname
      cases hname
      exact entry_modify_self sw ptr f
    · rename_i ho
      refine entry_modify_of_ne sw f ?_
      rintro rfl
      exact ho ((h.registered name _ hname).1.symm.trans (h.registered id _ hp).1)
  simp only [abs, Reference.modify] at hports ⊢
  rw [hports]
  rfl

theorem abs_flushPort (sw : Switch) (id : String) :
    (sw.flushPort id).abs = sw.abs.flushPort id := by
  simp only [abs, Switch.flushPort, Reference.flushPort, Fdb.forget_flushPort]
  rfl

/-! ## Administration -/

section Registered

variable (h : WellFormed sw)

include h

theorem WellFormed.abs_register {port : Port} (attrs : CheckedAttrs) :
    (sw.register port attrs).abs =
      { sw.abs with
        ports := sw.abs.ports.set port.id
          { id := port.id, port := port, attrs := attrs,
            portNum := sw.portNumSeq + 1 }
        portNumSeq := sw.portNumSeq + 1 } := by
  have hold : sw.ports.mapValues
      (fun _ ptr => (sw.register port attrs).entry ptr) =
        sw.ports.mapValues fun _ ptr => sw.entry ptr := by
    refine mapValues_congr _ ?_
    intro name target hname
    rw [entry_register, if_neg (Nat.ne_of_lt (h.lt_next hname))]
  have hnew : (sw.register port attrs).entry sw.next =
      { id := port.id, port := port, attrs := attrs, portNum := sw.portNumSeq + 1 } := by
    rw [entry_register, if_pos rfl]
  have hports : (sw.register port attrs).abs.ports =
      sw.abs.ports.set port.id
        { id := port.id, port := port, attrs := attrs, portNum := sw.portNumSeq + 1 } := by
    have hset := mapValues_set sw.ports
      (fun _ ptr => (sw.register port attrs).entry ptr) port.id sw.next
    rw [hold, hnew] at hset
    exact hset
  rw [← hports]
  rfl

theorem WellFormed.abs_addPort (port : Port) (attrs : PortAttrs) :
    (sw.settle (sw.addPort port attrs)).abs = sw.abs.addPort port attrs := by
  unfold Switch.addPort Reference.addPort
  cases attrs.check with
  | error reason => rfl
  | ok checked =>
    dsimp only
    split
    · rfl
    rw [abs_get?]
    cases sw.ports.get? port.id with
    | some ptr => rfl
    | none => exact h.abs_register checked

theorem WellFormed.abs_removePort (id : String) :
    (sw.removePort id).abs = sw.abs.removePort id := by
  unfold Switch.removePort Reference.removePort
  rw [abs_get?]
  cases hp : sw.ports.get? id with
  | none => rfl
  | some ptr =>
    dsimp only [Option.map_some]
    rw [portDown, abs_flushPort]
    congr 1
    -- The marked entry is no longer in the map.
    have hports : (sw.unregister id ptr).abs.ports =
        sw.abs.ports.erase id := by
      dsimp only [abs]
      rw [erase_mapValues]
      refine mapValues_congr (sw.ports.erase id) ?_
      intro name target hname
      refine entry_unregister_of_ne sw id ?_
      rw [get?_erase] at hname
      split at hname
      · cases hname
      rename_i ho
      rintro rfl
      exact ho ((h.registered name _ hname).1.symm.trans (h.registered id _ hp).1)
    rw [← hports]
    rfl

theorem WellFormed.abs_writeAttrs (hp : sw.ports.get? id = some ptr) (attrs : CheckedAttrs) :
    (sw.writeAttrs ptr attrs).abs = sw.abs.writeAttrs id attrs := by
  unfold Reference.writeAttrs
  rw [← h.abs_modify hp]
  rfl

theorem WellFormed.abs_updatePortAttrs (id : String) (attrs : PortAttrs) :
    (sw.settle (sw.updatePortAttrs id attrs)).abs =
      sw.abs.updatePortAttrs id attrs := by
  unfold Switch.updatePortAttrs Reference.updatePortAttrs
  cases attrs.check with
  | error reason => rfl
  | ok checked =>
    rw [abs_get?]
    cases hp : sw.ports.get? id with
    | none => rfl
    | some ptr =>
      dsimp only [Option.map_some]
      split
      · exact (abs_flushPort _ id).trans
          (congrArg (·.flushPort id) (h.abs_writeAttrs hp checked))
      · exact h.abs_writeAttrs hp checked

theorem WellFormed.abs_blockPort (hp : sw.ports.get? id = some ptr) (reason : BlockReason) :
    (sw.blockPort ptr reason).abs = sw.abs.blockPort id reason := by
  unfold Switch.blockPort Reference.blockPort shutPort
  rw [abs_get?, hp, (h.registered id ptr hp).1, abs_flushPort]
  dsimp only [Option.map_some]
  split
  · rfl
  · rw [h.abs_modify hp]

end Registered

theorem abs_addStaticFDB (sw : Switch) (now vlan : Int) (mac : Bytes) (portID : String) :
    (sw.settle (sw.addStaticFDB now vlan mac portID)).abs =
      sw.abs.addStaticFDB now vlan mac portID := by
  unfold Switch.addStaticFDB Reference.addStaticFDB
  split
  · rfl
  split
  · rfl
  cases macKey mac with
  | error reason => rfl
  | ok key =>
    dsimp only
    split
    · rfl
    · simp only [settle, abs, Fdb.forget_addStatic]
      rfl

theorem abs_removeStaticFDB (sw : Switch) (vlan : Int) (mac : Bytes) :
    (sw.settle (sw.removeStaticFDB vlan mac)).abs =
      sw.abs.removeStaticFDB vlan mac := by
  unfold Switch.removeStaticFDB Reference.removeStaticFDB
  cases macKey mac with
  | error reason => rfl
  | ok key =>
    have hforget := Fdb.forget_removeStatic sw.fdb (int32 vlan) key
    dsimp only
    rw [show sw.abs.fdb = sw.fdb.forget from rfl, hforget]
    cases sw.fdb.removeStatic (int32 vlan) key <;> rfl

theorem abs_deleteFDBEntry (sw : Switch) (vlan : Int) (mac : Bytes) :
    (sw.settle (sw.deleteFDBEntry vlan mac)).abs =
      sw.abs.deleteFDBEntry vlan mac := by
  unfold Switch.deleteFDBEntry Reference.deleteFDBEntry
  cases macKey mac with
  | error reason => rfl
  | ok key =>
    have hforget := Fdb.forget_removeDynamic sw.fdb (int32 vlan) key
    dsimp only
    rw [show sw.abs.fdb = sw.fdb.forget from rfl, hforget]
    cases sw.fdb.removeDynamic (int32 vlan) key <;> rfl

/-! ## Delivery -/

theorem WellFormed.abs_floodStep {state : Switch × List SendCall} (h : WellFormed state.1)
    (env : Env) (hattrs : (state.1.entry src).attrs = source.attrs) (frame : FrameView)
    (key : Int) (id : String) :
    Reference.offer env source frame key (state.1.abs, state.2) id =
      ((floodStep env src source.id frame key state id).1.abs,
        (floodStep env src source.id frame key state id).2) := by
  unfold Reference.offer floodStep
  rw [abs_get?]
  cases hp : state.1.ports.get? id with
  | none => rfl
  | some dst =>
    have hmay : state.1.mayEgress src dst key = true ↔
        (state.1.entry dst).stpState = .forwarding ∧
          egressEligible source.attrs.toPortAttrs
            (state.1.entry dst).attrs.toPortAttrs key = true := by
      simp [mayEgress, hattrs]
    dsimp only [Option.map_some]
    by_cases hself : id = source.id
    · rw [if_pos hself, if_pos (.inl hself)]
    rw [if_neg hself]
    by_cases hallowed : state.1.mayEgress src dst key = true
    · rw [if_pos (hmay.mp hallowed), if_neg (by simp [hself, hallowed])]
      simp only [send, countTx, Reference.countTx, h.abs_modify hp]
    · rw [if_neg (fun hyes => hallowed (hmay.mpr hyes)),
        if_pos (.inr (by simpa using hallowed))]

theorem WellFormed.abs_foldl_floodStep {state : Switch × List SendCall}
    (h : WellFormed state.1) (env : Env) (hattrs : (state.1.entry src).attrs = source.attrs)
    (frame : FrameView) (key : Int) (ids : List String) :
    ids.foldl (Reference.offer env source frame key) (state.1.abs, state.2) =
      ((ids.foldl (floodStep env src source.id frame key) state).1.abs,
        (ids.foldl (floodStep env src source.id frame key) state).2) := by
  induction ids generalizing state with
  | nil => rfl
  | cons id rest ih =>
    rw [List.foldl_cons, List.foldl_cons, h.abs_floodStep env hattrs frame key id]
    refine ih (h.quiet (counted_floodStep env src source.id frame key state id).quiet) ?_
    rw [(counted_floodStep env src source.id frame key state id).attrs]
    exact hattrs

theorem WellFormed.abs_flood (h : WellFormed sw) (env : Env)
    (hattrs : (sw.entry src).attrs = source.attrs) (frame : FrameView) (key : Int) :
    Reference.flood env sw.abs source frame key =
      ((flood env sw src source.id frame key).1.abs,
        (flood env sw src source.id frame key).2) := by
  unfold Reference.flood flood
  rw [abs_keys]
  have hw : WellFormed ((sw, []) : Switch × List SendCall).1 := h
  exact hw.abs_foldl_floodStep env hattrs frame key _

section Limited

variable (h : WellFormed sw) (env : Env)
  (hp : sw.ports.get? source.id = some src)
  (hattrs : (sw.entry src).attrs = source.attrs)
  (hstorm : (sw.entry src).storm = source.storm) (frame : FrameView) (key : Int)

include h hp hattrs hstorm

theorem WellFormed.abs_floodLimited :
    Reference.floodLimited env sw.abs source frame key =
      ((floodLimited env sw src source.id frame key).1.abs,
        (floodLimited env sw src source.id frame key).2) := by
  unfold Reference.floodLimited floodLimited
  rw [hattrs, hstorm]
  dsimp only
  split
  · rw [← h.abs_modify hp]
    have hcharged := h.quiet (quiet_chargeStorm sw src
      (source.storm.allow env.now source.attrs.stormPPS).1)
    split
    · refine hcharged.abs_flood env ?_ frame key
      rw [(sameConfig_chargeStorm sw src _).attrs]
      exact hattrs
    · have hp' := hp
      simp only [Reference.countStormDropped, countStormDropped, hcharged.abs_modify hp']
      rfl
  · exact h.abs_flood env hattrs frame key

theorem WellFormed.abs_forward :
    Reference.forward env sw.abs source frame key =
      ((forward env sw src source.id frame key).1.abs,
        (forward env sw src source.id frame key).2) := by
  unfold Reference.forward forward
  rw [show sw.abs.fdb = sw.fdb.forget from rfl]
  simp only [Fdb.forget_lookup]
  split
  · exact h.abs_floodLimited env hp hattrs hstorm frame key
  split
  · rename_i hhit
    have hw : WellFormed ((sw, []) : Switch × List SendCall).1 := h
    have hstep := hw.abs_floodStep env hattrs frame key
      (sw.fdb.lookup env.now key frame.dstMAC).2
    rw [h.unicast_eq_floodStep env src source.id frame key frame.dstMAC hhit]
    exact hstep
  · exact h.abs_floodLimited env hp hattrs hstorm frame key

end Limited

theorem abs_ingress (sw : Switch) (hlive : (sw.entry src).gone = false) (data : Bytes) :
    sw.abs.ingress (sw.entry src) data = sw.ingress src data := by
  unfold Reference.ingress ingress
  simp only [hlive, Bool.false_eq_true, if_false]
  rfl

theorem abs_learnSource (env : Env) (sw : Switch) (src : Ptr) (frame : FrameView)
    (key : Int) :
    (learnSource env sw src frame key).abs =
      sw.abs.learnSource env (sw.entry src).id frame key := by
  unfold learnSource Reference.learnSource
  split
  · rfl
  · simp only [abs, Fdb.forget_learn]
    rfl

theorem WellFormed.abs_countRx (h : WellFormed sw) (hp : sw.ports.get? id = some src)
    (bytes : Nat) : (Switch.countRx sw src bytes).abs = sw.abs.countRx id bytes :=
  h.abs_modify hp _

theorem WellFormed.abs_countRxDropped (h : WellFormed sw) (hp : sw.ports.get? id = some src) :
    (Switch.countRxDropped sw src).abs = sw.abs.countRxDropped id :=
  h.abs_modify hp _

theorem WellFormed.abs_switchFrame (h : WellFormed sw) (env : Env)
    (hp : sw.ports.get? id = some src) (hid : source.id = id)
    (hattrs : (sw.entry src).attrs = source.attrs)
    (hstorm : (sw.entry src).storm = source.storm)
    (hst : (sw.entry src).stpState = source.stpState) (frame : FrameView) (key : Int)
    (hadm : (sw.entry src).attrs.admits key = true) :
    (if source.stpState = .learning then
        ((sw.abs.learnSource env id frame key).countRxDropped id, [])
      else Reference.forward env (sw.abs.learnSource env id frame key) source frame
        key) =
      ((switchFrame env sw src frame key).1.abs,
        (switchFrame env sw src frame key).2) := by
  obtain ⟨hname, -, hlive, -⟩ := h.registered id src hp
  have hlearn : WellFormed (Switch.learnSource env sw src frame key) :=
    h.learnSource env hlive hadm
  have hs := sameConfig_learnSource env sw src frame key
  have hp' : (Switch.learnSource env sw src frame key).ports.get? id =
      some src := by
    rw [hs.ports]
    exact hp
  rw [← hname, ← abs_learnSource, hname]
  dsimp only [switchFrame]
  rw [hst, hname]
  split
  · rw [hlearn.abs_countRxDropped hp']
  subst hid
  refine hlearn.abs_forward env hp' ?_ ?_ frame key
  · rw [learnSource_entry]
    exact hattrs
  · rw [learnSource_entry]
    exact hstorm

theorem WellFormed.abs_deliver (h : WellFormed sw) (hstp : sw.stp.cfg.enabled = false)
    (env : Env) (hp : sw.ports.get? id = some src) (data : Bytes) :
    Reference.deliver env sw.abs id data =
      ((Switch.deliver env sw src data).1.abs,
        (Switch.deliver env sw src data).2) := by
  obtain ⟨hname, -, hlive, -⟩ := h.registered id src hp
  have hs := counted_countRx sw src data.length
  have hw := h.quiet hs.quiet
  have hp' := hp
  unfold Reference.deliver Switch.deliver
  rw [abs_get?, hp]
  dsimp only [Option.map_some]
  rw [abs_ingress sw hlive, ← h.abs_countRx hp]
  cases hin : sw.ingress src data with
  | unparsed | gone => rfl
  | disabled | stpBlocked | vlanRefused | insecure =>
    dsimp only
    rw [← hw.abs_countRxDropped hp']
  | ownProbe =>
    dsimp only
    rw [← hw.abs_blockPort hp']
  | reserved =>
    dsimp only
    rw [consumeReserved_of_disabled env _ src data (by rw [hs.stp]; exact hstp), hs.attrs]
    split
    · rw [← hw.abs_blockPort hp']
    · rfl
  | admitted frame key =>
    obtain ⟨-, -, -, -, -, -, hkey, -⟩ := ingress_eq_admitted hin
    refine hw.abs_switchFrame env hp' hname (hs.attrs src) (hs.storm src)
      (hs.stpState src) frame key ?_
    rw [hs.attrs]
    exact admits_of_ingressKey hkey

theorem abs_loopProbes (env : Env) (sw : Switch) :
    sw.abs.loopProbes env = loopProbes env sw := by
  unfold Reference.loopProbes loopProbes
  rw [abs_keys]
  refine List.filterMap_congr ?_
  intro id _
  rw [abs_get?]
  cases sw.ports.get? id <;> rfl

theorem WellFormed.abs_apply (h : WellFormed sw) (hstp : sw.stp.cfg.enabled = false)
    (env : Env) {op : Op} (hop : op.plain = true) :
    sw.abs.apply env op =
      ((sw.apply env op).1.abs, (sw.apply env op).2) := by
  cases op with
  | addPort port attrs => exact congrArg (·, []) (h.abs_addPort port attrs).symm
  | removePort id => exact congrArg (·, []) (h.abs_removePort id).symm
  | notifyDown id => exact congrArg (·, []) (abs_flushPort sw id).symm
  | updatePortAttrs id attrs =>
    exact congrArg (·, []) (h.abs_updatePortAttrs id attrs).symm
  | blockPort id reason =>
    dsimp only [Reference.apply, Switch.apply]
    cases hp : sw.ports.get? id with
    | none =>
      simp only [Reference.blockPort, abs_get?, hp, Option.map_none]
    | some ptr => exact congrArg (·, []) (h.abs_blockPort hp reason).symm
  | addStaticFDB vlan mac portID =>
    exact congrArg (·, []) (abs_addStaticFDB sw env.now vlan mac portID).symm
  | removeStaticFDB vlan mac =>
    exact congrArg (·, []) (abs_removeStaticFDB sw vlan mac).symm
  | deleteFDBEntry vlan mac =>
    exact congrArg (·, []) (abs_deleteFDBEntry sw vlan mac).symm
  | flushFDB portID vlan =>
    simp only [Reference.apply, Switch.apply, flushFDB, abs, Fdb.forget_flush]
    rfl
  | setFDBMaxAge maxAge =>
    simp only [Reference.apply, Switch.apply, setFDBMaxAge]
    split <;> rfl
  | expire =>
    simp only [Reference.apply, Switch.apply, expire, abs, Fdb.forget_expire]
    rfl
  | setSTPConfig cfg => cases hop
  | runDeferred =>
    simp only [Reference.apply, Switch.apply, runDeferred, hstp]
    rfl
  | stpTick dt =>
    simp only [Reference.apply, Switch.apply, stpTick, hstp]
    rfl
  | loopProbes => simp only [Reference.apply, Switch.apply, abs_loopProbes]
  | deliver srcID data =>
    dsimp only [Reference.apply, Switch.apply, Switch.deliverFrom]
    cases hp : sw.ports.get? srcID with
    | none => simp only [Reference.deliver, abs_get?, hp, Option.map_none]
    | some src => exact h.abs_deliver hstp env hp data

/-! ## What the delivery handles rely on -/

def IdsKept (before after : Switch) : Prop :=
  before.next ≤ after.next ∧ ∀ ptr, ptr < before.next →
    (after.entry ptr).id = (before.entry ptr).id

theorem IdsKept.refl (sw : Switch) : IdsKept sw sw :=
  ⟨Nat.le_refl _, fun _ _ => rfl⟩

theorem Kept.idsKept (h : Kept before after) : IdsKept before after :=
  ⟨Nat.le_of_eq h.next.symm, fun ptr _ => h.id ptr⟩

theorem idsKept_register (sw : Switch) (port : Port) (attrs : CheckedAttrs) :
    IdsKept sw (sw.register port attrs) := by
  refine ⟨Nat.le_succ _, fun ptr hold => ?_⟩
  rw [entry_register, if_neg (Nat.ne_of_lt hold)]

theorem idsKept_removePort (sw : Switch) (id : String) : IdsKept sw (sw.removePort id) := by
  unfold removePort
  split
  · exact .refl _
  rename_i ptr hp
  refine ⟨Nat.le_refl _, fun other _ => ?_⟩
  exact entry_modify_field (·.id) { sw with ports := sw.ports.erase id }
    ptr other (fun entry => { entry with gone := true }) fun _ => rfl

structure Steady (before after : Switch) : Prop where
  ids : IdsKept before after
  stp : after.stp = before.stp

theorem Steady.refl (sw : Switch) : Steady sw sw := ⟨.refl _, rfl⟩

theorem Kept.steady (h : Kept before after) : Steady before after := ⟨h.idsKept, h.stp⟩

theorem Steady.fdb (h : Steady before after) (fdb : Fdb) :
    Steady before { after with fdb := fdb } := ⟨h.ids, h.stp⟩

theorem steady_settle {ε : Type} (sw : Switch) {result : Except ε Switch}
    (hok : ∀ after, result = .ok after → Steady sw after) :
    Steady sw (sw.settle result) := by
  cases result with
  | error reason => exact .refl _
  | ok after => exact hok after rfl

theorem steady_addPort {port : Port} {attrs : PortAttrs}
    (hadd : sw.addPort port attrs = .ok after) : Steady sw after := by
  obtain ⟨checked, -, -, -, rfl⟩ := addPort_ok hadd
  exact ⟨idsKept_register _ _ _, rfl⟩

theorem steady_updatePortAttrs {attrs : PortAttrs}
    (hupd : sw.updatePortAttrs id attrs = .ok after) : Steady sw after := by
  obtain ⟨checked, ptr, fdb, -, -, rfl⟩ := updatePortAttrs_ok hupd
  have hwrite : Steady sw (sw.writeAttrs ptr checked) :=
    ⟨⟨Nat.le_refl _, fun other _ =>
      writeAttrs_field (·.id) sw ptr other checked fun _ _ => rfl⟩, rfl⟩
  exact hwrite.fdb fdb

theorem steady_apply (env : Env) (hstp : sw.stp.cfg.enabled = false) {op : Op}
    (hop : op.plain = true) : Steady sw (sw.apply env op).1 := by
  by_cases hfdb : op.isFdb = true
  · obtain ⟨fdb, happly⟩ := apply_fdb env sw hfdb
    rw [happly]
    exact (Steady.refl sw).fdb fdb
  cases op with
  | addPort port attrs => exact steady_settle sw fun _ => steady_addPort
  | removePort id =>
    refine ⟨idsKept_removePort sw id, ?_⟩
    dsimp only [Switch.apply, removePort]
    split <;> rfl
  | updatePortAttrs id attrs =>
    exact steady_settle sw fun _ => steady_updatePortAttrs
  | blockPort id reason =>
    dsimp only [Switch.apply]
    split
    · exact .refl _
    · exact (kept_blockPort sw _ reason).steady
  | setSTPConfig cfg => cases hop
  | runDeferred =>
    simp only [Switch.apply, runDeferred, hstp]
    exact ⟨⟨Nat.le_refl _, fun _ _ => rfl⟩, rfl⟩
  | stpTick dt =>
    simp only [Switch.apply, stpTick, hstp]
    exact .refl _
  | loopProbes => exact .refl _
  | deliver srcID data =>
    dsimp only [Switch.apply, Switch.deliverFrom]
    split
    · exact .refl _
    · exact (kept_deliver env sw _ data hstp).steady
  | _ => exact absurd rfl hfdb

end Switch

/-! ## Whole runs -/

def World.abs (world : World) : ReferenceWorld :=
  ⟨world.sw.abs, world.refs.map (·.id)⟩

def ReferenceWorld.start (instanceID : UInt64) : ReferenceWorld :=
  ⟨.new instanceID, []⟩

/-- The spanning tree is off and each handle caches an entry of its port. -/
structure World.Linked (world : World) : Prop where
  wellFormed : world.sw.WellFormed
  stpOff : world.sw.stp.cfg.enabled = false
  cached : ∀ ref ∈ world.refs, ∀ ptr, ref.cached = some ptr →
    ptr < world.sw.next ∧ (world.sw.entry ptr).id = ref.id

namespace World

theorem linked_start (instanceID : UInt64) : (World.start instanceID).Linked where
  wellFormed := Switch.wellFormed_newSwitch instanceID
  stpOff := rfl
  cached := by
    intro ref href
    cases href

variable {world : World}

theorem Linked.resolve (h : world.Linked) {ref : PortRef} (href : ref ∈ world.refs) :
    ref.resolve world.sw = world.sw.ports.get? ref.id := by
  unfold PortRef.resolve
  cases hcached : ref.cached with
  | none => rfl
  | some ptr =>
    obtain ⟨-, hid⟩ := h.cached ref href ptr hcached
    dsimp only
    split
    · rfl
    rename_i hgone
    have hlive := h.wellFormed.live ptr (by simpa using hgone)
    rw [hid] at hlive
    exact hlive.symm

theorem Linked.op (h : world.Linked) (env : Env) {op : Op} (hop : op.plain = true) :
    (world.step env (.op op)).1.Linked := by
  have hsteady := Switch.steady_apply env h.stpOff hop
  refine ⟨h.wellFormed.apply env op, ?_, ?_⟩
  · change (world.sw.apply env op).1.stp.cfg.enabled = false
    rw [hsteady.stp]
    exact h.stpOff
  · intro ref href ptr hcached
    obtain ⟨hold, hid⟩ := h.cached ref href ptr hcached
    exact ⟨Nat.lt_of_lt_of_le hold hsteady.ids.1, (hsteady.ids.2 ptr hold).trans hid⟩

theorem Linked.refDeliver (h : world.Linked) (env : Env) {index : Nat} {ref : PortRef}
    (href : world.refs[index]? = some ref) (data : Bytes) :
    (deliver env ref world.sw data).2 =
        Switch.deliverFrom env world.sw ref.id data ∧
      (deliver env ref world.sw data).1.id = ref.id ∧
      ∀ ptr, (deliver env ref world.sw data).1.cached = some ptr →
        ptr < world.sw.next ∧ (world.sw.entry ptr).id = ref.id := by
  have hm := List.mem_of_getElem? href
  unfold deliver Switch.deliverFrom
  rw [h.resolve hm]
  cases hp : world.sw.ports.get? ref.id with
  | none => exact ⟨rfl, rfl, h.cached ref hm⟩
  | some src =>
    refine ⟨rfl, rfl, ?_⟩
    intro ptr hcached
    cases hcached
    exact ⟨h.wellFormed.lt_next hp, (h.wellFormed.registered _ _ hp).1⟩

/-- One step keeps the link and is a step of the reference. -/
theorem Linked.step (h : world.Linked) (env : Env) {event : Event}
    (hevent : event.plain = true) :
    (world.step env event).1.Linked ∧
      world.abs.step env event =
        ((world.step env event).1.abs, (world.step env event).2) := by
  cases event with
  | op operation =>
    have hop : operation.plain = true := hevent
    refine ⟨h.op env hop, ?_⟩
    have happly := h.wellFormed.abs_apply h.stpOff env hop
    simp only [ReferenceWorld.step, World.step, World.abs, happly]
  | ref id =>
    refine ⟨⟨h.wellFormed, h.stpOff, ?_⟩, ?_⟩
    · intro ref href ptr hcached
      rcases List.mem_append.mp href with hold | hnew
      · exact h.cached ref hold ptr hcached
      · simp [List.mem_singleton.mp hnew] at hcached
    · simp [ReferenceWorld.step, World.step, World.abs]
  | refDeliver index data =>
    cases href : world.refs[index]? with
    | none =>
      simp only [World.step, ReferenceWorld.step, World.abs, List.getElem?_map, href,
        Option.map_none, and_true]
      exact h
    | some ref =>
      obtain ⟨hdeliver, hid, hcached⟩ := h.refDeliver env href data
      have hplain : (Op.deliver ref.id data).plain = true := rfl
      have happly := h.wellFormed.abs_apply h.stpOff env hplain
      have hsteady := Switch.steady_apply env h.stpOff hplain
      simp only [World.step, ReferenceWorld.step, World.abs, List.getElem?_map, href,
        Option.map_some]
      constructor
      · have hop := h.op env hplain
        rw [hdeliver]
        refine ⟨hop.wellFormed, hop.stpOff, ?_⟩
        intro other ho ptr hptr
        rcases List.mem_or_eq_of_mem_set ho with hold | rfl
        · exact hop.cached other hold ptr hptr
        obtain ⟨hlt, hname⟩ := hcached ptr hptr
        refine ⟨Nat.lt_of_lt_of_le hlt hsteady.ids.1, ?_⟩
        exact ((hsteady.ids.2 ptr hlt).trans hname).trans hid.symm
      · have hids : (world.refs.set index
            (deliver env ref world.sw data).1).map (·.id) = world.refs.map (·.id) := by
          rw [List.map_set, hid]
          refine List.ext_getElem? fun position => ?_
          rw [List.getElem?_set]
          split
          · rename_i hs
            subst hs
            obtain ⟨hidx, hname⟩ := List.getElem?_eq_some_iff.mp href
            simp [hidx, hname]
          · rfl
        rw [hids, hdeliver]
        have hres : Reference.deliver env world.sw.abs ref.id data =
            ((Switch.deliverFrom env world.sw ref.id data).1.abs,
              (Switch.deliverFrom env world.sw ref.id data).2) := happly
        rw [hres]

end World

/-- Forwarding through cached pointers makes the same calls, step by step, and
leaves the same port entries, counters and table as forwarding by identifier. -/
theorem pointers_refine_identifiers (instanceID : UInt64) (events : List (Env × Event))
    (hplain : ∀ label ∈ events, label.2.plain = true) :
    (trace (fun world label => World.step label.1 world label.2)
          (World.start instanceID) events).1.abs =
        (trace (fun world label => ReferenceWorld.step label.1 world label.2)
          (ReferenceWorld.start instanceID) events).1 ∧
      (trace (fun world label => World.step label.1 world label.2)
          (World.start instanceID) events).2 =
        (trace (fun world label => ReferenceWorld.step label.1 world label.2)
          (ReferenceWorld.start instanceID) events).2 := by
  have hstep : ∀ (world : World) (reference : ReferenceWorld) (label : Env × Event),
      label.2.plain = true → world.Linked ∧ world.abs = reference →
        ((World.step label.1 world label.2).1.Linked ∧
          (World.step label.1 world label.2).1.abs =
            (ReferenceWorld.step label.1 reference label.2).1) ∧
        (World.step label.1 world label.2).2 =
          (ReferenceWorld.step label.1 reference label.2).2 := by
    rintro world _ ⟨env, event⟩ hevent ⟨hlinked, rfl⟩
    obtain ⟨hnext, hequal⟩ := hlinked.step env hevent
    dsimp only
    rw [hequal]
    exact ⟨⟨hnext, rfl⟩, rfl⟩
  obtain ⟨⟨-, habs⟩, houtput⟩ := trace_simulation _ hstep events hplain
    (World.start instanceID) (ReferenceWorld.start instanceID)
    ⟨World.linked_start instanceID, rfl⟩
  exact ⟨habs, houtput⟩

/-- A handle outlives its port, which is removed and registered again. -/
def readded : List (Env × Event) :=
  [.ref "a", .op (.addPort ⟨"a", 1⟩ {}), .op (.addPort ⟨"b", 2⟩ {}),
    .refDeliver 0 [0x02, 0, 0, 0, 0, 2, 0x02, 0, 0, 0, 0, 1, 8, 0],
    .op (.removePort "a"), .op (.addPort ⟨"a", 3⟩ {}),
    .refDeliver 0 [0x02, 0, 0, 0, 0, 2, 0x02, 0, 0, 0, 0, 1, 8, 0]].map
      (Prod.mk (steadyEnv 1))

theorem pointers_refine_identifiers_readded :
    (trace (fun world label => World.step label.1 world label.2) (World.start 7) readded).2 =
      (trace (fun world label => ReferenceWorld.step label.1 world label.2)
        (ReferenceWorld.start 7) readded).2 :=
  (pointers_refine_identifiers 7 _ (by simp [readded, Event.plain, Op.plain])).2

end GvSwitch.SwitchCore
