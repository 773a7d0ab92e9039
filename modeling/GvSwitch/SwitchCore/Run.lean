import GvSwitch.SwitchCore.Registry

/-!
# Runs of the switch

The operations of the switch, the delivery handles its ports hold, and the
states a sequence of operations reaches.  A failed operation leaves the switch
as it was.
-/

namespace GvSwitch.SwitchCore

open Foundation

inductive Op where
  | addPort (port : Port) (attrs : PortAttrs)
  | removePort (id : String)
  | notifyDown (id : String)
  | updatePortAttrs (id : String) (attrs : PortAttrs)
  | blockPort (id : String) (reason : BlockReason)
  | addStaticFDB (vlan : Int) (mac : Bytes) (portID : String)
  | removeStaticFDB (vlan : Int) (mac : Bytes)
  | deleteFDBEntry (vlan : Int) (mac : Bytes)
  | flushFDB (portID : String) (vlan : Option Int)
  | setFDBMaxAge (maxAge : Int)
  | expire
  | setSTPConfig (cfg : StpConfig)
  | runDeferred
  | stpTick (dt : Int)
  | loopProbes
  | deliver (srcID : String) (data : Bytes)

/-- What ports, timers and the administration of the forwarding database do:
nothing is registered and no attributes are set. -/
def Op.isTraffic : Op → Bool
  | .addPort _ _ | .removePort _ | .notifyDown _ | .updatePortAttrs _ _
  | .blockPort _ _ => false
  | _ => true

def Op.isFdb : Op → Bool
  | .notifyDown _ | .addStaticFDB _ _ _ | .removeStaticFDB _ _ | .deleteFDBEntry _ _
  | .flushFDB _ _ | .setFDBMaxAge _ | .expire => true
  | _ => false

namespace Switch

def settle {ε : Type} (sw : Switch) : Except ε Switch → Switch
  | .ok after => after
  | .error _ => sw

def apply (env : Env) (sw : Switch) : Op → Switch × List SendCall
  | .addPort port attrs => (sw.settle (sw.addPort port attrs), [])
  | .removePort id => (sw.removePort id, [])
  | .notifyDown id => (sw.notifyDown id, [])
  | .updatePortAttrs id attrs => (sw.settle (sw.updatePortAttrs id attrs), [])
  | .blockPort id reason =>
    match sw.ports.get? id with
    | none => (sw, [])
    | some ptr => (sw.blockPort ptr reason, [])
  | .addStaticFDB vlan mac portID =>
    (sw.settle (sw.addStaticFDB env.now vlan mac portID), [])
  | .removeStaticFDB vlan mac => (sw.settle (sw.removeStaticFDB vlan mac), [])
  | .deleteFDBEntry vlan mac => (sw.settle (sw.deleteFDBEntry vlan mac), [])
  | .flushFDB portID vlan => ((sw.flushFDB portID vlan).1, [])
  | .setFDBMaxAge maxAge => ((sw.setFDBMaxAge maxAge).getD sw, [])
  | .expire => (sw.expire env.now, [])
  | .setSTPConfig cfg => (setSTPConfig env sw cfg, [])
  | .runDeferred => (runDeferred env sw, [])
  | .stpTick dt => stpTick env sw dt
  | .loopProbes => (sw, loopProbes env sw)
  | .deliver srcID data => deliverFrom env sw srcID data

end Switch

/-- The switch together with the delivery handles made so far. -/
structure World where
  sw : Switch
  refs : List PortRef

inductive Event where
  | op (op : Op)
  | ref (id : String)
  | refDeliver (index : Nat) (data : Bytes)

namespace World

def start (instanceID : UInt64) : World := ⟨newSwitch instanceID, []⟩

def step (env : Env) (world : World) : Event → World × List SendCall
  | .op op =>
    let result := world.sw.apply env op
    (⟨result.1, world.refs⟩, result.2)
  | .ref id => (⟨world.sw, world.refs ++ [⟨id, none⟩]⟩, [])
  | .refDeliver index data =>
    match world.refs[index]? with
    | none => (world, [])
    | some ref =>
      let result := PortRef.deliver env ref world.sw data
      (⟨result.2.1, world.refs.set index result.1⟩, result.2.2)

def Initial (world : World) : Prop := ∃ instanceID, world = start instanceID

def Step (world : World) (label : Env × Event) (after : World) : Prop :=
  (world.step label.1 label.2).1 = after

def Reached (world : World) : Prop := Reachable Initial Step world

end World

def World.run (env : Env) (world : World) (events : List Event) : World :=
  events.foldl (fun world event => (world.step env event).1) world

variable {world : World}

theorem World.Reached.run (h : world.Reached) (env : Env) (events : List Event) :
    (world.run env events).Reached := by
  induction events generalizing world with
  | nil => exact h
  | cons event rest ih => exact ih (.next h (show World.Step world (env, event) _ from rfl))

theorem World.reachable_run {init : World → Prop} {guard : World → Env × Event → Prop}
    (h : Reachable init (Guarded guard Step) world) (env : Env) {events : List Event}
    (halong : Along (fun world event => (world.step env event).1)
      (fun world event => guard world (env, event)) world events) :
    Reachable init (Guarded guard Step) (world.run env events) :=
  Reachable.along (Prod.mk env) (fun _ _ hok => ⟨hok, rfl⟩) h halong

theorem World.reached_start (instanceID : UInt64) : (World.start instanceID).Reached :=
  .start ⟨instanceID, rfl⟩

def steadyEnv (now : Int) : Env := ⟨now, fun _ _ => true, id, fun _ => .refl _⟩

/-! ## The registry invariant along runs -/

variable {sw : Switch}

namespace Switch

theorem WellFormed.settle {ε : Type} (h : WellFormed sw) {result : Except ε Switch}
    (hok : ∀ after, result = .ok after → WellFormed after) :
    WellFormed (sw.settle result) := by
  cases result with
  | error reason => exact h
  | ok after => exact hok after rfl

theorem WellFormed.deliverFrom (h : WellFormed sw) (env : Env) (srcID : String)
    (data : Bytes) : WellFormed (deliverFrom env sw srcID data).1 := by
  unfold Switch.deliverFrom
  split
  · exact h
  · exact h.deliver env _ data

theorem WellFormed.apply (h : WellFormed sw) (env : Env) (op : Op) :
    WellFormed (sw.apply env op).1 := by
  cases op with
  | addPort port attrs => exact h.settle fun _ => h.addPort
  | removePort id => exact h.removePort id
  | notifyDown id => exact h.quiet (quiet_flushPort sw id)
  | updatePortAttrs id attrs => exact h.settle fun _ => h.updatePortAttrs
  | blockPort id reason =>
    dsimp only [Switch.apply]
    split
    · exact h
    · exact h.calm (calm_blockPort sw _ reason)
  | addStaticFDB vlan mac portID => exact h.settle fun _ => h.addStaticFDB
  | removeStaticFDB vlan mac => exact h.settle fun _ => h.removeStaticFDB
  | deleteFDBEntry vlan mac => exact h.settle fun _ => h.deleteFDBEntry
  | flushFDB portID vlan => exact h.quiet (quiet_fdb sw (Fdb.prunes_flush _ _ _))
  | setFDBMaxAge maxAge =>
    dsimp only [Switch.apply, setFDBMaxAge]
    split
    · exact h
    · exact h.prune fun _ _ hm => hm
  | expire => exact h.quiet (quiet_fdb sw (Fdb.prunes_expire _ _))
  | setSTPConfig cfg => exact h.quiet (bridged_setSTPConfig env sw cfg).quiet
  | runDeferred => exact h.quiet (bridged_runDeferred env sw).quiet
  | stpTick dt => exact h.quiet (bridged_stpTick env sw dt).quiet
  | loopProbes => exact h
  | deliver srcID data => exact h.deliverFrom env srcID data

end Switch

theorem World.Reached.wellFormed (h : world.Reached) : world.sw.WellFormed := by
  refine Reachable.induct (motive := fun world => world.sw.WellFormed) ?_ ?_ h
  · rintro _ ⟨instanceID, rfl⟩
    exact Switch.wellFormed_newSwitch instanceID
  rintro world ⟨env, event⟩ _ - hworld rfl
  cases event with
  | op op => exact hworld.apply env op
  | ref id => exact hworld
  | refDeliver index data =>
    dsimp only [World.step]
    split
    · exact hworld
    unfold PortRef.deliver
    split
    · exact hworld
    · exact hworld.deliver env _ data

theorem World.switch_invariant {ok : World → Env × Event → Prop} {motive : Switch → Prop}
    (start : ∀ instanceID, motive (newSwitch instanceID))
    (step : ∀ world : World, world.Reached → motive world.sw → ∀ env event,
      ok world (env, event) → motive (world.step env event).1.sw)
    (h : Reachable World.Initial (Guarded ok World.Step) world) : motive world.sw := by
  induction h with
  | start hinitial =>
    obtain ⟨instanceID, rfl⟩ := hinitial
    exact start instanceID
  | next hreach hstep ih =>
    obtain ⟨hok, rfl⟩ := hstep
    exact step _ (hreach.mono fun _ _ _ hstep => hstep.2) ih _ _ hok

theorem World.Reached.invariant {motive : Switch → Prop}
    (start : ∀ instanceID, motive (newSwitch instanceID))
    (step : ∀ world : World, world.Reached → motive world.sw → ∀ env event,
      motive (world.step env event).1.sw) (h : world.Reached) : motive world.sw := by
  have hfree : Reachable World.Initial (Guarded (fun _ _ => True) World.Step) world :=
    Reachable.mono (fun _ _ _ hstep => ⟨trivial, hstep⟩) h
  refine World.switch_invariant start ?_ hfree
  intro world hreached hworld env event _
  exact step world hreached hworld env event

/-! ## Traffic -/

variable {before after : Switch}

namespace Switch

variable {shut : Ptr → Prop}

theorem Standing.fdb (h : Standing shut before after) (fdb : Fdb) :
    Standing shut before { after with fdb := fdb } :=
  ⟨h.ports, h.next, h.id, h.port, h.policy⟩

theorem Quiet.standing (h : Quiet before after) : Standing shut before after :=
  (h.calm shut).toStanding

theorem standing_deliver (env : Env) (sw : Switch) (src : Ptr) (data : Bytes) :
    Standing (fun ptr => ptr = src ∧ sw.trips src data = true) sw
      (deliver env sw src data).1 := by
  have hdel := delivered env sw src data
  generalize (deliver env sw src data).1 = after at hdel ⊢
  cases hdel with
  | counted hcnt => exact Quiet.standing hcnt.quiet
  | shut reason htrips hcnt =>
    exact (Quiet.standing hcnt.quiet).trans (Calm.mono (calm_blockPort _ src reason)
      fun _ hptr => ⟨hptr, htrips⟩).toStanding
  | heard _ _ =>
    exact Quiet.standing (Calm.trans (counted_countRx sw src data.length).quiet
      (bridged_handleBPDU env _ src data).quiet)
  | @learned frame key counted _ _ hcnt hsent =>
    obtain ⟨fdb, hlearn⟩ := learnSource_eq env counted src frame key
    rw [hlearn] at hsent
    refine ((Quiet.standing hcnt.quiet).fdb fdb).trans ?_
    rcases hsent with hsent | hsent
    · exact Quiet.standing hsent.quiet
    · exact Quiet.standing (Calm.trans (quiet_charged env _ src) hsent.quiet)

theorem settle_fdb {ε : Type} (sw : Switch) {result : Except ε Switch}
    (hok : ∀ after, result = .ok after → ∃ fdb, after = { sw with fdb := fdb }) :
    ∃ fdb, sw.settle result = { sw with fdb := fdb } := by
  cases result with
  | error reason => exact ⟨sw.fdb, rfl⟩
  | ok after => exact hok after rfl

theorem apply_fdb (env : Env) (sw : Switch) {op : Op} (hop : op.isFdb = true) :
    ∃ fdb, (sw.apply env op).1 = { sw with fdb := fdb } := by
  cases op with
  | notifyDown id | flushFDB portID vlan | expire => exact ⟨_, rfl⟩
  | addStaticFDB vlan mac portID =>
    exact settle_fdb sw fun _ hadd => (fdb_of_addStaticFDB hadd).imp fun _ h => h.1
  | removeStaticFDB vlan mac =>
    exact settle_fdb sw fun _ hremove =>
      (fdb_of_removeStaticFDB hremove).imp fun _ h => h.1
  | deleteFDBEntry vlan mac =>
    exact settle_fdb sw fun _ hdelete =>
      (fdb_of_deleteFDBEntry hdelete).imp fun _ h => h.1
  | setFDBMaxAge maxAge =>
    dsimp only [Switch.apply, setFDBMaxAge]
    split
    · exact ⟨sw.fdb, rfl⟩
    · exact ⟨_, rfl⟩
  | _ => cases hop

/-- Of all the traffic only a frame that trips a guard shuts a port, the one it
arrives on. -/
theorem standing_apply (env : Env) (sw : Switch) {op : Op} (hop : op.isTraffic = true) :
    Standing (fun ptr => ∃ srcID data, op = .deliver srcID data ∧
        sw.ports.get? srcID = some ptr ∧ sw.trips ptr data = true)
      sw (sw.apply env op).1 := by
  by_cases hfdb : op.isFdb = true
  · obtain ⟨fdb, happly⟩ := apply_fdb env sw hfdb
    rw [happly]
    exact (Standing.refl sw).fdb fdb
  cases op with
  | addPort port attrs | removePort id | notifyDown id | updatePortAttrs id attrs
  | blockPort id reason => cases hop
  | setSTPConfig cfg => exact Quiet.standing (bridged_setSTPConfig env sw cfg).quiet
  | runDeferred => exact Quiet.standing (bridged_runDeferred env sw).quiet
  | stpTick dt => exact Quiet.standing (bridged_stpTick env sw dt).quiet
  | loopProbes => exact .refl _
  | deliver srcID data =>
    dsimp only [Switch.apply, Switch.deliverFrom]
    split
    · exact .refl _
    rename_i src hsrc
    refine (standing_deliver env sw src data).mono ?_
    rintro ptr ⟨rfl, htrips⟩
    exact ⟨srcID, data, rfl, hsrc, htrips⟩
  | _ => exact absurd rfl hfdb

/-- Whatever ports, timers and the administration of the database do, no port is
registered, removed or given another policy; at most the ports on which frames
arrive are shut, and those with a reason. -/
theorem traffic_keeps_policy (sw : Switch) (ops : List (Env × Op))
    (hops : ∀ op ∈ ops, op.2.isTraffic = true) :
    Standing (fun ptr => ∃ op ∈ ops, ∃ srcID data, op.2 = .deliver srcID data ∧
        sw.ports.get? srcID = some ptr)
      sw (ops.foldl (fun state op => (state.apply op.1 op.2).1) sw) := by
  induction ops generalizing sw with
  | nil => exact .refl _
  | cons op rest ih =>
    obtain ⟨hop, hrest⟩ := List.forall_mem_cons.mp hops
    have hfirst := standing_apply op.1 sw hop
    refine (hfirst.mono ?_).trans ((ih _ hrest).mono ?_)
    · rintro ptr ⟨srcID, data, hdel, hsrc, -⟩
      exact ⟨op, .head _, srcID, data, hdel, hsrc⟩
    · rintro ptr ⟨later, hm, srcID, data, hdel, hsrc⟩
      exact ⟨later, .tail _ hm, srcID, data, hdel, hfirst.ports ▸ hsrc⟩

def guardedPorts : Switch :=
  ((World.start 7).run (steadyEnv 1) [
    .op (.addPort ⟨"a", 1⟩ { bpduGuard := true }), .op (.addPort ⟨"b", 2⟩ {})]).sw

def bpduOnA : List (Env × Op) :=
  [(steadyEnv 1, .deliver "a"
    (bpduDstMAC.toList ++ [2, 0, 0, 0, 0, 9, 0, 3, 0x42, 0x42, 0x03])),
    (steadyEnv 2, .stpTick 5)]

/-- A BPDU shuts the port it arrives on, and no other. -/
theorem traffic_keeps_policy_guarded :
    let after := bpduOnA.foldl (fun state op => (state.apply op.1 op.2).1) guardedPorts
    (after.entry 0).attrs.disabled = true ∧ after.ports = guardedPorts.ports ∧
      (after.entry 1).attrs = (guardedPorts.entry 1).attrs := by
  have hstand := traffic_keeps_policy guardedPorts bpduOnA (by decide)
  refine ⟨by decide, hstand.ports, ?_⟩
  rcases hstand.policy 1 with ⟨hattrs, -⟩ | ⟨⟨op, hm, srcID, data, hdel, hsrc⟩, -⟩
  · exact hattrs
  · rcases List.mem_cons.mp hm with rfl | hm
    · cases hdel
      cases hsrc
    · cases List.mem_singleton.mp hm
      cases hdel

end Switch

end GvSwitch.SwitchCore
