import GvSwitch.SwitchCore.Forwarding
import GvSwitch.SwitchCore.Passes

/-!
# What an event does to the bridge

Most events leave the spanning tree alone.  The others add, remove or rewrite a
port, configure the bridge, run a scheduled resynchronisation, let time pass,
or bring a BPDU.
-/

namespace GvSwitch.SwitchCore

open Foundation

variable (env : Env) (sw : Switch) (ptr src : Ptr)
variable {event : Event} {id : String}

namespace Switch

/-! ## Events beside the bridge -/

structure Spares (before after : Switch) : Prop where
  stp : after.stp = before.stp
  deferred : after.deferred = before.deferred
  next : after.next = before.next
  ports : after.ports = before.ports
  name : ∀ ptr, (after.entry ptr).id = (before.entry ptr).id
  gone : ∀ ptr, (after.entry ptr).gone = (before.entry ptr).gone
  state : ∀ ptr, (after.entry ptr).stpState = (before.entry ptr).stpState
  portNum : ∀ ptr, (after.entry ptr).portNum = (before.entry ptr).portNum
  attrs : ∀ ptr, (after.entry ptr).attrs = (before.entry ptr).attrs ∨
    (after.entry ptr).attrs = (before.entry ptr).attrs.disable

theorem Spares.refl : Spares sw sw :=
  ⟨rfl, rfl, rfl, rfl, fun _ => rfl, fun _ => rfl, fun _ => rfl, fun _ => rfl,
    fun _ => .inl rfl⟩

theorem Spares.trans {first second third : Switch} (h : Spares first second)
    (h' : Spares second third) : Spares first third where
  stp := h'.stp.trans h.stp
  deferred := h'.deferred.trans h.deferred
  next := h'.next.trans h.next
  ports := h'.ports.trans h.ports
  name := fun ptr => (h'.name ptr).trans (h.name ptr)
  gone := fun ptr => (h'.gone ptr).trans (h.gone ptr)
  state := fun ptr => (h'.state ptr).trans (h.state ptr)
  portNum := fun ptr => (h'.portNum ptr).trans (h.portNum ptr)
  attrs := by
    intro ptr
    rcases h'.attrs ptr with hs' | hshut'
    · rw [hs']
      exact h.attrs ptr
    rcases h.attrs ptr with hs | hshut
    · rw [hs] at hshut'
      exact .inr hshut'
    · rw [hshut] at hshut'
      exact .inr hshut'

variable {before after : Switch}

theorem CountersOnly.spares (h : CountersOnly before after) : Spares before after :=
  ⟨h.stp, h.deferred, h.next, h.ports, h.id, h.gone, h.stpState, h.portNum,
    fun ptr => .inl (h.attrs ptr)⟩

theorem spares_fdb (fdb : Fdb) : Spares sw { sw with fdb := fdb } :=
  ⟨rfl, rfl, rfl, rfl, fun _ => rfl, fun _ => rfl, fun _ => rfl, fun _ => rfl,
    fun _ => .inl rfl⟩

theorem spares_modify (f : PortEntry → PortEntry)
    (hkeep : ∀ entry, f entry = { entry with
      attrs := (f entry).attrs
      blockReason := (f entry).blockReason
      storm := (f entry).storm })
    (hattrs : ∀ entry, (f entry).attrs = entry.attrs ∨ (f entry).attrs = entry.attrs.disable) :
    Spares sw (sw.modify ptr f) := by
  have hfield {α : Type} (field : PortEntry → α) (other : Ptr)
      (hfield : ∀ entry, field (f entry) = field entry) :
      field ((sw.modify ptr f).entry other) = field (sw.entry other) :=
    entry_modify_field field sw ptr other f hfield
  refine ⟨rfl, rfl, rfl, rfl, fun other => hfield (·.id) other ?_,
    fun other => hfield (·.gone) other ?_, fun other => hfield (·.stpState) other ?_,
    fun other => hfield (·.portNum) other ?_, ?_⟩
  · intro entry
    rw [hkeep entry]
  · intro entry
    rw [hkeep entry]
  · intro entry
    rw [hkeep entry]
  · intro entry
    rw [hkeep entry]
  intro other
  by_cases ho : other = ptr
  · subst other
    rw [entry_modify_self]
    exact hattrs _
  · rw [entry_modify_of_ne sw f ho]
    exact .inl rfl

theorem spares_blockPort (reason : BlockReason) : Spares sw (sw.blockPort ptr reason) := by
  have hshut : Spares sw (sw.shutPort ptr reason) := by
    unfold shutPort
    split
    · exact .refl _
    · exact spares_modify sw ptr _ (fun _ => rfl) fun _ => .inr rfl
  exact hshut.trans (spares_fdb _ _)

theorem spares_charged : Spares sw (charged env sw src) := by
  dsimp only [charged]
  split
  · exact spares_modify sw src _ (fun _ => rfl) fun _ => .inl rfl
  · exact .refl _

/-- A delivery spares the bridge or brings it a BPDU. -/
theorem deliver_cases (data : Bytes) :
    Spares sw (deliver env sw src data).1 ∨
      (isBPDU (macAt data 0) data = true ∧ Spares sw (sw.countRx src data.length) ∧
        (deliver env sw src data).1 =
          (handleBPDU env (sw.countRx src data.length) src data).1) := by
  have hdel := delivered env sw src data
  generalize (deliver env sw src data).1 = after at hdel ⊢
  cases hdel with
  | counted hcnt => exact .inl hcnt.spares
  | shut reason _ hcnt => exact .inl (hcnt.spares.trans (spares_blockPort _ src reason))
  | heard _ hbpdu => exact .inr ⟨hbpdu, (counted_countRx sw src data.length).spares, rfl⟩
  | @learned frame key counted _ _ hcnt hsent =>
    obtain ⟨fdb, hlearn⟩ := learnSource_eq env counted src frame key
    rw [hlearn] at hsent
    have hfdb := hcnt.spares.trans (spares_fdb counted fdb)
    rcases hsent with hsent | hsent
    · exact .inl (hfdb.trans hsent.spares)
    · exact .inl ((hfdb.trans (spares_charged env _ src)).trans hsent.spares)

/-! ## Received BPDUs -/

def AllAgree (first second : Switch) : Prop := ∀ id, Agree id first second

def heardRecord (record : StpPort) (info : PriorityVector) (age : Int) : StpPort :=
  { record with hasInfo := true, info := info, infoAge := age }

theorem allAgree_acknowledge (id : String) (flags : UInt8) :
    AllAgree sw ((sw.fastAge flags).acknowledge id flags) := by
  intro other
  unfold acknowledge fastAge
  split <;> split <;>
    exact ⟨⟨⟨rfl, rfl, rfl, rfl, rfl, fun _ => rfl, fun _ => rfl⟩, rfl, rfl, rfl,
      fun _ => rfl, fun _ => rfl⟩, rfl, fun _ _ => rfl⟩

/-- A BPDU changes nothing the tree is computed from, or it is stored and the
tree is computed anew. -/
theorem handleBPDU_cases (frame : Bytes) :
    AllAgree sw (handleBPDU env sw src frame).1 ∨
      ∃ record info age, sw.stp.cfg.enabled = true ∧
        sw.stp.ports.get? (sw.entry src).id = some record ∧
        AllAgree (recomputeLocked env (sw.setStpPort (sw.entry src).id
          (heardRecord record info age))) (handleBPDU env sw src frame).1 := by
  dsimp only [handleBPDU]
  split
  · exact .inl fun id => .refl id _
  rename_i hon
  rw [Bool.not_eq_true, Bool.not_eq_false'] at hon
  split
  · exact .inl fun id => .refl id _
  rename_i record hr
  split
  · exact .inl fun id => .refl id _
  split
  · split
    · exact .inl fun id => agree_signalTopologyChangeLocked sw id
    · exact .inl fun id => .refl id _
  split
  · exact .inl fun id => .refl id _
  dsimp only [handleConfig, storeInfo]
  split
  · exact .inr ⟨record, _, _, hon, hr, allAgree_acknowledge _ _ _⟩
  · exact .inl (allAgree_acknowledge _ _ _)

/-! ## Every event -/

inductive BridgeEffect (env : Env) (before : Switch) : Event → Switch → Prop
  | spares {event : Event} {after : Switch} : Spares before after →
      BridgeEffect env before event after
  | adds {port : Port} {attrs : CheckedAttrs} : before.ports.get? port.id = none →
      BridgeEffect env before (.op (.addPort port attrs.toPortAttrs))
        (before.register port attrs)
  | removes {id : String} {ptr : Ptr} : before.ports.get? id = some ptr →
      BridgeEffect env before (.op (.removePort id)) ((before.unregister id ptr).portDown id)
  | updates {id : String} {ptr : Ptr} {attrs : CheckedAttrs} {fdb : Fdb} :
      before.ports.get? id = some ptr →
        BridgeEffect env before (.op (.updatePortAttrs id attrs.toPortAttrs))
          { before.writeAttrs ptr attrs with fdb := fdb }
  | configures (cfg : StpConfig) :
      BridgeEffect env before (.op (.setSTPConfig cfg)) (setSTPConfig env before cfg)
  | resyncs : BridgeEffect env before (.op .runDeferred) (runDeferred env before)
  | ticks (dt : Int) :
      BridgeEffect env before (.op (.stpTick dt)) (stpTick env before dt).1
  | hears {event : Event} {counted : Switch} {src : Ptr} {frame : Bytes} :
      (∀ dt, event ≠ .op (.stpTick dt)) → Spares before counted →
        BridgeEffect env before event (handleBPDU env counted src frame).1

theorem bridgeEffect_deliver (data : Bytes) (hevent : ∀ dt, event ≠ .op (.stpTick dt)) :
    BridgeEffect env sw event (deliver env sw src data).1 := by
  rcases deliver_cases env sw src data with hspare | ⟨-, hcnt, hdeliver⟩
  · exact .spares hspare
  · rw [hdeliver]
    exact .hears hevent hcnt

theorem bridgeEffect_apply (op : Op) :
    BridgeEffect env sw (.op op) (sw.apply env op).1 := by
  by_cases hfdb : op.isFdb = true
  · obtain ⟨fdb, happly⟩ := apply_fdb env sw hfdb
    rw [happly]
    exact .spares (spares_fdb sw fdb)
  cases op with
  | addPort port attrs =>
    dsimp only [Switch.apply]
    cases hadd : sw.addPort port attrs with
    | error reason => exact .spares (.refl _)
    | ok after =>
      obtain ⟨checked, rfl, -, hfresh, rfl⟩ := addPort_ok hadd
      exact .adds hfresh
  | removePort id =>
    dsimp only [Switch.apply, removePort]
    split
    · exact .spares (.refl _)
    · rename_i hp
      exact .removes hp
  | updatePortAttrs id attrs =>
    dsimp only [Switch.apply]
    cases hupd : sw.updatePortAttrs id attrs with
    | error reason => exact .spares (.refl _)
    | ok after =>
      obtain ⟨checked, ptr, fdb, rfl, hp, rfl⟩ := updatePortAttrs_ok hupd
      exact .updates hp
  | blockPort id reason =>
    dsimp only [Switch.apply]
    split
    · exact .spares (.refl _)
    · exact .spares (spares_blockPort sw _ reason)
  | setSTPConfig cfg => exact .configures cfg
  | runDeferred => exact .resyncs
  | stpTick dt => exact .ticks dt
  | loopProbes => exact .spares (.refl _)
  | deliver srcID data =>
    unfold Switch.apply deliverFrom
    dsimp only
    split
    · exact .spares (.refl _)
    · exact bridgeEffect_deliver env sw _ data (by simp)
  | _ => exact absurd rfl hfdb

/-! ## Events that leave the states alone -/

structure Rests (before after : Switch) : Prop where
  stp : after.stp = before.stp
  state : ∀ ptr, ptr < before.next →
    (after.entry ptr).stpState = (before.entry ptr).stpState

theorem rests_modify (f : PortEntry → PortEntry)
    (h : ∀ entry, (f entry).stpState = entry.stpState) : Rests sw (sw.modify ptr f) :=
  ⟨rfl, fun other _ => entry_modify_field (·.stpState) sw ptr other f h⟩

/-- Only the bridge's own operations, ticks and BPDUs move it. -/
theorem BridgeEffect.cases {env : Env} (h : BridgeEffect env before event after) :
    Rests before after ∨
      (∃ cfg, event = .op (.setSTPConfig cfg) ∧ after = setSTPConfig env before cfg) ∨
      (event = .op .runDeferred ∧ after = runDeferred env before) ∨
      (∃ dt, event = .op (.stpTick dt) ∧ after = (stpTick env before dt).1) ∨
      ∃ counted src frame, (∀ dt, event ≠ .op (.stpTick dt)) ∧ Spares before counted ∧
        after = (handleBPDU env counted src frame).1 := by
  cases h with
  | spares hspare => exact .inl ⟨hspare.stp, fun ptr _ => hspare.state ptr⟩
  | adds _ =>
    refine .inl ⟨rfl, fun ptr hlt => ?_⟩
    rw [entry_register, if_neg (Nat.ne_of_lt hlt)]
  | @removes id ptr _ =>
    have hgone := rests_modify { before with ports := before.ports.erase id } ptr
      (fun entry => { entry with gone := true }) fun _ => rfl
    exact .inl ⟨rfl, hgone.state⟩
  | @updates id ptr attrs fdb _ =>
    have hwritten := rests_modify before ptr (fun entry => { entry with
      attrs := attrs
      blockReason := if entry.attrs.disabled && !attrs.disabled then none
        else entry.blockReason }) fun _ => rfl
    exact .inl ⟨rfl, hwritten.state⟩
  | configures cfg => exact .inr (.inl ⟨cfg, rfl, rfl⟩)
  | resyncs => exact .inr (.inr (.inl ⟨rfl, rfl⟩))
  | ticks dt => exact .inr (.inr (.inr (.inl ⟨dt, rfl, rfl⟩)))
  | hears htick hcnt => exact .inr (.inr (.inr (.inr ⟨_, _, _, htick, hcnt, rfl⟩)))

/-! ## The table -/

def OnTree (sw : Switch) (id : String) (ptr : Ptr) : Prop :=
  ∃ record, sw.stp.ports.get? id = some record ∧ record.entry = ptr

/-- No port begins to participate, and every record stays with its entry. -/
structure Retains (before after : Switch) : Prop where
  enabled : after.stp.cfg.enabled = before.stp.cfg.enabled
  next : after.next = before.next
  ports : after.ports = before.ports
  name : ∀ ptr, (after.entry ptr).id = (before.entry ptr).id
  participates : ∀ id, after.participates id = true → before.participates id = true
  table : ∀ id, (after.stp.ports.get? id).map (·.entry) =
    (before.stp.ports.get? id).map (·.entry)

theorem Retains.refl : Retains sw sw :=
  ⟨rfl, rfl, rfl, fun _ => rfl, fun _ h => h, fun _ => rfl⟩

theorem Retains.trans {first second third : Switch} (h : Retains first second)
    (h' : Retains second third) : Retains first third :=
  ⟨h'.enabled.trans h.enabled, h'.next.trans h.next, h'.ports.trans h.ports,
    fun ptr => (h'.name ptr).trans (h.name ptr),
    fun id hpart => h.participates id (h'.participates id hpart),
    fun id => (h'.table id).trans (h.table id)⟩

theorem Retains.onTree_iff (h : Retains before after) (id : String) (ptr : Ptr) :
    after.OnTree id ptr ↔ before.OnTree id ptr := by
  have he (sw : Switch) : sw.OnTree id ptr ↔
      (sw.stp.ports.get? id).map (·.entry) = some ptr := by
    unfold OnTree
    rw [Option.map_eq_some_iff]
  rw [he, he, h.table]

theorem Retains.named (h : Retains before after) (hn : Named before) : Named after := by
  constructor
  · intro id record hr
    obtain ⟨found, hf, he⟩ := (h.onTree_iff id record.entry).mp ⟨record, hr, rfl⟩
    rw [h.name, ← he]
    exact hn.record id found hf
  · intro id ptr hp
    rw [h.ports] at hp
    exact (h.name ptr).trans (hn.registered id ptr hp)

/-! ## What retains the table -/

theorem SameFrame.retains (h : SameFrame before after)
    (htable : ∀ id, (after.stp.ports.get? id).map (·.entry) =
      (before.stp.ports.get? id).map (·.entry)) : Retains before after :=
  ⟨by rw [h.cfg], h.next, h.ports, h.name,
    fun id hid => (h.participates id).symm.trans hid, htable⟩

theorem AllAgree.retains (h : AllAgree before after) : Retains before after :=
  (h "").toSameFrame.retains fun id => by rw [(h id).record]

theorem Spares.participates (h : Spares before after)
    (hpart : after.participates id = true) : before.participates id = true := by
  unfold Switch.participates at hpart ⊢
  rw [h.ports] at hpart
  cases hp : before.ports.get? id with
  | none =>
    simp [hp] at hpart
  | some ptr =>
    rw [hp] at hpart
    dsimp only at hpart ⊢
    rcases h.attrs ptr with hs | hshut
    · rw [hs] at hpart
      exact hpart
    · rw [hshut] at hpart
      simp at hpart

theorem Spares.retains (h : Spares before after) : Retains before after :=
  ⟨by rw [h.stp], h.next, h.ports, h.name, fun _ => h.participates, fun id => by rw [h.stp]⟩

theorem retains_recomputeLocked {sw : Switch} (hn : Named sw) (env : Env) :
    Retains sw (recomputeLocked env sw) := by
  by_cases hon : sw.stp.cfg.enabled = true
  · have hfr := (recompute_frame hn env hon).1
    refine ⟨by rw [hfr.cfg]; rfl, hfr.next, hfr.ports, hfr.name,
      fun id hid => (hfr.participates id).symm.trans hid, fun id => ?_⟩
    cases hr : sw.stp.ports.get? id with
    | none => rw [get?_recompute_of_none hn env hon hr]
    | some record =>
      rw [(recompute_record hn env hon hr).1]
      rfl
  · rw [recomputeLocked_of_disabled env hon]
    exact .refl sw

theorem retains_aged {sw : Switch} (hn : Named sw) (env : Env) (dt : Int) :
    Retains sw (aged env sw dt).1 := by
  refine (aged_frame hn env dt).1.retains fun id => ?_
  cases hr : sw.stp.ports.get? id with
  | none => rw [get?_aged_of_none hn env dt hr]
  | some record =>
    rw [(aged_record hn env dt hr).1]
    unfold agedRecord
    split <;> rfl

theorem retains_climb {sw : Switch} (hn : Named sw) (env : Env) (dt : Int) :
    Retains sw (climb env sw dt) := by
  refine (climb_frame hn env dt).1.retains fun id => ?_
  cases hr : sw.stp.ports.get? id with
  | none => rw [get?_climb_of_none hn env dt hr]
  | some record =>
    obtain ⟨record', hr', hprog⟩ := climb_record hn env dt hr
    obtain ⟨timer, rfl⟩ := hprog.record_eq
    rw [hr']
    rfl

theorem retains_ageOut {sw : Switch} (hn : Named sw) (env : Env) (dt : Int) :
    Retains sw (ageOut env sw dt) := by
  have haged := retains_aged hn env dt
  dsimp only [ageOut]
  split
  · exact haged.trans (retains_recomputeLocked (haged.named hn) env)
  · exact haged

/-- Behind its climbs a tick only keeps the books of the hellos. -/
theorem tickLocked_climb (dt : Int) :
    (tickLocked env sw dt).1.stp.ports =
        (climb env (ageOut env (resyncPortsLocked env sw) dt) dt).stp.ports ∧
      (tickLocked env sw dt).1.stp.cfg =
        (climb env (ageOut env (resyncPortsLocked env sw) dt) dt).stp.cfg ∧
      (tickLocked env sw dt).1.entry =
        (climb env (ageOut env (resyncPortsLocked env sw) dt) dt).entry := by
  dsimp only [tickLocked]
  split
  · exact ⟨rfl, rfl, rfl⟩
  · exact ⟨rfl, rfl, rfl⟩

theorem retains_tickLocked {sw : Switch} (hn : Named sw) (env : Env) (dt : Int) :
    Retains (resyncPortsLocked env sw) (tickLocked env sw dt).1 := by
  have hsync := (touches_resync hn env).2
  have haged := retains_ageOut hsync env dt
  have hclimb := haged.trans (retains_climb (haged.named hsync) env dt)
  have hbooks (bridge : StpBridge) (hcfg : bridge.cfg =
      (climb env (ageOut env (resyncPortsLocked env sw) dt) dt).stp.cfg)
      (hports : bridge.ports =
        (climb env (ageOut env (resyncPortsLocked env sw) dt) dt).stp.ports) :
      Retains (resyncPortsLocked env sw)
        { climb env (ageOut env (resyncPortsLocked env sw) dt) dt with stp := bridge } :=
    hclimb.trans ⟨by rw [hcfg], rfl, rfl, fun _ => rfl, fun _ h => h, fun id => by rw [hports]⟩
  dsimp only [tickLocked]
  split
  · exact hbooks _ rfl rfl
  · exact hbooks _ rfl rfl

theorem retains_handleBPDU {sw : Switch} (hn : Named sw) (env : Env) (src : Ptr)
    (frame : Bytes) : Retains sw (handleBPDU env sw src frame).1 := by
  rcases handleBPDU_cases env sw src frame with hs | ⟨record, info, age, hon, hr, hstored⟩
  · exact hs.retains
  have hid := hn.record _ record hr
  have htouch : Touches (sw.entry src).id sw
      (sw.setStpPort (sw.entry src).id (heardRecord record info age)) :=
    touches_setStpPort hn hid
  have hset : Retains sw
      (sw.setStpPort (sw.entry src).id (heardRecord record info age)) := by
    refine htouch.frame.retains fun id => ?_
    by_cases hself : id = (sw.entry src).id
    · subst hself
      rw [hr, setStpPort, GoMap.get?_set_self]
      rfl
    · rw [(htouch.others id hself).record]
  exact (hset.trans (retains_recomputeLocked htouch.named env)).trans hstored.retains

def ownRoot (sw : Switch) : Switch :=
  { sw with stp := { sw.stp with
    rootID := sw.stp.bridgeID, rootCost := 0, rootPort := "" } }

theorem Named.ownRoot {sw : Switch} (h : Named sw) : Named sw.ownRoot :=
  ⟨h.record, h.registered⟩

theorem retains_becomeRootLocked {sw : Switch} (hn : Named sw) (env : Env) :
    Retains sw (becomeRootLocked env sw) := by
  have hreset : Retains sw sw.ownRoot :=
    ⟨rfl, rfl, rfl, fun _ => rfl, fun _ h => h, fun _ => rfl⟩
  exact hreset.trans (retains_recomputeLocked hn.ownRoot env)

/-! ## Configuration -/

def configured (sw : Switch) (cfg : StpConfig) : Switch :=
  { sw with stp := { sw.stp with cfg := normalizeConfig cfg } }

theorem WellFormed.configured {sw : Switch} (h : WellFormed sw) (cfg : StpConfig) :
    WellFormed (sw.configured cfg) :=
  ⟨h.registered, h.live, h.unallocated, h.dynamic, h.static⟩

theorem Named.configured {sw : Switch} (h : Named sw) (cfg : StpConfig) :
    Named (sw.configured cfg) :=
  ⟨h.record, h.registered⟩

def popped (sw : Switch) : Switch := { sw with deferred := sw.deferred - 1 }

theorem runDeferred_eq : runDeferred env sw =
    if sw.stp.cfg.enabled then recomputeLocked env (resyncPortsLocked env sw.popped)
    else sw.popped := rfl

theorem WellFormed.popped {sw : Switch} (h : WellFormed sw) : WellFormed sw.popped :=
  ⟨h.registered, h.live, h.unallocated, h.dynamic, h.static⟩

theorem Named.popped {sw : Switch} (h : Named sw) : Named sw.popped :=
  ⟨h.record, h.registered⟩

theorem setSTPConfig_of_enabled {cfg : StpConfig} (h : cfg.enabled = true) :
    setSTPConfig env sw cfg =
      becomeRootLocked env (resyncPortsLocked env (sw.configured cfg)) := by
  unfold setSTPConfig
  rw [h]
  rfl

theorem stp_foldl_release (order : List String) (sw : Switch) :
    (order.foldl release sw).stp = sw.stp := by
  refine foldl_related (fun before after : Switch => after.stp = before.stp) (fun _ => rfl)
    (fun {_ _ _} hfst hsnd => hsnd.trans hfst) release ?_ order sw
  intro state id
  unfold release
  split <;> rfl

theorem setSTPConfig_of_disabled {cfg : StpConfig} (h : cfg.enabled = false) :
    (setSTPConfig env sw cfg).stp =
      { (sw.configured cfg).stp with ports := .empty } := by
  have hconfig : setSTPConfig env sw cfg =
      let released := (env.range sw.stp.ports.keys).foldl release (sw.configured cfg)
      { released with stp := { released.stp with ports := .empty } } := by
    unfold setSTPConfig
    rw [h]
    rfl
  rw [hconfig]
  dsimp only
  rw [stp_foldl_release]

/-! ## The table along events -/

structure Tabled (sw : Switch) : Prop extends Named sw where
  allocated : ∀ id record, sw.stp.ports.get? id = some record →
    record.entry < sw.next

theorem Tabled.configured {sw : Switch} (h : Tabled sw) (cfg : StpConfig) :
    Tabled (sw.configured cfg) :=
  ⟨h.toNamed.configured cfg, h.allocated⟩

theorem Tabled.popped {sw : Switch} (h : Tabled sw) : Tabled sw.popped :=
  ⟨h.toNamed.popped, h.allocated⟩

theorem tabled_newSwitch (instanceID : UInt64) : Tabled (newSwitch instanceID) := by
  refine ⟨⟨?_, ?_⟩, ?_⟩
  · intro id record hr
    cases hr
  · intro id ptr hp
    cases hp
  · intro id record hr
    cases hr

theorem Retains.tabled (h : Retains before after) (htab : Tabled before) :
    Tabled after := by
  refine ⟨h.named htab.toNamed, ?_⟩
  intro id record hr
  obtain ⟨found, hf, he⟩ := (h.onTree_iff id record.entry).mp ⟨record, hr, rfl⟩
  rw [h.next, ← he]
  exact htab.allocated id found hf

theorem resync_cases {sw : Switch} (hn : Named sw) (hw : WellFormed sw) (env : Env)
    {record : StpPort} (hr : (resyncPortsLocked env sw).stp.ports.get? id = some record) :
    (sw.stp.ports.get? id = some record ∧
        Agree id sw (resyncPortsLocked env sw)) ∨
      sw.stp.ports.get? id = none ∧ ∃ ptr, sw.ports.get? id = some ptr ∧
        record = { entry := ptr, role := .blocked } ∧ sw.participates id = true ∧
        ((resyncPortsLocked env sw).entry ptr).stpState = .blocking := by
  cases hold : sw.stp.ports.get? id with
  | some found =>
    cases hwithdraws : sw.withdraws id found with
    | true =>
      simp [get?_resync_of_withdraws hn env hold hwithdraws] at hr
    | false =>
      have hagree := agree_resync_of_kept hn env hold hwithdraws
      rw [hagree.record, hold] at hr
      exact .inl ⟨hr, hagree⟩
  | none =>
    cases hpart : sw.participates id with
    | false =>
      simp [(agree_resync_of_absent hn env hold hpart).record, hold] at hr
    | true =>
      cases hp : sw.ports.get? id with
      | none => simp [participates, hp] at hpart
      | some ptr =>
        have hgone := (hw.registered id ptr hp).2.2.1
        obtain ⟨hnew, hst⟩ := resync_of_fresh hn env hold hp hpart hgone
        rw [hnew] at hr
        cases hr
        exact .inr ⟨rfl, ptr, rfl, rfl, rfl, hst⟩

section Table

variable {sw : Switch} (h : Tabled sw) (hw : WellFormed sw)

include h

theorem Tabled.portDown {ptr : Ptr} : Tabled ((sw.unregister id ptr).portDown id) := by
  have hname (other : Ptr) : (((sw.unregister id ptr).portDown id).entry other).id =
      (sw.entry other).id :=
    entry_modify_field (·.id) { sw with ports := sw.ports.erase id } ptr other
      (fun entry => { entry with gone := true }) fun _ => rfl
  refine ⟨⟨?_, ?_⟩, h.allocated⟩
  · intro other record hr
    exact (hname record.entry).trans (h.record other record hr)
  intro other target htgt
  have hports : ((sw.unregister id ptr).portDown id).ports = sw.ports.erase id := rfl
  rw [hports, GoMap.get?_erase] at htgt
  split at htgt
  · cases htgt
  · exact (hname target).trans (h.registered other target htgt)

theorem Tabled.writeAttrs {ptr : Ptr} {attrs : CheckedAttrs} {fdb : Fdb} :
    Tabled { sw.writeAttrs ptr attrs with fdb := fdb } := by
  have hname (other : Ptr) : ((sw.writeAttrs ptr attrs).entry other).id =
      (sw.entry other).id :=
    writeAttrs_field (·.id) sw ptr other attrs fun _ _ => rfl
  exact ⟨⟨fun id record hr => (hname record.entry).trans (h.record id record hr),
    fun id target htgt => (hname target).trans (h.registered id target htgt)⟩,
    h.allocated⟩

include hw

theorem Tabled.register {port : Port} {attrs : CheckedAttrs} :
    Tabled (sw.register port attrs) := by
  refine ⟨⟨?_, ?_⟩, ?_⟩
  · intro id record hr
    rw [entry_register, if_neg (Nat.ne_of_lt (h.allocated id record hr))]
    exact h.record id record hr
  · intro id ptr hp
    rw [get?_register] at hp
    rw [entry_register]
    split at hp
    · rename_i hid
      cases hp
      rw [if_pos rfl, hid]
    · rw [if_neg (Nat.ne_of_lt (hw.lt_next hp))]
      exact h.registered id ptr hp
  · intro id record hr
    exact Nat.lt_succ_of_lt (h.allocated id record hr)

theorem Tabled.resync (env : Env) : Tabled (resyncPortsLocked env sw) := by
  obtain ⟨hfr, hn⟩ := touches_resync h.toNamed env
  refine ⟨hn, ?_⟩
  intro id record hr
  rw [hfr.next]
  rcases resync_cases h.toNamed hw env hr with ⟨hold, -⟩ | ⟨-, ptr, hp, rfl, -⟩
  · exact h.allocated id record hold
  · exact hw.lt_next hp

theorem Tabled.runDeferred (env : Env) : Tabled (runDeferred env sw) := by
  rw [runDeferred_eq]
  split
  · have hsync := h.popped.resync hw.popped env
    exact (retains_recomputeLocked hsync.toNamed env).tabled hsync
  · exact h.popped

theorem Tabled.stpTick (env : Env) (dt : Int) : Tabled (stpTick env sw dt).1 := by
  unfold Switch.stpTick
  split
  · exact (retains_tickLocked h.toNamed env dt).tabled (h.resync hw env)
  · exact h

theorem Tabled.setSTPConfig (env : Env) (cfg : StpConfig) :
    Tabled (setSTPConfig env sw cfg) := by
  cases hon : cfg.enabled with
  | false =>
    have hempty : (Switch.setSTPConfig env sw cfg).stp.ports = .empty := by
      rw [setSTPConfig_of_disabled env sw hon]
    have hq := (bridged_setSTPConfig env sw cfg).quiet
    refine ⟨⟨?_, ?_⟩, ?_⟩
    · intro id record hr
      simp [hempty] at hr
    · intro id ptr hp
      rw [hq.ports] at hp
      exact (hq.id ptr).trans (h.registered id ptr hp)
    · intro id record hr
      simp [hempty] at hr
  | true =>
    have hsync := (h.configured cfg).resync (hw.configured cfg) env
    rw [setSTPConfig_of_enabled env sw hon]
    exact (retains_becomeRootLocked hsync.toNamed env).tabled hsync

theorem Tabled.effect {env : Env} {after : Switch}
    (heff : BridgeEffect env sw event after) : Tabled after := by
  cases heff with
  | spares hspare => exact hspare.retains.tabled h
  | adds _ => exact h.register hw
  | removes _ => exact h.portDown
  | updates _ => exact h.writeAttrs
  | configures cfg => exact h.setSTPConfig hw env cfg
  | resyncs => exact h.runDeferred hw env
  | ticks dt => exact h.stpTick hw env dt
  | hears _ hcnt =>
    have hcnt' := hcnt.retains.tabled h
    exact (retains_handleBPDU hcnt'.toNamed env _ _).tabled hcnt'

end Table

end Switch

theorem World.bridgeEffect (world : World) (event : Event) :
    Switch.BridgeEffect env world.sw event (world.step env event).1.sw := by
  cases event with
  | op op => exact Switch.bridgeEffect_apply env world.sw op
  | ref id => exact .spares (.refl _)
  | refDeliver index data =>
    dsimp only [World.step]
    split
    · exact .spares (.refl _)
    unfold PortRef.deliver
    split
    · exact .spares (.refl _)
    · exact Switch.bridgeEffect_deliver env world.sw _ data nofun

theorem World.Reached.tabled {world : World} (h : world.Reached) : world.sw.Tabled := by
  refine h.invariant Switch.tabled_newSwitch ?_
  intro world hreach htab env event
  exact htab.effect hreach.wellFormed (world.bridgeEffect env event)

end GvSwitch.SwitchCore
