import GvSwitch.SwitchCore.Forwarding

/-!
# Removing a port under traffic

`RemovePort` takes the port out of the map under the exclusive lock and does the
rest after unlocking.  A delivery holds the shared lock from its check of the
`gone` flag until it has sent, so a removal cannot start in between, but it may
go on.  Deliveries from any port run beside one removal.
-/

namespace GvSwitch.SwitchCore

open Foundation

/-! ## A delivery in steps -/

/-- Where a delivery is: before the lock, or holding it past the gates, after
learning, or with the result of the lookup; `none` stands for a flood. -/
inductive DeliveryPhase where
  | resolved (data : Bytes)
  | admitted (frame : FrameView) (key : Int) (state : StpState)
  | learned (frame : FrameView) (key : Int)
  | found (frame : FrameView) (key : Int) (hit : Option (Option Ptr × String))
  deriving DecidableEq

structure Delivery where
  src : Ptr
  phase : DeliveryPhase
  deriving DecidableEq

def DeliveryPhase.holdsLock : DeliveryPhase → Bool
  | .resolved _ => false
  | _ => true

variable (env : Env) (sw : Switch) (src : Ptr) (frame : FrameView) (key : Int)

namespace Switch

def checkGates (env : Env) (sw : Switch) (src : Ptr) (data : Bytes) :
    Switch × List SendCall × Option DeliveryPhase :=
  match sw.ingress src data with
  | .admitted frame key =>
    (sw.countRx src data.length, [],
      some (.admitted frame key (sw.entry src).stpState))
  | _ =>
    let refused := sw.deliver env src data
    (refused.1, refused.2, none)

def lookUp (env : Env) (sw : Switch) (frame : FrameView) (key : Int) :
    Option (Option Ptr × String) :=
  if isMulticast frame.dstMAC then none
  else
    let hit := sw.fdb.lookup env.now key frame.dstMAC
    if hit.2 ≠ "" then some hit else none

def sendFound (env : Env) (sw : Switch) (src : Ptr) (frame : FrameView) (key : Int) :
    Option (Option Ptr × String) → Switch × List SendCall
  | some hit => unicast env sw src (sw.entry src).id frame key hit
  | none => floodLimited env sw src (sw.entry src).id frame key

theorem forward_eq_sendFound :
    forward env sw src (sw.entry src).id frame key =
      sw.sendFound env src frame key (sw.lookUp env frame key) := by
  unfold forward lookUp
  split
  · rfl
  · dsimp only
    split <;> rfl

/-- One step of a delivery: the switch, what is sent, and where it goes on. -/
def advance (env : Env) (sw : Switch) (src : Ptr) :
    DeliveryPhase → Switch × List SendCall × Option DeliveryPhase
  | .resolved data => sw.checkGates env src data
  | .admitted frame key state =>
    let learned := learnSource env sw src frame key
    if state = .learning then (learned.countRxDropped src, [], none)
    else (learned, [], some (.learned frame key))
  | .learned frame key => (sw, [], some (.found frame key (sw.lookUp env frame key)))
  | .found frame key hit =>
    let sent := sw.sendFound env src frame key hit
    (sent.1, sent.2, none)

def advanceAll (env : Env) (src : Ptr) : Nat → Switch → DeliveryPhase →
    Switch × List SendCall
  | 0, sw, _ => (sw, [])
  | fuel + 1, sw, phase =>
    match sw.advance env src phase with
    | (after, sent, none) => (after, sent)
    | (after, sent, some next) =>
      let later := advanceAll env src fuel after next
      (later.1, sent ++ later.2)

/-- The steps of a delivery are those of the atomic pipeline. -/
theorem advanceAll_eq_deliver (data : Bytes) :
    sw.advanceAll env src 4 (.resolved data) = sw.deliver env src data := by
  cases hin : sw.ingress src data with
  | admitted frame key =>
    have hst := (counted_countRx sw src data.length).stpState src
    have hid := congrArg PortEntry.id (learnSource_entry env
      (sw.countRx src data.length) src src frame key)
    have hfwd := forward_eq_sendFound env (learnSource env
      (sw.countRx src data.length) src frame key) src frame key
    simp only [advanceAll, advance, checkGates, Switch.deliver, hin, switchFrame, hst]
    by_cases hlearning : (sw.entry src).stpState = .learning
    · simp only [hlearning, if_true, List.nil_append]
    · rw [hid] at hfwd
      simp only [hlearning, if_false, hfwd, List.nil_append]
  | reserved | unparsed | gone | disabled | ownProbe | stpBlocked | vlanRefused | insecure =>
    simp only [advanceAll, advance, checkGates, hin]

end Switch

/-! ## The removal beside the deliveries -/

/-- Where `RemovePort` is: before the lock, or before it sets `gone`, closes the
port, flushes the table; and what it removed. -/
inductive RemovalPhase where
  | called (id : String)
  | deleted (id : String) (ptr : Ptr)
  | marked (id : String) (ptr : Ptr)
  | closed (id : String) (ptr : Ptr)
  | returned (removed : Option Ptr)
  deriving DecidableEq

def RemovalPhase.unmarked : RemovalPhase → Option Ptr
  | .deleted _ ptr => some ptr
  | _ => none

structure Removal where
  sw : Switch
  removing : RemovalPhase
  deliveries : List Delivery := []
  sent : List SendCall := []

namespace Removal

inductive Move where
  | enter (src : Ptr) (data : Bytes)
  | advance (env : Env) (position : Nat)
  | delete
  | mark
  | close
  | flush

def proceed (state : Removal) (env : Env) (position : Nat) (delivery : Delivery) : Removal :=
  let result := state.sw.advance env delivery.src delivery.phase
  { state with
    sw := result.1
    sent := state.sent ++ result.2.1
    deliveries := match result.2.2 with
      | none => state.deliveries.eraseIdx position
      | some phase => state.deliveries.set position ⟨delivery.src, phase⟩ }

def step (state : Removal) : Move → Option Removal
  | .enter src data =>
    some { state with deliveries := state.deliveries ++ [⟨src, .resolved data⟩] }
  | .advance env position =>
    (state.deliveries[position]?).map (state.proceed env position)
  | .delete =>
    match state.removing with
    | .called id =>
      -- The exclusive lock waits for every delivery that holds the shared one.
      if state.deliveries.any (·.phase.holdsLock) then none
      else
        match state.sw.ports.get? id with
        | none => some { state with removing := .returned none }
        | some ptr =>
          some { state with
            sw := { state.sw with ports := state.sw.ports.erase id }
            removing := .deleted id ptr }
    | _ => none
  | .mark =>
    match state.removing with
    | .deleted id ptr =>
      some { state with
        sw := state.sw.modify ptr fun entry => { entry with gone := true }
        removing := .marked id ptr }
    | _ => none
  | .close =>
    match state.removing with
    | .marked id ptr => some { state with removing := .closed id ptr }
    | _ => none
  | .flush =>
    match state.removing with
    | .closed id ptr =>
      some { state with
        sw := state.sw.portDown id
        removing := .returned (some ptr) }
    | _ => none

def Step (state : Removal) (move : Move) (after : Removal) : Prop :=
  state.step move = some after

def Initial (state : Removal) : Prop :=
  ∃ (world : World) (id : String), world.Reached ∧
    state = { sw := world.sw, removing := .called id }

/-- No delivery checks the flag of a port that is out of the map and not marked. -/
def Timely (state : Removal) : Move → Prop
  | .advance _ position => ∀ delivery ∈ state.deliveries[position]?,
      delivery.phase.holdsLock = false → state.removing.unmarked ≠ some delivery.src
  | _ => True

instance (state : Removal) : (move : Move) → Decidable (state.Timely move)
  | .advance _ position => inferInstanceAs (Decidable (∀ delivery ∈
      state.deliveries[position]?, delivery.phase.holdsLock = false →
        state.removing.unmarked ≠ some delivery.src))
  | .enter _ _ | .delete | .mark | .close | .flush => .isTrue trivial

end Removal

/-! ## What a step of a delivery leaves -/

/-- Entries of the table that were not there before name `src`; only a delivery that
holds the lock makes them. -/
structure Switch.LearnsFrom (holding : Bool) (src : Ptr) (before after : Switch) : Prop where
  ports : after.ports = before.ports
  id : ∀ ptr, (after.entry ptr).id = (before.entry ptr).id
  gone : ∀ ptr, (after.entry ptr).gone = (before.entry ptr).gone
  fdb : ∀ key entry, after.fdb.m.get? key = some entry →
    before.fdb.m.get? key = some entry ∨
      holding = true ∧ entry = ⟨(before.entry src).id, some src, entry.lastSeen, false⟩

variable {before : Switch}

namespace Switch

variable {src : Ptr} {holding : Bool}

theorem LearnsFrom.refl (holding : Bool) (src : Ptr) (sw : Switch) :
    LearnsFrom holding src sw sw :=
  ⟨rfl, fun _ => rfl, fun _ => rfl, fun _ _ he => .inl he⟩

theorem Calm.learnsFrom {shut : Ptr → Prop} {after : Switch} (h : Calm shut before after)
    (holding : Bool) (src : Ptr) : LearnsFrom holding src before after :=
  ⟨h.ports, h.id, h.gone, fun key entry he => .inl (h.fdb.2 key entry he)⟩

theorem LearnsFrom.quiet {middle after : Switch} (h : LearnsFrom holding src before middle)
    (hq : Quiet middle after) : LearnsFrom holding src before after :=
  ⟨hq.ports.trans h.ports, fun ptr => (hq.id ptr).trans (h.id ptr),
    fun ptr => (hq.gone ptr).trans (h.gone ptr),
    fun key entry he => h.fdb key entry (hq.fdb.2 key entry he)⟩

theorem learnsFrom_learnSource (src : Ptr) (frame : FrameView) (key : Int) :
    LearnsFrom true src sw (learnSource env sw src frame key) := by
  unfold learnSource
  split
  · exact LearnsFrom.refl true src sw
  refine ⟨rfl, fun _ => rfl, fun _ => rfl, fun place entry he => ?_⟩
  rw [Fdb.get?_learn] at he
  split at he
  · cases he
    exact .inr ⟨rfl, rfl⟩
  · exact .inl he

theorem learnsFrom_deliver (src : Ptr) (data : Bytes)
    (hrefused : ∀ frame key, sw.ingress src data ≠ .admitted frame key) :
    LearnsFrom false src sw (sw.deliver env src data).1 := by
  have hdel := delivered env sw src data
  generalize (sw.deliver env src data).1 = after at hdel ⊢
  cases hdel with
  | counted hcnt => exact hcnt.quiet.learnsFrom false src
  | shut reason _ hcnt =>
    exact ((hcnt.quiet.calm _).trans (calm_blockPort _ src reason)).learnsFrom false src
  | heard _ _ =>
    exact (Calm.trans (counted_countRx sw src data.length).quiet
      (bridged_handleBPDU env _ src data).quiet).learnsFrom false src
  | learned hin _ _ => exact absurd hin (hrefused _ _)

theorem quiet_sendFound (src : Ptr) (frame : FrameView) (key : Int)
    (hit : Option (Option Ptr × String)) :
    Quiet sw (sw.sendFound env src frame key hit).1 := by
  cases hit with
  | none =>
    exact Calm.trans (quiet_charged env sw src)
      (counted_floodLimited env sw src _ frame key).quiet
  | some hit => exact (counted_unicast env sw src _ frame key hit).quiet

theorem learnsFrom_advance (src : Ptr) (phase : DeliveryPhase) :
    LearnsFrom phase.holdsLock src sw (sw.advance env src phase).1 := by
  cases phase with
  | resolved data =>
    simp only [advance, checkGates]
    split
    · exact (counted_countRx sw src data.length).quiet.learnsFrom false src
    · rename_i hrefused
      exact learnsFrom_deliver env sw src data hrefused
  | admitted frame key state =>
    have hlearn := learnsFrom_learnSource env sw src frame key
    simp only [advance]
    split
    · exact hlearn.quiet (counted_countRxDropped _ src).quiet
    · exact hlearn
  | learned frame key =>
    exact LearnsFrom.refl true src sw
  | found frame key hit =>
    exact (quiet_sendFound env sw src frame key hit).learnsFrom true src

theorem advance_live {sw : Switch} {src : Ptr} {phase next : DeliveryPhase}
    (h : (sw.advance env src phase).2.2 = some next)
    (hresolved : phase.holdsLock = false) : (sw.entry src).gone = false := by
  cases phase with
  | resolved data =>
    simp only [advance, checkGates] at h
    split at h
    · rename_i frame key hin
      exact (ingress_eq_admitted hin).2.1
    · cases h
  | admitted frame key state | learned frame key | found frame key hit => cases hresolved

end Switch

/-! ## No entry is left behind -/

variable {delivery : Delivery} {position : Nat}

namespace Removal

variable {state after : Removal}

def Unheld (state : Removal) (ptr : Ptr) : Prop :=
  ∀ delivery ∈ state.deliveries, delivery.phase.holdsLock = true → delivery.src ≠ ptr

def Named (sw : Switch) : Prop :=
  ∀ key entry ptr, sw.fdb.m.get? key = some entry → entry.port = some ptr →
    entry.static = false ∧ entry.portID = (sw.entry ptr).id

def Tracked (state : Removal) : RemovalPhase → Prop
  | .called id => ∀ ptr, state.sw.ports.get? id = some ptr →
      (state.sw.entry ptr).id = id
  | .deleted id ptr => (state.sw.entry ptr).id = id ∧ state.Unheld ptr
  | .marked id ptr | .closed id ptr =>
    (state.sw.entry ptr).id = id ∧ state.Unheld ptr ∧
      (state.sw.entry ptr).gone = true
  | .returned none => True
  | .returned (some ptr) => state.Unheld ptr ∧
      (state.sw.entry ptr).gone = true ∧
      ∀ key entry, state.sw.fdb.m.get? key = some entry → entry.port ≠ some ptr

structure Sound (state : Removal) : Prop where
  named : Named state.sw
  tracked : state.Tracked state.removing

theorem sound_initial (h : state.Initial) : state.Sound := by
  obtain ⟨world, id, hreached, rfl⟩ := h
  have hw := hreached.wellFormed
  refine ⟨fun key entry ptr he hp => ?_, fun ptr hptr => ?_⟩
  · cases hstat : entry.static with
    | true =>
      simp [(hw.static key entry he hstat).1] at hp
    | false =>
      obtain ⟨other, ho, hreg, -, -⟩ := hw.dynamic key entry he hstat
      cases hp.symm.trans ho
      exact ⟨rfl, (hw.registered _ _ hreg).1.symm⟩
  · exact (hw.registered _ _ hptr).1

theorem Named.learnsFrom {later : Switch} (h : Named before) {holding : Bool} {src : Ptr}
    (hlearns : before.LearnsFrom holding src later) : Named later := by
  intro key entry ptr he hp
  rw [hlearns.id]
  rcases hlearns.fdb key entry he with hold | ⟨-, hnew⟩
  · exact h key entry ptr hold hp
  rw [hnew] at hp ⊢
  cases hp
  exact ⟨rfl, rfl⟩

/-- A step of a delivery puts nobody from the port past the check. -/
theorem Unheld.proceed {ptr : Ptr} (h : state.Unheld ptr) {env : Env}
    (hdelivery : state.deliveries[position]? = some delivery)
    (hcheck : delivery.phase.holdsLock = false → delivery.src = ptr →
      (state.sw.advance env delivery.src delivery.phase).2.2 = none) :
    (state.proceed env position delivery).Unheld ptr := by
  intro other ho hhold
  dsimp only [Removal.proceed] at ho
  split at ho
  · exact h other (List.mem_of_mem_eraseIdx ho) hhold
  rename_i phase hphase
  rcases List.mem_or_eq_of_mem_set ho with hm | rfl
  · exact h other hm hhold
  intro hsrc
  cases hlock : delivery.phase.holdsLock with
  | true => exact h delivery (List.mem_of_getElem? hdelivery) hlock hsrc
  | false =>
    cases hphase.symm.trans (hcheck hlock hsrc)

theorem unlearned {ptr : Ptr} (h : state.Unheld ptr) {env : Env}
    (hdelivery : state.deliveries[position]? = some delivery)
    (hclean : ∀ key entry, state.sw.fdb.m.get? key = some entry → entry.port ≠ some ptr)
    (key : FdbKey) (entry : FdbEntry)
    (he : (state.proceed env position delivery).sw.fdb.m.get? key = some entry) :
    entry.port ≠ some ptr := by
  have hlearns := Switch.learnsFrom_advance env state.sw delivery.src delivery.phase
  rcases hlearns.fdb key entry he with hold | ⟨hhold, hnew⟩
  · exact hclean key entry hold
  intro hp
  rw [hnew] at hp
  exact h delivery (List.mem_of_getElem? hdelivery) hhold (Option.some.inj hp)

theorem Sound.proceed (h : state.Sound) {env : Env}
    (hdelivery : state.deliveries[position]? = some delivery)
    (htimely : state.Timely (.advance env position)) :
    (state.proceed env position delivery).Sound := by
  have hlearns := Switch.learnsFrom_advance env state.sw delivery.src delivery.phase
  refine ⟨h.named.learnsFrom hlearns, ?_⟩
  have htr := h.tracked
  show (state.proceed env position delivery).Tracked state.removing
  have hgone {ptr : Ptr} (hmarked : (state.sw.entry ptr).gone = true)
      (hlock : delivery.phase.holdsLock = false) (hsrc : delivery.src = ptr) :
      (state.sw.advance env delivery.src delivery.phase).2.2 = none := by
    cases hnext : (state.sw.advance env delivery.src delivery.phase).2.2 with
    | none => rfl
    | some next =>
      have hlive := Switch.advance_live env hnext hlock
      rw [hsrc] at hlive
      cases hmarked.symm.trans hlive
  cases hremoving : state.removing with
  | called id =>
    rw [hremoving] at htr
    intro ptr hptr
    rw [show (state.proceed env position delivery).sw.ports = _ from hlearns.ports] at hptr
    exact (hlearns.id ptr).trans (htr ptr hptr)
  | deleted id ptr =>
    rw [hremoving] at htr
    refine ⟨(hlearns.id ptr).trans htr.1, htr.2.proceed hdelivery ?_⟩
    intro hlock hsrc
    refine absurd ?_ (htimely delivery hdelivery hlock)
    rw [hremoving, hsrc]
    rfl
  | marked id ptr | closed id ptr =>
    rw [hremoving] at htr
    obtain ⟨hid, hunheld, hmarked⟩ := htr
    exact ⟨(hlearns.id ptr).trans hid, hunheld.proceed hdelivery (hgone hmarked),
      (hlearns.gone ptr).trans hmarked⟩
  | returned removed =>
    rw [hremoving] at htr
    cases removed with
    | none => trivial
    | some ptr =>
      obtain ⟨hunheld, hmarked, hclean⟩ := htr
      exact ⟨hunheld.proceed hdelivery (hgone hmarked),
        (hlearns.gone ptr).trans hmarked, unlearned hunheld hdelivery hclean⟩

theorem Sound.enter (h : state.Sound) (src : Ptr) (data : Bytes) :
    Sound { state with deliveries := state.deliveries ++ [⟨src, .resolved data⟩] } := by
  have hunheld {ptr : Ptr} (hb : state.Unheld ptr) :
      Unheld { state with deliveries := state.deliveries ++ [⟨src, .resolved data⟩] }
        ptr := by
    intro delivery hdelivery hhold
    rcases List.mem_append.mp hdelivery with hold | hnew
    · exact hb delivery hold hhold
    · rw [List.mem_singleton.mp hnew] at hhold
      cases hhold
  refine ⟨h.named, ?_⟩
  have htr := h.tracked
  show Tracked _ state.removing
  cases hremoving : state.removing with
  | called id =>
    rw [hremoving] at htr
    exact htr
  | deleted id ptr =>
    rw [hremoving] at htr
    exact ⟨htr.1, hunheld htr.2⟩
  | marked id ptr | closed id ptr =>
    rw [hremoving] at htr
    exact ⟨htr.1, hunheld htr.2.1, htr.2.2⟩
  | returned removed =>
    rw [hremoving] at htr
    cases removed with
    | none => trivial
    | some ptr => exact ⟨hunheld htr.1, htr.2⟩

theorem Sound.delete (h : state.Sound) (hstep : state.Step .delete after) : after.Sound := by
  simp only [Step, step] at hstep
  split at hstep
  · rename_i id hremoving
    split at hstep
    · cases hstep
    rename_i hfree
    have htr := h.tracked
    rw [hremoving] at htr
    split at hstep
    · cases hstep
      exact ⟨h.named, trivial⟩
    rename_i ptr hptr
    cases hstep
    refine ⟨h.named, htr ptr hptr, fun delivery hdelivery hhold => ?_⟩
    exact absurd (List.any_eq_true.mpr ⟨delivery, hdelivery, hhold⟩) hfree
  · cases hstep

theorem Sound.mark (h : state.Sound) (hstep : state.Step .mark after) : after.Sound := by
  simp only [Step, step] at hstep
  split at hstep
  · rename_i id ptr hremoving
    cases hstep
    have htr := h.tracked
    rw [hremoving] at htr
    have hid (other : Ptr) : ((state.sw.modify ptr fun entry =>
        { entry with gone := true }).entry other).id = (state.sw.entry other).id :=
      Switch.entry_modify_field (·.id) state.sw ptr other _ fun _ => rfl
    refine ⟨fun key entry other he hp => ?_, (hid ptr).trans htr.1, htr.2, ?_⟩
    · rw [hid]
      exact h.named key entry other he hp
    · simp only [Switch.entry_modify_self]
  · cases hstep

theorem Sound.flush (h : state.Sound) (hstep : state.Step .flush after) : after.Sound := by
  simp only [Step, step] at hstep
  split at hstep
  · rename_i id ptr hremoving
    cases hstep
    have htr := h.tracked
    rw [hremoving] at htr
    obtain ⟨hid, hunheld, hmarked⟩ := htr
    have hprunes := Fdb.prunes_flushPort state.sw.fdb id
    refine ⟨fun key entry other he hp => ?_, hunheld, hmarked, fun key entry he hp => ?_⟩
    · exact h.named key entry other (hprunes.2 key entry he) hp
    · obtain ⟨hdyn, hname⟩ := h.named key entry ptr (hprunes.2 key entry he) hp
      exact Fdb.flushPort_dynamic he hdyn (hname.trans hid)
  · cases hstep

theorem Sound.step (h : state.Sound) {move : Move}
    (hstep : Guarded Timely Step state move after) : after.Sound := by
  obtain ⟨htimely, hstep⟩ := hstep
  cases move with
  | enter src data =>
    cases hstep
    exact h.enter src data
  | advance env position =>
    obtain ⟨delivery, hdelivery, rfl⟩ := Option.map_eq_some_iff.mp hstep
    exact h.proceed hdelivery htimely
  | delete => exact h.delete hstep
  | mark => exact h.mark hstep
  | close =>
    simp only [Step, Removal.step] at hstep
    split at hstep
    · rename_i id ptr hremoving
      cases hstep
      have htr := h.tracked
      rw [hremoving] at htr
      exact ⟨h.named, htr⟩
    · cases hstep
  | flush => exact h.flush hstep

/-- Where no delivery checks the flag between its port's deletion and its marking,
nothing in the table leads to a removed port. -/
theorem removal_leaves_no_black_hole (h : Reachable Initial (Guarded Timely Step) state)
    {ptr : Ptr} (hreturned : state.removing = .returned (some ptr)) :
    (∀ key entry, state.sw.fdb.m.get? key = some entry → entry.static = false →
      entry.port ≠ some ptr) ∧
    ∀ now vlan mac, (state.sw.fdb.lookup now vlan mac).1 ≠ some ptr := by
  have hsound : state.Sound :=
    Reachable.induct (motive := Sound) (fun _ => sound_initial)
      (fun _ _ _ _ ih hstep => ih.step hstep) h
  have htr := hsound.tracked
  rw [hreturned] at htr
  refine ⟨fun key entry he _ => htr.2.2 key entry he, ?_⟩
  intro now vlan mac
  unfold Fdb.lookup
  split
  · nofun
  · rename_i entry he
    split
    · nofun
    · exact htr.2.2 _ entry he

def plainFrame : Bytes := [0x02, 0, 0, 0, 0, 9, 0x02, 0, 0, 0, 0, 3, 0x08, 0]

/-- The removal of the untagged-only port with deliveries before and after. -/
theorem removal_leaves_no_black_hole_plain :
    ∃ state, Reachable Initial (Guarded Timely Step) state ∧
      state.removing = .returned (some 2) ∧ state.deliveries = [] ∧
      (∀ key entry, state.sw.fdb.m.get? key = some entry → entry.static = false →
        entry.port ≠ some 2) ∧
      ∀ now vlan mac, (state.sw.fdb.lookup now vlan mac).1 ≠ some 2 := by
  have hrun : (replay Removal.step Timely
      { sw := threePorts.sw, removing := .called "plain" }
      [.enter 2 plainFrame, .advance (steadyEnv 2) 0, .advance (steadyEnv 2) 0,
        .advance (steadyEnv 2) 0, .advance (steadyEnv 2) 0, .delete,
        .enter 2 plainFrame, .mark, .advance (steadyEnv 3) 0, .close, .flush]).map
      (fun state => (state.removing, state.deliveries)) =
        some (.returned (some 2), []) := by
    decide
  obtain ⟨state, hrun, hend⟩ := Option.map_eq_some_iff.mp hrun
  simp only [Prod.mk.injEq] at hend
  have hreach : Reachable Initial (Guarded Timely Step) state :=
    Reachable.replay (.start ⟨threePorts, "plain", reached_threePorts, rfl⟩) hrun
  exact ⟨state, hreach, hend.1, hend.2, removal_leaves_no_black_hole hreach hend.1⟩

/-- A delivery checks the flag between the deletion and the marking and learns after
the flush: its address leads to the removed port. -/
theorem late_learning_leaves_black_hole :
    ∃ state key entry, Reachable Initial Step state ∧
      state.removing = .returned (some 2) ∧ state.deliveries = [] ∧
      state.sw.fdb.m.get? key = some entry ∧ entry.static = false ∧
      entry.port = some 2 := by
  have hrun : (replay Removal.step (fun _ _ => True)
      { sw := threePorts.sw, removing := .called "plain" }
      [.enter 2 plainFrame, .delete, .advance (steadyEnv 2) 0, .mark, .close, .flush,
        .advance (steadyEnv 2) 0, .advance (steadyEnv 2) 0, .advance (steadyEnv 2) 0]).map
      (fun state => (state.removing, state.deliveries,
        state.sw.fdb.m.get? ⟨0, #v[0x02, 0, 0, 0, 0, 3]⟩)) =
        some (.returned (some 2), [], some ⟨"plain", some 2, 2, false⟩) := by
    decide
  obtain ⟨state, hrun, hend⟩ := Option.map_eq_some_iff.mp hrun
  simp only [Prod.mk.injEq] at hend
  have hreach : Reachable Initial Step state :=
    reachable_of_replay ⟨threePorts, "plain", reached_threePorts, rfl⟩ hrun
  exact ⟨state, _, _, hreach, hend.1, hend.2.1, hend.2.2, rfl, rfl⟩

end Removal

end GvSwitch.SwitchCore
