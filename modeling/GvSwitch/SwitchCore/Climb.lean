import GvSwitch.SwitchCore.Redundancy

/-!
# The climb to forwarding

A port drops to blocking at once and climbs through listening and learning, and
each of the two delayed steps waits for the forward delay.  An event is looked
at stage by stage, and a clock of the tick time that has passed is kept beside
the switch, together with the time at which each port came into its state.
-/

namespace GvSwitch.SwitchCore

open Foundation Switch

/-! ## The stages of an event -/

variable {sw : Switch} {dt : Int}

namespace Switch

/-- The states an event passes through before its last one. -/
def stages (env : Env) (sw : Switch) : Event → List Switch
  | .op (.setSTPConfig cfg) =>
    if cfg.enabled then [resyncPortsLocked env (sw.configured cfg)] else []
  | .op .runDeferred =>
    if sw.stp.cfg.enabled then
      [resyncPortsLocked env { sw with deferred := sw.deferred - 1 }]
    else []
  | .op (.stpTick dt) =>
    if sw.stp.cfg.enabled then
      let synced := resyncPortsLocked env sw
      let reckoned := ageOut env synced dt
      [synced, (aged env synced dt).1, reckoned, climb env reckoned dt]
    else []
  | _ => []

def place (sw : Switch) (id : String) : Option (Ptr × StpState) :=
  (sw.stp.ports.get? id).map fun record =>
    (record.entry, (sw.entry record.entry).stpState)

/-- When each port came into its state, once a stage has been passed. -/
def observe (clock : Int) (entered : String → Int) (before after : Switch) :
    String → Int :=
  fun id => if after.place id = before.place id then entered id else clock

def isDelayed : StpState → StpState → Bool
  | .listening, .learning => true
  | .learning, .forwarding => true
  | _, _ => false

/-- A port may come from one state into another. -/
def Rightful (ticks : Bool) (elapsed forwardDelay : Int) (role : Role)
    (state state' : StpState) : Prop :=
  state' = state ∨ state' = .blocking ∨ (state = .blocking ∧ state' = .listening) ∨
    (isDelayed state state' = true ∧ ticks = true ∧ forwardDelay ≤ elapsed ∧
      (role = .root ∨ role = .designated))

instance (ticks : Bool) (elapsed forwardDelay : Int) (role : Role)
    (state state' : StpState) :
    Decidable (Rightful ticks elapsed forwardDelay role state state') :=
  inferInstanceAs (Decidable (_ ∨ _))

def Climbs (ticks : Bool) (clock : Int) (entered : String → Int) (before after : Switch) :
    Prop :=
  ∀ id record record', before.stp.ports.get? id = some record →
    after.stp.ports.get? id = some record' → record'.entry = record.entry →
      Rightful ticks (clock - entered id) after.stp.cfg.forwardDelay record'.role
        (before.entry record.entry).stpState (after.entry record'.entry).stpState

def ClimbsThrough (ticks : Bool) (clock : Int) : (String → Int) → Switch → List Switch → Prop
  | _, _, [] => True
  | entered, before, after :: rest =>
    Climbs ticks clock entered before after ∧
      ClimbsThrough ticks clock (observe clock entered before after) after rest

def enteredAfter (clock : Int) : (String → Int) → Switch → List Switch → String → Int
  | entered, _, [] => entered
  | entered, before, after :: rest =>
    enteredAfter clock (observe clock entered before after) after rest

/-- A port is in blocking exactly if its role is blocked. -/
def Matched (sw : Switch) : Prop :=
  ∀ id record, sw.stp.ports.get? id = some record →
    ((sw.entry record.entry).stpState = .blocking ↔ record.role = .blocked)

/-! ## Timers and the clock -/

structure Timely (slack clock : Int) (entered : String → Int) (sw : Switch) : Prop where
  matched : sw.Matched
  low : ∀ id record, sw.stp.ports.get? id = some record →
    -9223372036854775808 ≤ record.stateTimer
  timer : ∀ id record, sw.stp.ports.get? id = some record →
    (sw.entry record.entry).stpState = .listening ∨
      (sw.entry record.entry).stpState = .learning →
    record.stateTimer + slack ≤ clock - entered id

def Passes (ticks : Bool) (slack slack' clock : Int) (before after : Switch) : Prop :=
  ∀ entered, Timely slack clock entered before →
    Climbs ticks clock entered before after ∧
      Timely slack' clock (observe clock entered before after) after

/-- Records are dropped, kept as they are, or new and blocked. -/
def Unmoved (before after : Switch) : Prop :=
  ∀ id record', after.stp.ports.get? id = some record' →
    (∃ record, before.stp.ports.get? id = some record ∧ record'.entry = record.entry ∧
      record'.role = record.role ∧ record'.stateTimer = record.stateTimer ∧
      (after.entry record'.entry).stpState = (before.entry record.entry).stpState) ∨
    (before.stp.ports.get? id = none ∧ record'.role = .blocked ∧ record'.stateTimer = 0 ∧
      (after.entry record'.entry).stpState = .blocking)

variable {id : String} {record record' : StpPort} {before after : Switch}

theorem place_of_record (h : sw.stp.ports.get? id = some record) :
    sw.place id = some (record.entry, (sw.entry record.entry).stpState) := by
  rw [place, h, Option.map_some]

theorem observe_of_same (h : before.stp.ports.get? id = some record)
    (h' : after.stp.ports.get? id = some record') (he : record'.entry = record.entry)
    (hst : (after.entry record'.entry).stpState = (before.entry record.entry).stpState)
    (clock : Int) (entered : String → Int) : observe clock entered before after id =
      entered id := by
  unfold observe
  rw [if_pos]
  rw [place_of_record h, place_of_record h', hst, he]

theorem observe_of_moved (h : before.stp.ports.get? id = some record)
    (h' : after.stp.ports.get? id = some record')
    (hst : (after.entry record'.entry).stpState ≠ (before.entry record.entry).stpState)
    (clock : Int) (entered : String → Int) :
    observe clock entered before after id = clock := by
  unfold observe
  rw [if_neg]
  rw [place_of_record h, place_of_record h']
  intro hplace
  exact hst (congrArg Prod.snd (Option.some.inj hplace))

theorem Unmoved.passes (h : Unmoved before after) (ticks : Bool) (slack clock : Int) :
    Passes ticks slack slack clock before after := by
  intro entered htimely
  refine ⟨?_, ?_, ?_, ?_⟩
  · intro id record record' hr hr' _
    rcases h id record' hr' with ⟨found, hf, -, -, -, hst⟩ | ⟨hnone, -⟩
    · rw [hr] at hf
      cases hf
      exact .inl hst
    · simp [hr] at hnone
  · intro id record' hr'
    rcases h id record' hr' with ⟨record, hr, he, hrole, -, hst⟩ | ⟨-, hrole, -, hst⟩
    · rw [hst, hrole]
      exact htimely.matched id record hr
    · exact ⟨fun _ => hrole, fun _ => hst⟩
  · intro id record' hr'
    rcases h id record' hr' with ⟨record, hr, -, -, htimer, -⟩ | ⟨-, -, htimer, -⟩
    · rw [htimer]
      exact htimely.low id record hr
    · rw [htimer]
      decide
  · intro id record' hr' hclimbing
    rcases h id record' hr' with ⟨record, hr, he, -, htimer, hst⟩ | ⟨-, -, -, hst⟩
    · rw [observe_of_same hr hr' he hst, htimer]
      rw [hst] at hclimbing
      exact htimely.timer id record hr hclimbing
    · rw [hst] at hclimbing
      rcases hclimbing with habsurd | habsurd <;> cases habsurd

def Settles (before after : Switch) : Prop :=
  ∀ id record', after.stp.ports.get? id = some record' →
    ∃ record, before.stp.ports.get? id = some record ∧ record'.entry = record.entry ∧
      record'.stateTimer = settledTimer record'.role (before.entry record.entry).stpState
        record.stateTimer ∧
      (after.entry record'.entry).stpState =
        settledState record'.role (before.entry record.entry).stpState

def NoneBlocking (sw : Switch) : Prop :=
  ∀ id record, sw.stp.ports.get? id = some record →
    (sw.entry record.entry).stpState ≠ .blocking

/-- A port drops, starts to climb, or stays where it is. -/
theorem settled_cases (role : Role) (state : StpState) (timer : Int) :
    (role = .blocked ∧ settledState role state = .blocking ∧
        settledTimer role state timer = timer) ∨
      (state = .blocking ∧ settledState role state = .listening ∧
        settledTimer role state timer = 0) ∨
      (settledState role state = state ∧ settledTimer role state timer = timer) := by
  unfold settledState settledTimer
  by_cases hrole : role = .blocked
  · exact .inl ⟨hrole, if_pos hrole, if_neg fun h => h.1 hrole⟩
  rw [if_neg hrole]
  by_cases hst : state = .blocking
  · exact .inr (.inl ⟨hst, if_pos hst, if_pos ⟨hrole, hst⟩⟩)
  · exact .inr (.inr ⟨if_neg hst, if_neg fun h => hst h.2⟩)

theorem Settles.passes (h : Settles before after) (ticks : Bool) {slack : Int} (clock : Int)
    (hslack : slack = 0 ∨ before.NoneBlocking) :
    Passes ticks slack slack clock before after := by
  intro entered htimely
  refine ⟨?_, ?_, ?_, ?_⟩
  · intro id record record' hr hr' _
    obtain ⟨found, hf, -, -, hst⟩ := h id record' hr'
    rw [hr] at hf
    cases hf
    rw [hst]
    rcases settled_cases record'.role (before.entry record.entry).stpState 0 with
      ⟨-, hdrops, -⟩ | ⟨hblocking, hstarts, -⟩ | ⟨hstays, -⟩
    · exact .inr (.inl hdrops)
    · exact .inr (.inr (.inl ⟨hblocking, hstarts⟩))
    · exact .inl hstays
  · intro id record' hr'
    obtain ⟨record, -, -, -, hst⟩ := h id record' hr'
    rw [hst]
    exact settledState_eq_blocking_iff _ _
  · intro id record' hr'
    obtain ⟨record, hr, -, htimer, -⟩ := h id record' hr'
    rw [htimer, settledTimer]
    split
    · decide
    · exact htimely.low id record hr
  · intro id record' hr' hclimbing
    obtain ⟨record, hr, he, htimer, hst⟩ := h id record' hr'
    rcases settled_cases record'.role (before.entry record.entry).stpState
      record.stateTimer with ⟨-, hdrops, -⟩ | ⟨hblocking, hstarts, hzero⟩ | ⟨hstays, hkept⟩
    · rw [hst, hdrops] at hclimbing
      rcases hclimbing with habsurd | habsurd <;> cases habsurd
    · have hmoved : (after.entry record'.entry).stpState ≠
          (before.entry record.entry).stpState := by
        rw [hst, hstarts, hblocking]
        decide
      rcases hslack with rfl | hnone
      · rw [observe_of_moved hr hr' hmoved, htimer, hzero]
        omega
      · exact absurd hblocking (hnone id record hr)
    · rw [observe_of_same hr hr' he (hst.trans hstays), htimer, hkept]
      rw [hst, hstays] at hclimbing
      exact htimely.timer id record hr hclimbing

def Counts (dt : Int) (before after : Switch) : Prop :=
  after.stp.cfg = before.stp.cfg ∧
    ∀ id record', after.stp.ports.get? id = some record' →
      ∃ record, before.stp.ports.get? id = some record ∧ record'.entry = record.entry ∧
        Progressed before.stp.cfg dt record (before.entry record.entry).stpState record'
          (after.entry record'.entry).stpState

theorem Progressed.cases {cfg : StpConfig} {state state' : StpState}
    (h : Progressed cfg dt record state record' state') :
    (record' = record ∧ state' = state ∧
        (record.role = .blocked ∨ state = .blocking ∨ state = .forwarding)) ∨
      (record' = { record with stateTimer := int64 (record.stateTimer + dt) } ∧
        state' = state ∧ (state = .listening ∨ state = .learning)) ∨
      (record' = { record with stateTimer := 0 } ∧ record.role ≠ .blocked ∧
        (state = .listening ∧ state' = .learning ∨ state = .learning ∧ state' = .forwarding) ∧
        cfg.forwardDelay ≤ int64 (record.stateTimer + dt)) := by
  cases h with
  | rests hrests => exact .inl ⟨rfl, rfl, hrests⟩
  | waits _ hst => exact .inr (.inl ⟨rfl, rfl, hst⟩)
  | climbs hrole hst htimer => exact .inr (.inr ⟨rfl, hrole, hst, htimer⟩)

theorem Counts.passes (h : Counts dt before after) (hdt : 0 < dt) (clock : Int) :
    Passes true dt 0 clock before after := by
  intro entered htimely
  obtain ⟨hcfg, h⟩ := h
  -- The timer stays behind the clock while it is advanced.
  have hwait {id : String} {record : StpPort} (hr : before.stp.ports.get? id = some record)
      (hclimbing : (before.entry record.entry).stpState = .listening ∨
        (before.entry record.entry).stpState = .learning) :
      int64 (record.stateTimer + dt) ≤ clock - entered id := by
    have hlow := htimely.low id record hr
    exact (int64_le (by omega)).trans (htimely.timer id record hr hclimbing)
  refine ⟨?_, ?_, ?_, ?_⟩
  · intro id record record' hr hr' _
    obtain ⟨found, hf, -, hprog⟩ := h id record' hr'
    rw [hr] at hf
    cases hf
    rcases hprog.cases with ⟨-, hs, -⟩ | ⟨-, hs, -⟩ | ⟨rfl, hrole, hmoved, hdelay⟩
    · exact .inl hs
    · exact .inl hs
    have hclimber : record.role = .root ∨ record.role = .designated := by
      cases hcase : record.role with
      | root => exact .inl rfl
      | designated => exact .inr rfl
      | blocked => exact absurd hcase hrole
    rw [hcfg]
    rcases hmoved with ⟨hfrom, hto⟩ | ⟨hfrom, hto⟩
    · have helapsed := hdelay.trans (hwait hr (.inl hfrom))
      rw [hfrom, hto]
      exact .inr (.inr (.inr ⟨rfl, rfl, helapsed, hclimber⟩))
    · have helapsed := hdelay.trans (hwait hr (.inr hfrom))
      rw [hfrom, hto]
      exact .inr (.inr (.inr ⟨rfl, rfl, helapsed, hclimber⟩))
  · intro id record' hr'
    obtain ⟨record, hr, -, hprog⟩ := h id record' hr'
    have hmat := htimely.matched id record hr
    rcases hprog.cases with ⟨rfl, hs, -⟩ | ⟨rfl, hs, -⟩ | ⟨rfl, hrole, hmoved, -⟩
    · rw [hs]
      exact hmat
    · rw [hs]
      exact hmat
    rcases hmoved with ⟨-, hto⟩ | ⟨-, hto⟩
    · rw [hto]
      exact ⟨nofun, fun hblocked => absurd hblocked hrole⟩
    · rw [hto]
      exact ⟨nofun, fun hblocked => absurd hblocked hrole⟩
  · intro id record' hr'
    obtain ⟨record, hr, -, hprog⟩ := h id record' hr'
    rcases hprog.cases with ⟨rfl, -, -⟩ | ⟨rfl, -, -⟩ | ⟨rfl, -, -, -⟩
    · exact htimely.low id _ hr
    · exact le_int64 _
    · exact show (-9223372036854775808 : Int) ≤ 0 by decide
  · intro id record' hr' hclimbing
    obtain ⟨record, hr, he, hprog⟩ := h id record' hr'
    rcases hprog.cases with ⟨rfl, hs, -⟩ | ⟨rfl, hs, hst⟩ | ⟨rfl, hrole, hmoved, -⟩
    · rw [observe_of_same hr hr' he hs]
      rw [hs] at hclimbing
      have htimer := htimely.timer id _ hr hclimbing
      omega
    · rw [observe_of_same hr hr' he hs]
      have htimer := hwait hr hst
      dsimp only
      omega
    · rw [observe_of_moved hr hr' ?_]
      · dsimp only
        omega
      rcases hmoved with ⟨hfrom, hto⟩ | ⟨hfrom, hto⟩
      · rw [hfrom, hto]
        decide
      · rw [hfrom, hto]
        decide

/-! ## The stages of the bridge's operations -/

theorem unmoved_resync (hn : Named sw) (hw : WellFormed sw) (env : Env) :
    Unmoved sw (resyncPortsLocked env sw) := by
  intro id record' hr'
  rcases resync_cases hn hw env hr' with ⟨hr, hagree⟩ | ⟨hnone, ptr, -, rfl, -, hst⟩
  · exact .inl ⟨record', hr, rfl, rfl, rfl, hagree.state _ (hn.record id record' hr)⟩
  · exact .inr ⟨hnone, rfl, rfl, hst⟩

theorem unmoved_aged (hn : Named sw) (env : Env) (dt : Int) :
    Unmoved sw (aged env sw dt).1 := by
  intro id record' hr'
  cases hr : sw.stp.ports.get? id with
  | none =>
    simp [get?_aged_of_none hn env dt hr] at hr'
  | some record =>
    obtain ⟨haged, hst⟩ := aged_record hn env dt hr
    rw [haged] at hr'
    cases hr'
    refine .inl ⟨record, rfl, ?_⟩
    unfold agedRecord
    split
    · exact ⟨rfl, rfl, rfl, hst⟩
    · exact ⟨rfl, rfl, rfl, hst⟩

theorem settles_recomputeLocked (hn : Named sw) (env : Env)
    (hon : sw.stp.cfg.enabled = true) : Settles sw (recomputeLocked env sw) := by
  intro id record' hr'
  cases hr : sw.stp.ports.get? id with
  | none =>
    simp [get?_recompute_of_none hn env hon hr] at hr'
  | some record =>
    obtain ⟨hcomputed, hst⟩ := recompute_record hn env hon hr
    rw [hcomputed] at hr'
    cases hr'
    exact ⟨record, rfl, rfl, rfl, hst⟩

theorem counts_climb (hn : Named sw) (env : Env) (dt : Int) :
    Counts dt sw (climb env sw dt) := by
  refine ⟨(climb_frame hn env dt).1.cfg, fun id record' hr' => ?_⟩
  cases hr : sw.stp.ports.get? id with
  | none =>
    simp [get?_climb_of_none hn env dt hr] at hr'
  | some record =>
    obtain ⟨found, hf, hprog⟩ := climb_record hn env dt hr
    rw [hf] at hr'
    cases hr'
    obtain ⟨timer, hs⟩ := hprog.record_eq
    have he : record'.entry = record.entry := by rw [hs]
    exact ⟨record, rfl, he, by rw [he]; exact hprog⟩

theorem unmoved_of_same (hports : ∀ id, after.stp.ports.get? id = before.stp.ports.get? id)
    (hst : ∀ id record, before.stp.ports.get? id = some record →
      (after.entry record.entry).stpState = (before.entry record.entry).stpState) :
    Unmoved before after := by
  intro id record hr
  rw [hports] at hr
  exact .inl ⟨record, hr, rfl, rfl, rfl, hst id record hr⟩

def PassesThrough (ticks : Bool) (slack clock : Int) (before : Switch)
    (stages : List Switch) : Prop :=
  ∀ entered, Timely slack clock entered before →
    ClimbsThrough ticks clock entered before stages ∧
      (∀ stage ∈ stages, stage.Matched) ∧
      Timely 0 clock (enteredAfter clock entered before stages) (stages.getLastD before)

theorem Passes.last {ticks : Bool} {slack clock : Int}
    (h : Passes ticks slack 0 clock before after) :
    PassesThrough ticks slack clock before [after] := by
  intro entered htimely
  obtain ⟨hclimbs, htimely'⟩ := h entered htimely
  refine ⟨⟨hclimbs, trivial⟩, ?_, htimely'⟩
  intro stage hstage
  rw [List.mem_singleton.mp hstage]
  exact htimely'.matched

theorem Passes.cons {ticks : Bool} {slack slack' clock : Int} {rest : List Switch}
    (h : Passes ticks slack slack' clock before after)
    (hrest : PassesThrough ticks slack' clock after rest) :
    PassesThrough ticks slack clock before (after :: rest) := by
  intro entered htimely
  obtain ⟨hclimbs, htimely'⟩ := h entered htimely
  obtain ⟨hclimbs', hmat, hlast⟩ := hrest _ htimely'
  refine ⟨⟨hclimbs, hclimbs'⟩, ?_, ?_⟩
  · intro stage hstage
    rcases List.mem_cons.mp hstage with rfl | hlater
    · exact htimely'.matched
    · exact hmat stage hlater
  · rw [List.getLastD_cons]
    exact hlast

/-- When a tick finds information that expires, no port waits in blocking and
none has to be enrolled. -/
def StartsBetweenTicks (sw : Switch) : Event → Prop
  | .op (.stpTick dt) => sw.stp.cfg.enabled = true →
      (∃ port ∈ sw.stp.ports.entries, expires sw.stp.cfg dt port.2 = true) →
      (∀ port ∈ sw.stp.ports.entries,
        (sw.entry port.2.entry).stpState ≠ .blocking) ∧
        ∀ id ∈ sw.ports.keys, sw.participates id = true →
          (sw.stp.ports.get? id).isSome = true
  | _ => True

section Events

variable {sw : Switch} (hw : WellFormed sw) (htab : Tabled sw) (env : Env)
  (clock : Int)

include htab

theorem passesThrough_hears {counted : Switch} (hcnt : Spares sw counted) (src : Ptr)
    (frame : Bytes) (ticks : Bool) :
    PassesThrough ticks 0 clock sw [(handleBPDU env counted src frame).1] := by
  have hn := hcnt.retains.named htab.toNamed
  have htable (id : String) : counted.stp.ports.get? id = sw.stp.ports.get? id := by
    rw [hcnt.stp]
  rcases handleBPDU_cases env counted src frame with hagree |
    ⟨heard, info, age, hon, hheard, hstored⟩
  · refine (Unmoved.passes (unmoved_of_same ?_ ?_) ticks 0 clock).last
    · exact fun id => (hagree id).record.trans (htable id)
    intro id record hr
    rw [(hagree id).state _ (hn.record id record ((htable id).trans hr)), hcnt.state]
  · refine (Settles.passes ?_ ticks clock (.inl rfl)).last
    have htouch : Touches (counted.entry src).id counted
        (counted.setStpPort (counted.entry src).id (heardRecord heard info age)) :=
      touches_setStpPort hn (hn.record _ heard hheard)
    have hfr := recompute_frame htouch.named env hon
    intro id record' hr'
    rw [(hstored id).record] at hr'
    rw [(hstored id).state _ (hfr.2.record id record' hr')]
    obtain ⟨middle, hmiddle, he, htimer, hst⟩ :=
      settles_recomputeLocked htouch.named env hon id record' hr'
    have hs (ptr : Ptr) : ((counted.setStpPort (counted.entry src).id
        (heardRecord heard info age)).entry ptr).stpState =
          (sw.entry ptr).stpState := hcnt.state ptr
    rw [hs] at htimer hst
    by_cases hself : id = (counted.entry src).id
    · subst hself
      rw [setStpPort, GoMap.get?_set_self] at hmiddle
      cases hmiddle
      exact ⟨heard, (htable _).symm.trans hheard, he, htimer, hst⟩
    · rw [(htouch.others id hself).record, htable] at hmiddle
      exact ⟨middle, hmiddle, he, htimer, hst⟩

include hw

theorem passesThrough_runDeferred : PassesThrough false 0 clock sw
    (stages env sw (.op .runDeferred) ++ [runDeferred env sw]) := by
  dsimp only [stages, runDeferred]
  split
  · rename_i hon
    obtain ⟨hfr, hn⟩ := touches_resync htab.toNamed.popped env
    have hsync : Unmoved sw (resyncPortsLocked env sw.popped) :=
      unmoved_resync htab.toNamed.popped hw.popped env
    have hsettles := settles_recomputeLocked hn env (by rw [hfr.cfg]; exact hon)
    exact (hsync.passes false 0 clock).cons (hsettles.passes false clock (.inl rfl)).last
  · have hunmoved : Unmoved sw sw.popped := unmoved_of_same (fun _ => rfl) fun _ _ _ => rfl
    exact (hunmoved.passes false 0 clock).last

theorem passesThrough_setSTPConfig (cfg : StpConfig) : PassesThrough false 0 clock sw
    (stages env sw (.op (.setSTPConfig cfg)) ++ [setSTPConfig env sw cfg]) := by
  have hconfigured := htab.toNamed.configured cfg
  dsimp only [stages]
  split
  · rename_i hon
    obtain ⟨hfr, hn⟩ := touches_resync hconfigured env
    have hsync : Unmoved sw (resyncPortsLocked env (sw.configured cfg)) :=
      unmoved_resync hconfigured (hw.configured cfg) env
    have hsettles : Settles (resyncPortsLocked env (sw.configured cfg))
        (becomeRootLocked env (resyncPortsLocked env (sw.configured cfg))) :=
      settles_recomputeLocked hn.ownRoot env (hfr.cfg ▸ hon)
    rw [setSTPConfig_of_enabled env sw hon]
    exact (hsync.passes false 0 clock).cons (hsettles.passes false clock (.inl rfl)).last
  · rename_i hoff
    refine (Unmoved.passes ?_ false 0 clock).last
    intro id record hr
    simp [setSTPConfig_of_disabled env sw (Bool.eq_false_iff.mpr hoff)] at hr

/-- When information expires, no port is in blocking. -/
theorem noneBlocking_aged (hstarts : sw.StartsBetweenTicks (.op (.stpTick dt)))
    (hon : sw.stp.cfg.enabled = true)
    (hexpired : (aged env (resyncPortsLocked env sw) dt).2 = true) :
    (aged env (resyncPortsLocked env sw) dt).1.NoneBlocking := by
  have hn := htab.toNamed
  obtain ⟨hfr, hsync⟩ := touches_resync hn env
  obtain ⟨expired, record, hr, hexp⟩ := (aged_snd hsync env dt).mp hexpired
  rw [hfr.cfg] at hexp
  obtain ⟨hnone, henrolled⟩ := hstarts hon (by
    rcases resync_cases hn hw env hr with ⟨hold, -⟩ | ⟨-, ptr, -, rfl, -, -⟩
    · exact ⟨(expired, record), (GoMap.get?_eq_some_iff _ _ _).mp hold, hexp⟩
    · cases hexp)
  intro id found hf
  rcases unmoved_aged hsync env dt id found hf with ⟨middle, hmiddle, -, -, -, hst⟩ |
    ⟨hempty, -⟩
  · rw [hst]
    rcases resync_cases hn hw env hmiddle with ⟨hold, hagree⟩ |
      ⟨hempty, ptr, hp, -, hpart, -⟩
    · rw [hagree.state _ (hn.record id middle hold)]
      exact hnone (id, middle) ((GoMap.get?_eq_some_iff _ _ _).mp hold)
    have hsome := henrolled id ((GoMap.mem_keys_iff _ _).mpr ⟨ptr, hp⟩) hpart
    simp [hempty] at hsome
  · simp [get?_aged_of_none hsync env dt hempty] at hf

theorem passesThrough_stpTick (hdt : 0 < dt)
    (hstarts : sw.StartsBetweenTicks (.op (.stpTick dt)))
    (hon : sw.stp.cfg.enabled = true) : PassesThrough true dt clock sw
      (stages env sw (.op (.stpTick dt)) ++ [(stpTick env sw dt).1]) := by
  have hn := htab.toNamed
  obtain ⟨hfr, hsync⟩ := touches_resync hn env
  have haged := aged_frame hsync env dt
  have hout := (retains_ageOut hsync env dt).named hsync
  have hreckoned : Passes true dt dt clock (aged env (resyncPortsLocked env sw) dt).1
      (ageOut env (resyncPortsLocked env sw) dt) := by
    dsimp only [ageOut]
    split
    · rename_i hexpired
      exact (settles_recomputeLocked haged.2 env
        (by rw [haged.1.cfg, hfr.cfg]; exact hon)).passes true clock
        (.inr (noneBlocking_aged hw htab env hstarts hon hexpired))
    · have hunmoved : Unmoved (aged env (resyncPortsLocked env sw) dt).1
          (aged env (resyncPortsLocked env sw) dt).1 :=
        unmoved_of_same (fun _ => rfl) fun _ _ _ => rfl
      exact hunmoved.passes true dt clock
  have hbooks : Unmoved (climb env (ageOut env (resyncPortsLocked env sw) dt) dt)
      (tickLocked env sw dt).1 := by
    obtain ⟨hports, -, he⟩ := tickLocked_climb env sw dt
    exact unmoved_of_same (fun id => by rw [hports]) fun id record _ => by rw [he]
  dsimp only [stages, stpTick]
  rw [if_pos hon, if_pos hon]
  exact ((unmoved_resync hn hw env).passes true dt clock).cons
    (((unmoved_aged hsync env dt).passes true dt clock).cons
      (hreckoned.cons (((counts_climb hout env dt).passes hdt clock).cons
        (hbooks.passes true 0 clock).last)))

end Events

end Switch

/-! ## Whole runs -/

def Event.isTick : Event → Bool
  | .op (.stpTick _) => true
  | _ => false

def Event.isBridge : Event → Bool
  | .op (.setSTPConfig _) => true
  | .op .runDeferred => true
  | .op (.stpTick _) => true
  | _ => false

/-- The protocol clock never sleeps for less than a nanosecond. -/
def Event.Sleeps : Event → Prop
  | .op (.stpTick dt) => 0 < dt
  | _ => True

structure Timed where
  world : World
  clock : Int
  entered : String → Int

namespace Timed

/-- `run` advances the clock right before a tick. -/
def advance (timed : Timed) : Event → Int
  | .op (.stpTick dt) =>
    if timed.world.sw.stp.cfg.enabled then timed.clock + dt else timed.clock
  | _ => timed.clock

def stages (env : Env) (timed : Timed) (event : Event) : List Switch :=
  timed.world.sw.stages env event ++ [(timed.world.step env event).1.sw]

def step (env : Env) (timed : Timed) (event : Event) : Timed where
  world := (timed.world.step env event).1
  clock := timed.advance event
  entered := Switch.enteredAfter (timed.advance event) timed.entered timed.world.sw
    (timed.stages env event)

def Initial (timed : Timed) : Prop := World.Initial timed.world

def Step (timed : Timed) (label : Env × Event) (after : Timed) : Prop :=
  label.2.Sleeps ∧ timed.step label.1 label.2 = after

/-- Through the stages of the event, every record that stays with its entry
changes its state rightfully, and after each stage the ports in blocking are
those whose role is blocked. -/
def StateClimb (timed : Timed) (env : Env) (event : Event) : Prop :=
  Switch.ClimbsThrough event.isTick (timed.advance event) timed.entered timed.world.sw
      (timed.stages env event) ∧
    ∀ stage ∈ timed.stages env event, stage.Matched

def StartsBetweenTicks (timed : Timed) (label : Env × Event) : Prop :=
  timed.world.sw.StartsBetweenTicks label.2

def slack (timed : Timed) (event : Event) : Int := timed.advance event - timed.clock

variable {event : Event} {timed : Timed}

theorem plain_spec (timed : Timed) (hplain : event.isBridge = false) (env : Env) :
    event.isTick = false ∧ timed.advance event = timed.clock ∧
      timed.stages env event = [(timed.world.step env event).1.sw] := by
  cases event with
  | op op =>
    cases op with
    | setSTPConfig cfg | runDeferred | stpTick dt => cases hplain
    | _ => exact ⟨rfl, rfl, rfl⟩
  | ref id | refDeliver index data => exact ⟨rfl, rfl, rfl⟩

theorem passesThrough_tick (hreach : timed.world.Reached) (env : Env) (hdt : 0 < dt)
    (hstarts : timed.world.sw.StartsBetweenTicks (.op (.stpTick dt))) :
    PassesThrough true (timed.slack (.op (.stpTick dt)))
      (timed.advance (.op (.stpTick dt))) timed.world.sw
      (timed.stages env (.op (.stpTick dt))) := by
  dsimp only [slack, advance]
  split
  · rename_i hon
    rw [add_sub_cancel_left]
    exact passesThrough_stpTick hreach.wellFormed hreach.tabled env _ hdt hstarts hon
  rename_i hoff
  have hidle : timed.stages env (.op (.stpTick dt)) = [timed.world.sw] := by
    unfold stages Switch.stages World.step Switch.apply Switch.stpTick
    simp only [hoff, Bool.false_eq_true, if_false, List.nil_append]
  have hunmoved : Switch.Unmoved timed.world.sw timed.world.sw :=
    unmoved_of_same (fun _ => rfl) fun _ _ _ => rfl
  rw [hidle, Int.sub_self]
  exact (hunmoved.passes true 0 timed.clock).last

theorem passesThrough_event (hreach : timed.world.Reached) (env : Env)
    (hsleeps : event.Sleeps) (hstarts : timed.world.sw.StartsBetweenTicks event) :
    PassesThrough event.isTick (timed.slack event) (timed.advance event)
      timed.world.sw (timed.stages env event) := by
  have hw := hreach.wellFormed
  have htab := hreach.tabled
  cases hbr : event.isBridge with
  | false =>
    obtain ⟨htick, hclock, hstages⟩ := plain_spec timed hbr env
    rw [slack, htick, hclock, hstages, Int.sub_self]
    have htab := hreach.tabled
    rcases (timed.world.bridgeEffect env event).cases with hrests | ⟨cfg, rfl, -⟩ | ⟨rfl, -⟩ |
      ⟨dt, rfl, -⟩ | ⟨counted, src, frame, -, hcnt, ha⟩
    · refine (Unmoved.passes (unmoved_of_same ?_ ?_) false 0 timed.clock).last
      · intro id
        rw [hrests.stp]
      · intro id record hr
        exact hrests.state _ (htab.allocated id record hr)
    · cases hbr
    · cases hbr
    · cases hbr
    · rw [ha]
      exact passesThrough_hears htab env timed.clock hcnt src frame false
  | true =>
    unfold Event.isBridge at hbr
    split at hbr
    · rename_i cfg
      have hpasses := passesThrough_setSTPConfig hw htab env timed.clock cfg
      rw [← Int.sub_self timed.clock] at hpasses
      exact hpasses
    · have hpasses := passesThrough_runDeferred hw htab env timed.clock
      rw [← Int.sub_self timed.clock] at hpasses
      exact hpasses
    · exact passesThrough_tick hreach env hsleeps hstarts
    · cases hbr

/-- One event, from a state whose timers are behind the clock. -/
theorem stateClimb_step (hreach : timed.world.Reached)
    (h : Timely 0 timed.clock timed.entered timed.world.sw) (env : Env)
    (hsleeps : event.Sleeps) (hstarts : timed.world.sw.StartsBetweenTicks event) :
    timed.StateClimb env event ∧ Timely 0 (timed.step env event).clock
      (timed.step env event).entered (timed.step env event).world.sw := by
  have hwaits : Timely (timed.slack event) (timed.advance event) timed.entered
      timed.world.sw := by
    refine ⟨h.matched, h.low, fun id record hr hclimbing => ?_⟩
    have htimer := h.timer id record hr hclimbing
    unfold slack
    omega
  obtain ⟨hclimbs, hmat, ha⟩ :=
    passesThrough_event hreach env hsleeps hstarts timed.entered hwaits
  rw [stages, List.getLastD_concat] at ha
  exact ⟨⟨hclimbs, hmat⟩, ha⟩

/-- In every run in which no port starts its climb inside a tick, states change
along the protocol's steps, and each delayed step waits for the forward delay. -/
theorem states_climb_in_time {timed : Timed}
    (h : Reachable Initial (Guarded StartsBetweenTicks Step) timed) (env : Env)
    {event : Event} (hsleeps : event.Sleeps)
    (hstarts : timed.StartsBetweenTicks (env, event)) : timed.StateClimb env event := by
  have hinvariant : timed.world.Reached ∧
      Timely 0 timed.clock timed.entered timed.world.sw := by
    refine Reachable.induct (motive := fun timed : Timed => timed.world.Reached ∧
      Timely 0 timed.clock timed.entered timed.world.sw) ?_ ?_ h
    · intro timed hinitial
      refine ⟨.start hinitial, ?_⟩
      obtain ⟨instanceID, hworld⟩ := hinitial
      rw [hworld]
      exact ⟨nofun, nofun, nofun⟩
    · rintro timed ⟨env, event⟩ _ - ⟨hreach, htimely⟩ ⟨hstarts, hsleeps, rfl⟩
      refine ⟨?_, (stateClimb_step hreach htimely env hsleeps hstarts).2⟩
      exact .next hreach (show World.Step timed.world (env, event) _ from rfl)
  exact (stateClimb_step hinvariant.1 hinvariant.2 env hsleeps hstarts).1

/-! ## A climb that waits and one that does not -/

def start : Timed := ⟨World.start 7, 0, fun _ => 0⟩

def run (env : Env) (timed : Timed) (events : List Event) : Timed :=
  events.foldl (fun timed event => timed.step env event) timed

theorem reachable_run {init : Timed → Prop} {guard : Timed → Env × Event → Prop}
    (h : Reachable init (Guarded guard Step) timed) (env : Env) {events : List Event}
    (halong : Along (fun timed event => timed.step env event)
      (fun timed event => guard timed (env, event) ∧ event.Sleeps) timed events) :
    Reachable init (Guarded guard Step) (timed.run env events) :=
  Reachable.along (Prod.mk env) (fun _ _ hok => ⟨hok.1, hok.2, rfl⟩) h halong

/-- Port `a` is enrolled and starts to listen; one second passes. -/
def listening : Timed :=
  start.run (steadyEnv 1) [
    .op (.addPort ⟨"a", 1⟩ { stp := true }), .op .runDeferred,
    .op (.setSTPConfig { World.steadyTimers with forwardDelay := 2 * second }),
    .op (.stpTick second)]

theorem states_climb_in_time_listening :
    (listening.world.sw.entry 0).stpState = .listening ∧
      ((listening.step (steadyEnv 1) (.op (.stpTick second))).world.sw.entry 0).stpState =
        .learning ∧
      listening.StateClimb (steadyEnv 1) (.op (.stpTick second)) := by
  have hsnd : Event.Sleeps (.op (.stpTick second)) := show 0 < second by decide
  refine ⟨by decide, by decide, states_climb_in_time ?_ _ hsnd ?_⟩
  · exact reachable_run (.start ⟨7, rfl⟩) _ ⟨⟨trivial, trivial⟩, ⟨trivial, trivial⟩,
      ⟨trivial, trivial⟩, ⟨fun _ hexp => absurd hexp (by decide), hsnd⟩, trivial⟩
  · exact fun _ hexp => absurd hexp (by decide)

/-- Ports `a` and `b` have heard the root, `b` is blocked, and two seconds have
passed without another hello. -/
def silent : Timed :=
  start.run (steadyEnv 1) [
    .op (.addPort ⟨"a", 1⟩ { stp := true }), .op (.addPort ⟨"b", 2⟩ { stp := true }),
    .op .runDeferred, .op .runDeferred,
    .op (.setSTPConfig { World.shortAge with forwardDelay := 2 * second }),
    World.heardOnA, World.heardOnB 2, .op (.stpTick (2 * second))]

/-- The tick at which its information expires takes a port from blocking through
listening to learning. -/
theorem port_climbs_in_one_tick :
    ∃ timed env event, Reachable Initial Step timed ∧ event.Sleeps ∧
      ¬ timed.StateClimb env event := by
  have hticks : Event.Sleeps (.op (.stpTick (2 * second))) := show 0 < 2 * second by decide
  refine ⟨silent, steadyEnv 2, .op (.stpTick (2 * second)), ?_, hticks, fun h => ?_⟩
  · refine Reachable.along (Prod.mk (steadyEnv 1)) (fun _ _ hsleeps => ⟨hsleeps, rfl⟩)
      (.start ⟨7, rfl⟩) ?_
    exact ⟨trivial, trivial, trivial, trivial, trivial, trivial, trivial, hticks, trivial⟩
  · have hclimb := h.1.2.2.2.1 "b"
      { entry := 1, role := .designated, info := ⟨1, 0, 1, 0x8002⟩, infoAge := 4 * second }
      { entry := 1, role := .designated, info := ⟨1, 0, 1, 0x8002⟩, infoAge := 4 * second }
      (by decide) (by decide) rfl
    exact absurd hclimb (by decide)

end Timed

end GvSwitch.SwitchCore
