import GvSwitch.Manager.Entries

/-!
# A safety shutdown sticks

BPDU guard and loop detection shut a port and note a reason.  `PatchPort` reads
the attributes of a port, merges the patch and writes the result back in
separate sections, and then copies it to the subports.  A patch that says
nothing about `enabled` therefore undoes a shutdown that happens between its
read and its writes, or that a subport of an enabled server is in already.  It
undoes none if no frame trips a guard in that window and no subport is shut when
the read finds the server enabled.
-/

namespace GvSwitch.Manager

open Foundation SwitchCore Ports Switch

/-! ## The property -/

def System.Blocked (system : System) (ptr : Ptr) (reason : BlockReason) : Prop :=
  (system.core.sw.entry ptr).attrs.disabled = true ∧
    (system.core.sw.entry ptr).blockReason = some reason

def PatchCall.Covers (call : PatchCall) (id : String) : Prop :=
  id = call.id ∨ IsSub call.id id

/-- A call of `PatchPort` past its read, with the attributes it is writing. -/
def Task.patching : Task → Option (PatchCall × PortAttrs)
  | .patchWrite call _ attrs => some (call, attrs)
  | .patchSubs call _ attrs => some (call, attrs)
  | .patchEach call _ attrs => some (call, attrs)
  | _ => none

def Task.Enables (id : String) (task : Task) : Prop :=
  ∃ call attrs, task.patching = some (call, attrs) ∧ call.patch.enabled = some true ∧
    call.Covers id

/-! ## The condition -/

/-- The task writes `enabled` for a `PatchPort` that does not ask for it: the
port was enabled when it was read. -/
def Task.Restores (id : String) (task : Task) : Prop :=
  ∃ call attrs, task.patching = some (call, attrs) ∧ call.patch.enabled ≠ some true ∧
    attrs.disabled = false ∧ call.Covers id

def System.Unhurried (system : System) (op : Op) : Prop :=
  ∀ srcID data ptr, op = .deliver srcID data →
    system.core.sw.ports.get? srcID = some ptr →
      system.core.sw.trips ptr data = true →
        ∀ task ∈ system.tasks, ¬ task.Restores srcID

/-- A patch without `enabled` finds a server enabled only while no subport of it
is shut by a guard. -/
def Task.Foreseeing (core : Core) : Task → Prop
  | .patchRead id _ patch => ∀ ptr, core.sw.ports.get? id = some ptr →
      patch.enabled = none → (core.sw.entry ptr).attrs.disabled = false →
        ∀ subID sub, IsSub id subID → core.sw.ports.get? subID = some sub →
          (core.sw.entry sub).blockReason = none
  | _ => True

def System.Careful (system : System) (label : Env × Label) : Prop :=
  (∀ op, label.2 = .traffic op → system.Unhurried op) ∧
    ∀ task, label.2.task system = some task → task.Foreseeing system.core

/-- The step writes for a `PatchPort` with `enabled = true` on the port or its
parent. -/
def System.Enabling (ptr : Ptr) (system : System) (label : Env × Label) : Prop :=
  ∃ task, label.2.task system = some task ∧
    task.Enables (system.core.sw.entry ptr).id

/-! ## The invariant -/

namespace System

structure Sealed (system : System) : Prop extends system.Routed where
  unallocated : ∀ ptr, system.core.sw.next ≤ ptr →
    (system.core.sw.entry ptr).blockReason = none
  reasoned : ∀ ptr, (system.core.sw.entry ptr).blockReason.isSome = true →
    (system.core.sw.entry ptr).attrs.disabled = true
  clean : ∀ task ∈ system.tasks, ∀ id ptr, task.Restores id →
    system.core.sw.ports.get? id = some ptr →
      (system.core.sw.entry ptr).blockReason = none

end System

variable {attrs : PortAttrs} {task : Task}

theorem Task.Addressed.writes {core : Core} {id : String} (h : task.Addressed core)
    (hwrites : task.writes = some (id, attrs)) :
    ∃ call, task.patching = some (call, attrs) ∧ call.Covers id := by
  cases task with
  | patchWrite call record attrs =>
    cases hwrites
    exact ⟨call, rfl, .inl rfl⟩
  | patchEach call ids attrs =>
    cases ids with
    | nil => cases hwrites
    | cons sub rest =>
      cases hwrites
      exact ⟨call, rfl, .inr (h id (.head _))⟩
  | _ => cases hwrites

/-! ## The invariant along runs -/

theorem rewritten_reasoned {entry : PortEntry} {checked : CheckedAttrs}
    (h : entry.blockReason.isSome = true → entry.attrs.disabled = true)
    (hreason : (rewritten checked entry).blockReason.isSome = true) :
    (rewritten checked entry).attrs.disabled = true := by
  unfold rewritten at hreason ⊢
  cases hnew : checked.disabled with
  | true => rfl
  | false =>
    cases hold : entry.attrs.disabled with
    | true =>
      simp [hold, hnew] at hreason
    | false =>
      rw [hold, hnew] at hreason
      simp [h hreason] at hold

theorem PortPatch.enabled_of_apply {patch : PortPatch} {merged : PortAttrs}
    (happly : patch.apply attrs = .ok merged) (hon : patch.enabled ≠ some true)
    (hmerged : merged.disabled = false) :
    patch.enabled = none ∧ attrs.disabled = false := by
  have hoff : merged.disabled = (patch.enabled.map not).getD attrs.disabled := by
    unfold PortPatch.apply at happly
    split at happly <;> cases happly <;> rfl
  rw [hoff] at hmerged
  cases hpatch : patch.enabled with
  | none =>
    rw [hpatch] at hmerged
    exact ⟨rfl, hmerged⟩
  | some value =>
    cases value with
    | true => exact absurd hpatch hon
    | false =>
      simp [hpatch] at hmerged

theorem Core.Spawned.patching {core after : Core} {next : Task} {call : PatchCall}
    (h : Core.Spawned core after task next) (hpatching : next.patching = some (call, attrs)) :
    task.patching = some (call, attrs) ∨
      ∃ record ptr, task = .patchRead call.id record call.patch ∧
        core.sw.ports.get? call.id = some ptr ∧
        call.patch.apply (core.sw.entry ptr).attrs.toPortAttrs = .ok attrs := by
  cases h with
  | patchWrite hptr happly =>
    cases hpatching
    exact .inr ⟨_, _, rfl, hptr, happly⟩
  | patchSubs | patchEach _ | patchRest => exact .inl hpatching
  | _ => cases hpatching

variable {ptr : Ptr} {system : System} {reason : BlockReason}

namespace System

section Execution

variable {system : System} {env : Env} {ok : Bool} {task : Task} {others : List Task}

theorem blockReason_exec (h : (system.core.sw.entry ptr).blockReason = none) :
    ((system.core.exec env ok task).1.sw.entry ptr).blockReason = none := by
  have heff := (Core.effect_exec system.core env ok task).sw.entry ptr
  cases heff with
  | same hs => exact hs.2.2.trans h
  | fresh _ hreason => exact hreason
  | written _ _ _ hwritten =>
    rw [hwritten]
    simp [rewritten, h]

theorem Sealed.clean_exec (h : system.Sealed) (ht : system.Takes task others)
    (hforeseeing : task.Foreseeing system.core) {next : Task} {id : String}
    (hnext : next ∈ (exec env ok system.core others task).tasks)
    (hrestores : next.Restores id)
    (hp : (exec env ok system.core others task).core.sw.ports.get? id = some ptr) :
    ((exec env ok system.core others task).core.sw.entry ptr).blockReason =
      none := by
  rcases (Core.effect_exec system.core env ok task).sw.lookup hp with
    hold | ⟨-, -, hreason⟩
  · refine blockReason_exec ?_
    rcases List.mem_append.mp hnext with hpend | hspawn
    · exact h.clean next (ht.mem hpend) id ptr hrestores hold
    obtain ⟨call, attrs, hpatching, hon, hattrs, hcov⟩ := hrestores
    rcases (Core.spawned_exec hspawn).patching hpatching with
      htask | ⟨record, target, htask, htgt, happly⟩
    · refine h.clean task (ht.pending ?_) id ptr
        ⟨call, attrs, htask, hon, hattrs, hcov⟩ hold
      cases task <;> first | rfl | cases htask
    · -- The call has just read its port and found it enabled.
      subst htask
      obtain ⟨hnone, hread⟩ := PortPatch.enabled_of_apply happly hon hattrs
      rcases hcov with rfl | hsub
      · rw [htgt] at hold
        cases hold
        cases hreason : (system.core.sw.entry ptr).blockReason with
        | none => rfl
        | some reason =>
          have hoff := h.reasoned ptr (by rw [hreason]; rfl)
          simp [hread] at hoff
      · exact hforeseeing target htgt hnone hread id ptr hsub hold
  · exact hreason

theorem Sealed.reasoned_exec (h : system.Sealed) (ptr : Ptr)
    (hreason : ((system.core.exec env ok task).1.sw.entry ptr).blockReason.isSome = true) :
    ((system.core.exec env ok task).1.sw.entry ptr).attrs.disabled = true := by
  cases (Core.effect_exec system.core env ok task).sw.entry ptr with
  | same hs =>
    rw [hs.2.2] at hreason
    rw [hs.2.1]
    exact h.reasoned ptr hreason
  | fresh _ hnone =>
    simp [hnone] at hreason
  | written _ _ _ hwritten =>
    rw [hwritten] at hreason ⊢
    exact rewritten_reasoned (h.reasoned ptr) hreason

theorem Sealed.exec (h : system.Sealed) (ht : system.Takes task others)
    (hforeseeing : task.Foreseeing system.core) :
    (System.exec env ok system.core others task).Sealed where
  toRouted := h.toRouted.exec ht
  unallocated := by
    intro ptr hle
    have hnext := (Core.effect_exec system.core env ok task).sw.next_le
    exact blockReason_exec (h.unallocated ptr (Nat.le_trans hnext hle))
  reasoned := h.reasoned_exec
  clean := fun _ hnext _ _ => h.clean_exec ht hforeseeing hnext

end Execution

theorem Sealed.traffic (h : system.Sealed) {op : Op} (env : Env)
    (htraffic : op.isTraffic = true) (hunhurried : system.Unhurried op) :
    Sealed ⟨{ system.core with sw := (system.core.sw.apply env op).1 },
      system.tasks⟩ := by
  have hstand := standing_apply env system.core.sw htraffic
  refine ⟨h.toRouted.traffic hstand, ?_, ?_, ?_⟩
  · intro ptr hle
    rw [hstand.next] at hle
    rcases hstand.policy ptr with ⟨-, hreason⟩ | ⟨⟨srcID, _, _, hp, _⟩, _⟩
    · exact hreason.trans (h.unallocated ptr hle)
    · exact absurd (h.typed.allocated srcID ptr hp) (Nat.not_lt.mpr hle)
  · intro ptr hreason
    rcases hstand.policy ptr with ⟨hattrs, hs⟩ | ⟨-, -, hattrs, -⟩
    · rw [hs] at hreason
      rw [hattrs]
      exact h.reasoned ptr hreason
    · rw [hattrs]
      rfl
  · intro task htask id ptr hrestores hp
    dsimp only at hp ⊢
    rw [hstand.ports] at hp
    rcases hstand.policy ptr with ⟨-, hs⟩ | ⟨⟨srcID, data, hop, hsrc, htrips⟩, -⟩
    · exact hs.trans (h.clean task htask id ptr hrestores hp)
    have hid : srcID = id := (h.named srcID ptr hsrc).symm.trans (h.named id ptr hp)
    subst hid
    exact absurd hrestores (hunhurried srcID data ptr hop hsrc htrips task htask)

theorem sealed_new (instanceID : UInt64) : (new instanceID).Sealed where
  toRouted := routed_new instanceID
  unallocated := fun _ _ => rfl
  reasoned := by
    intro ptr hreason
    cases hreason
  clean := by
    intro task hm
    cases hm

theorem Sealed.step (h : system.Sealed) {env : Env} {label : Label}
    (hcareful : system.Careful (env, label)) : (system.step env label).Sealed := by
  rcases step_cases env system label with hs | ⟨op, hlabel, htraffic, hstep⟩ |
    ⟨task, others, ok, htask, ht, hstep⟩
  · rw [hs]
    exact h
  · rw [hstep]
    exact h.traffic env htraffic (hcareful.1 op hlabel)
  · rw [hstep]
    exact h.exec ht (hcareful.2 task htask)

/-! ## The shutdown along runs -/

theorem Blocked.traffic (h : system.Blocked ptr reason) {op : Op} (env : Env)
    (htraffic : op.isTraffic = true) :
    Blocked ⟨{ system.core with sw := (system.core.sw.apply env op).1 },
      system.tasks⟩ ptr reason := by
  rcases (standing_apply env system.core.sw htraffic).policy ptr with
    ⟨hattrs, hreason⟩ | ⟨-, hon, -⟩
  · exact ⟨(congrArg (·.disabled) hattrs).trans h.1, hreason.trans h.2⟩
  · simp [h.1] at hon

/-- Neither does a section, but one that writes for a patch with `enabled = true`. -/
theorem Blocked.exec (h : system.Blocked ptr reason) (hsealed : system.Sealed)
    {env : Env} {ok : Bool} {others : List Task} (ht : system.Takes task others)
    (hdisables : ¬ task.Enables (system.core.sw.entry ptr).id) :
    (System.exec env ok system.core others task).Blocked ptr reason := by
  cases (Core.effect_exec system.core env ok task).sw.entry ptr with
  | same hs =>
    exact ⟨(congrArg (·.disabled) hs.2.1).trans h.1, hs.2.2.trans h.2⟩
  | fresh hptr _ =>
    have hnone := hsealed.unallocated ptr (Nat.le_of_eq hptr.symm)
    simp [h.2] at hnone
  | @written id attrs checked hwrites hp hchecked hwritten =>
    have hpend : task ∈ system.tasks := by
      refine ht.pending ?_
      cases task <;> first | rfl | cases hwrites
    obtain ⟨call, hpatching, hcov⟩ := (hsealed.addressed task hpend).writes hwrites
    have hoff : attrs.disabled = true := by
      cases hattrs : attrs.disabled with
      | true => rfl
      | false =>
        rw [hsealed.named id ptr hp] at hdisables
        have hon : call.patch.enabled ≠ some true :=
          fun hon => hdisables ⟨call, attrs, hpatching, hon, hcov⟩
        have hnone := hsealed.clean task hpend id ptr
          ⟨call, attrs, hpatching, hon, hattrs, hcov⟩ hp
        simp [h.2] at hnone
    subst hchecked
    dsimp only [Blocked, System.exec]
    rw [hwritten]
    exact ⟨hoff, by simp [rewritten, hoff, h.2]⟩

theorem Blocked.step (h : system.Blocked ptr reason) (hsealed : system.Sealed)
    {env : Env} {label : Label} (hstays : ¬ Enabling ptr system (env, label)) :
    (system.step env label).Blocked ptr reason := by
  rcases step_cases env system label with hs | ⟨op, -, htraffic, hstep⟩ |
    ⟨task, others, ok, htask, ht, hstep⟩
  · rw [hs]
    exact h
  · rw [hstep]
    exact h.traffic env htraffic
  · rw [hstep]
    exact h.exec hsealed ht fun henables => hstays ⟨task, htask, henables⟩

/-- In every run in which no frame trips a guard while a `PatchPort` that read
its port enabled is under way, and no such patch reads a server with a shut
subport, a port shut by a guard stays shut, with its reason, until a patch with
`enabled = true` is applied to it or to its parent. -/
theorem blocked_port_stays_shut {system later : System} {ptr : Ptr}
    {reason : BlockReason} (h : Reachable Initial (Guarded Careful Step) system)
    (hblocked : system.Blocked ptr reason)
    (hlater : Reachable (· = system) (Guarded
      (fun state label => state.Careful label ∧ ¬ Enabling ptr state label) Step)
      later) : later.Blocked ptr reason := by
  have hsealed : system.Sealed := invariant sealed_new Sealed.step h
  refine (Reachable.induct
    (motive := fun state => state.Sealed ∧ state.Blocked ptr reason) ?_ ?_ hlater).2
  · rintro _ rfl
    exact ⟨hsealed, hblocked⟩
  · rintro state ⟨env, label⟩ _ - hst ⟨⟨hcareful, hstays⟩, rfl⟩
    exact ⟨hst.1.step hcareful, hst.2.step hst.1 hstays⟩

/-! ## A careful run and two careless ones -/

def enablesNothing (system : System) (label : Label) : Bool :=
  ((label.task system).bind Task.patching).all
    fun writing => writing.1.patch.enabled != some true

theorem not_enabling_of_enablesNothing {env : Env} (system : System) (label : Label)
    (h : system.enablesNothing label = true) : ¬ Enabling ptr system (env, label) := by
  rintro ⟨task, htask, call, attrs, hpatching, hon, -⟩
  rw [enablesNothing, show label.task system = some task from htask, Option.bind_some,
    hpatching, Option.all_some, hon] at h
  cases h

theorem reachable_not_enabling (ptr : Ptr) (env : Env) (system : System)
    (labels : List Label)
    (h : Along (step env) (fun state label => state.enablesNothing label = true) system
      labels) :
    Reachable (· = system) (Guarded (fun state label => ¬ Enabling ptr state label) Step)
      (system.run env labels) := by
  refine reachable_run_guarded ?_ (h.mono not_enabling_of_enablesNothing)
  exact .start rfl

/-- Frames come between calls, and a patch reads shut ports only. -/
def isTame (system : System) (label : Label) : Bool :=
  (label.task system).all (fun task =>
    match task with
    | .patchRead id _ _ => (system.core.sw.ports.get? id).all
        fun ptr => (system.core.sw.entry ptr).attrs.disabled
    | _ => true) &&
  match label with
  | .traffic _ => system.tasks.isEmpty
  | _ => true

theorem careful_of_isTame {env : Env} (system : System) (label : Label)
    (h : system.isTame label = true) : system.Careful (env, label) := by
  obtain ⟨hreads, hbetween⟩ := Bool.and_eq_true_iff.mp h
  constructor
  · rintro op hlabel srcID data ptr - - - task hm
    rw [show label = .traffic op from hlabel] at hbetween
    simp [List.isEmpty_iff.mp hbetween] at hm
  · intro task htask
    rw [show label.task system = some task from htask, Option.all_some] at hreads
    cases task with
    | patchRead id record patch =>
      intro ptr hp _ hread
      simp [hp, Option.all_some, hread] at hreads
    | _ => trivial

def guardedPort (endpoint : Endpoint) : List Label :=
  [.begin (.createPort { identifier := "x", endpoint := endpoint, bpduGuard := true }),
    .run 0 true, .run 0 true, .run 0 true]

def strayBPDU (id : String) : Label :=
  .traffic (.deliver id
    [0x01, 0x80, 0xc2, 0, 0, 0, 0x02, 0, 0, 0, 0, 9, 0, 3, 0x42, 0x42, 3])

def isolatePatch : Label := .begin (.patchPort "x" { isolated := some true })

theorem blocked_port_stays_shut_after_patch :
    ((new 1).run (steadyEnv 0) (guardedPort .client ++ [strayBPDU "x"])).Blocked 0
        .bpduGuard ∧
      (((new 1).run (steadyEnv 0) (guardedPort .client ++ [strayBPDU "x"])).run
        (steadyEnv 0) [isolatePatch, .run 0 true, .run 0 true]).Blocked 0 .bpduGuard := by
  have hblocked : ((new 1).run (steadyEnv 0)
      (guardedPort .client ++ [strayBPDU "x"])).Blocked 0 .bpduGuard := by
    constructor <;> decide
  refine ⟨hblocked, blocked_port_stays_shut ?_ hblocked ?_⟩
  · exact reachable_run_guarded (.start ⟨1, rfl⟩) (.mono careful_of_isTame (by decide))
  · refine reachable_run_guarded ?_ (.mono (fun state label
      (hok : state.isTame label = true ∧ state.enablesNothing label = true) =>
      ⟨careful_of_isTame state label hok.1, not_enabling_of_enablesNothing state label hok.2⟩)
      (by decide))
    exact .start rfl

/-- A patch without `enabled` reopens the port that was shut after its read, and
the subport that was shut before. -/
theorem patch_reopens_shut_port :
    (∃ system later : System, Reachable Initial Step system ∧
      system.Blocked 0 .bpduGuard ∧
      Reachable (· = system) (Guarded (fun state label => ¬ Enabling 0 state label) Step)
        later ∧
      (later.core.sw.entry 0).attrs.disabled = false ∧
      (later.core.sw.entry 0).blockReason = none) ∧
    ∃ system later : System, Reachable Initial Step system ∧
      system.Blocked 1 .bpduGuard ∧
      Reachable (· = system) (Guarded (fun state label => ¬ Enabling 1 state label) Step)
        later ∧
      (later.core.sw.entry 1).id = "x@p" ∧
      (later.core.sw.entry 1).attrs.disabled = false ∧
      (later.core.sw.entry 1).blockReason = none := by
  constructor
  · refine ⟨(new 1).run (steadyEnv 0)
        (guardedPort .client ++ [isolatePatch, .run 0 true, strayBPDU "x"]), _,
      reachable_run (.start ⟨1, rfl⟩) _ _, ⟨by decide, by decide⟩,
      reachable_not_enabling 0 (steadyEnv 0) _ [.run 0 true] ?_, ?_, ?_⟩
    all_goals decide
  · refine ⟨(new 1).run (steadyEnv 0) (guardedPort (.streamServer .multiplex) ++
        [.begin (.connect 0 "p"), .run 0 true, strayBPDU "x@p"]), _,
      reachable_run (.start ⟨1, rfl⟩) _ _, ⟨by decide, by decide⟩,
      reachable_not_enabling 1 (steadyEnv 0) _
        [isolatePatch, .run 0 true, .run 0 true, .run 0 true, .run 0 true] ?_, ?_, ?_, ?_⟩
    all_goals decide

end System

end GvSwitch.Manager
