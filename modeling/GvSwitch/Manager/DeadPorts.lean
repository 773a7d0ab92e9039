import GvSwitch.Manager.Placement

/-!
# Clients that lose their connection while they are created

A client's pump runs from the moment it has dialled, before the switch or the
manager knows the port.  Until the record of a lost client is deleted, some
task has to remember the loss: the exit of its pump, the port-down event, or the
deletion it starts.
-/

namespace GvSwitch.Manager

open Foundation SwitchCore Ports Manager.Core

/-! ## The condition -/

def System.Making (system : System) (handle : Nat) : Prop :=
  ∃ req, .register req handle ∈ system.tasks ∨ .store req handle ∈ system.tasks

/-- The manager's hook runs for a port only when the call that made the port
has stored its record. -/
def System.Patient (system : System) (label : Env × Label) : Prop :=
  ∀ id source, label.2.task system = some (.hook id source) → ¬ system.Making source

/-! ## Clients keep one pump -/

theorem transportFor_client {req : PortRequest} {attrs : PortAttrs} {transport : Transport}
    (h : transportFor req attrs = some transport) (hk : transport.kind = .client) :
    transport.running 0 = true := by
  unfold transportFor at h
  split at h <;> cases h
  · rfl
  all_goals cases hk

theorem pump_stop {port stopped : Transport} {index : Nat}
    (h : port.stop index = some stopped) : stopped.pump = port.pump := by
  obtain ⟨state, -, -, rfl⟩ := Transport.stop_eq_some h
  rfl

variable {handle : Nat}

namespace Core

theorem pump_exec {core : Core} (env : Env) (ok : Bool) {task : Task}
    (hlt : handle < core.next) (hk : (core.port handle).kind = .client)
    (hpl : task.Placed core) (h : (core.port handle).pump = none) :
    ((core.exec env ok task).1.port handle).pump = none := by
  have hrewritten := rewritten_exec core env ok task (.inl (Nat.ne_of_lt hlt))
  generalize (core.exec env ok task).1.port handle = after at hrewritten ⊢
  cases hrewritten with
  | same | dropped _ _ | forgot _ _ | patched _ => exact h
  | closed _ _ =>
    unfold Transport.close
    rw [hk]
    exact h
  | halted _ hstop | lost _ _ _ hstop _ => exact (pump_stop hstop).trans h
  | exited _ _ =>
    unfold Transport.onExit
    rw [hk]
  | readopted htask _ =>
    subst htask
    simp [Task.Placed, hk, Kind.listens] at hpl
  | enrolled _ _ =>
    unfold Transport.start
    rw [h]
    exact h
  | adopted _ hmode | kept _ hmode _ _ | heard _ hmode | sessionAccepted _ hmode
  | sessionMade _ hmode | sessionUp _ hmode =>
    simp [hk] at hmode

end Core

/-! ## Who remembers a loss -/

variable {id : String} {system : System}

namespace System

/-- The loss has been noticed and the hook has not run for it yet. -/
def Noticed (system : System) (handle : Nat) : Prop :=
  .exit handle ∈ system.tasks ∨ ((system.core.port handle).pump = none ∧
    ∃ id, .down id handle ∈ system.tasks ∨ .hook id handle ∈ system.tasks)

def Pursued (system : System) (id : String) (handle : Nat) : Prop :=
  (system.core.port handle).pump = none ∧
    ((∃ source record, .release id source (some record) ∈ system.tasks ∧
        record.port = handle ∧ record.autoRemove = true) ∨
      (∃ source, .check id source handle ∈ system.tasks) ∨
      ∃ cause, .delete id cause ∈ system.tasks)

def Dead (core : Core) (handle : Nat) : Prop :=
  (core.port handle).kind = .client ∧ (core.port handle).running 0 = false

structure Watched (system : System) : Prop where
  placed : system.Placed
  making : ∀ handle < system.core.next, Dead system.core handle →
    system.Making handle → system.Noticed handle
  recorded : ∀ id record, system.core.ports.get? id = some record →
    record.autoRemove = true → Dead system.core record.port →
      system.Noticed record.port ∨ system.Pursued id record.port

section Execution

variable {system : System} {env : Env} {ok : Bool} {task : Task} {others : List Task}

theorem Typed.dead_exec (htyped : system.Typed)
    (hlt : handle < (system.core.exec env ok task).1.next)
    (hdead : Dead (system.core.exec env ok task).1 handle) :
    (handle < system.core.next ∧ Dead system.core handle) ∨
      .exit handle ∈ (system.core.exec env ok task).2 := by
  by_cases hold : handle < system.core.next
  · have hk := (evolves_exec htyped.allocated env ok task).kind handle hold
    cases hrun : (system.core.port handle).running 0 with
    | false => exact .inl ⟨hold, hk.symm.trans hdead.1, hrun⟩
    | true =>
      rcases running_exec env ok task hold hrun with hstill | hexit
      · simp [hdead.2] at hstill
      · exact .inr hexit
  · exfalso
    have hnew : handle = system.core.next ∧
        (system.core.exec env ok task).1.next = system.core.next + 1 := by
      rcases (effect_exec system.core env ok task).next with hs | halloc
      · omega
      · cases halloc <;> omega
    obtain ⟨rfl, hnext⟩ := hnew
    cases fresh_exec system.core env ok task with
    | none hs => omega
    | built _ _ htransport _ hp _ =>
      have hrun := transportFor_client htransport (hp ▸ hdead.1)
      simp [← hp, hdead.2] at hrun
    | sub _ _ _ _ _ hp _ _ =>
      have hk := hdead.1
      rw [hp] at hk
      cases hk

variable (h : system.Watched) (ht : system.Takes task others)

include h ht

/-- What remembers a loss stays, or the next task of the same event takes its
place. -/
theorem Watched.noticed_exec (hlt : handle < system.core.next)
    (hk : (system.core.port handle).kind = .client) (hnoticed : system.Noticed handle) :
    (exec env ok system.core others task).Noticed handle ∨
      ∃ id, task = .hook id handle ∧ (system.core.port handle).pump = none := by
  have hpump := pump_exec env ok hlt hk (h.placed.taken ht)
  rcases hnoticed with hexit | ⟨hlost, id, hdown | hhook⟩
  · rcases ht.stays hexit with rfl | hstays
    · refine .inl (.inr ⟨?_, (system.core.port handle).id, .inl ?_⟩)
      · simp only [System.exec, Core.exec, Core.exit, hk, Core.port_write_self,
          Transport.onExit]
      · simp [System.exec, Core.exec, Core.exit, hk, Transport.onExit]
    · exact .inl (.inl (List.mem_append_left _ hstays))
  · rcases ht.stays hdown with rfl | hstays
    · exact .inl (.inr ⟨hpump hlost, id, .inr (List.mem_append_right _ (.head _))⟩)
    · exact .inl (.inr ⟨hpump hlost, id, .inl (List.mem_append_left _ hstays)⟩)
  · rcases ht.stays hhook with rfl | hstays
    · exact .inr ⟨id, rfl, hlost⟩
    · exact .inl (.inr ⟨hpump hlost, id, .inr (List.mem_append_left _ hstays)⟩)

/-- The deletion goes on until the record is gone. -/
theorem Watched.pursued_exec (hlt : handle < system.core.next)
    (hk : (system.core.port handle).kind = .client) (hpursued : system.Pursued id handle) :
    (exec env ok system.core others task).Pursued id handle ∨
      ((exec env ok system.core others task).core.ports.get? id) = none := by
  obtain ⟨hlost, hpend⟩ := hpursued
  have hpump := pump_exec env ok hlt hk (h.placed.taken ht) hlost
  rcases hpend with ⟨source, record, hrelease, hp, hauto⟩ | ⟨source, hcheck⟩ |
    ⟨cause, hdelete⟩
  · rcases ht.stays hrelease with rfl | hstays
    · refine .inl ⟨hpump, .inr (.inl ⟨source, List.mem_append_right _ ?_⟩)⟩
      simp [Core.exec, Core.release, hauto, hp]
    · exact .inl ⟨hpump, .inl ⟨source, record, List.mem_append_left _ hstays, hp, hauto⟩⟩
  · rcases ht.stays hcheck with rfl | hstays
    · refine .inl ⟨hpump, .inr (.inr ⟨some source, List.mem_append_right _ ?_⟩)⟩
      simp [Core.exec, Core.check, Transport.online, hk, hlost]
    · exact .inl ⟨hpump, .inr (.inl ⟨source, List.mem_append_left _ hstays⟩)⟩
  · rcases ht.stays hdelete with rfl | hstays
    · right
      simp only [System.exec, Core.exec, Core.delete]
      split
      · assumption
      · rw [GoMap.get?_erase, if_pos rfl]
    · exact .inl ⟨hpump, .inr (.inr ⟨cause, List.mem_append_left _ hstays⟩)⟩

omit h in
theorem making_before (hlt : handle < system.core.next)
    (hmaking : (exec env ok system.core others task).Making handle) :
    system.Making handle := by
  obtain ⟨req, hpend⟩ := hmaking
  rcases hpend with hregister | hstore
  · rcases List.mem_append.mp hregister with hold | hnew
    · exact ⟨req, .inl (ht.mem hold)⟩
    have hspawn := spawned_exec hnew
    cases hspawn with
    | register _ => omega
  · rcases List.mem_append.mp hstore with hold | hnew
    · exact ⟨req, .inr (ht.mem hold)⟩
    have hspawn := spawned_exec hnew
    cases hspawn with
    | store => exact ⟨req, .inl (ht.pending rfl)⟩

theorem Watched.making_exec
    (hpatient : ∀ id source, task = .hook id source → ¬ system.Making source) (handle : Nat)
    (hlt : handle < (exec env ok system.core others task).core.next)
    (hdead : Dead (exec env ok system.core others task).core handle)
    (hmaking : (exec env ok system.core others task).Making handle) :
    (exec env ok system.core others task).Noticed handle := by
  rcases h.placed.typed.dead_exec hlt hdead with ⟨hold, hb⟩ | hexit
  · have hmade := making_before ht hold hmaking
    have hnoticed := h.making handle hold hb hmade
    rcases h.noticed_exec ht hold hb.1 hnoticed with hstill | ⟨id, htask, -⟩
    · exact hstill
    · exact absurd hmade (hpatient id handle htask)
  · exact .inl (List.mem_append_right _ hexit)

theorem Watched.pursued_hook {record : PortRecord}
    (hr : system.core.ports.get? id = some record) (hauto : record.autoRemove = true)
    (hk : (system.core.port record.port).kind = .client) {named : String}
    (htask : task = .hook named record.port)
    (hlost : (system.core.port record.port).pump = none) :
    (exec env ok system.core others task).Pursued id record.port := by
  have hlt := h.placed.typed.live record.port (.inl (.record hr rfl))
  have hpump := pump_exec env ok hlt hk (h.placed.taken ht) hlost
  have hn := h.placed.typed.taken ht
  subst htask
  have hid : id = named := (h.placed.typed.records id record hr).2.symm.trans hn
  subst hid
  refine ⟨hpump, .inl ⟨record.port, record, List.mem_append_right _ ?_, rfl, hauto⟩⟩
  simp [Core.exec, Core.hook, hr]

theorem Watched.recorded_old {record : PortRecord}
    (hr : system.core.ports.get? id = some record) (hauto : record.autoRemove = true)
    (hdead : Dead system.core record.port)
    (ha : (exec env ok system.core others task).core.ports.get? id = some record) :
    (exec env ok system.core others task).Noticed record.port ∨
      (exec env ok system.core others task).Pursued id record.port := by
  have hlt := h.placed.typed.live record.port (.inl (.record hr rfl))
  rcases h.recorded id record hr hauto hdead with hnoticed | hpursued
  · rcases h.noticed_exec ht hlt hdead.1 hnoticed with hstill | ⟨named, htask, hlost⟩
    · exact .inl hstill
    · exact .inr (h.pursued_hook ht hr hauto hdead.1 htask hlost)
  rcases h.pursued_exec ht hlt hdead.1 hpursued with hstill | hgone
  · exact .inr hstill
  · simp [hgone] at ha

theorem Watched.recorded_exec (id : String) (record : PortRecord)
    (hr : (exec env ok system.core others task).core.ports.get? id = some record)
    (hauto : record.autoRemove = true)
    (hdead : Dead (exec env ok system.core others task).core record.port) :
    (exec env ok system.core others task).Noticed record.port ∨
      (exec env ok system.core others task).Pursued id record.port := by
  have htyped : (exec env ok system.core others task).Typed := h.placed.typed.exec ht
  have hlt := htyped.live record.port (.inl (.record hr rfl))
  rcases h.placed.typed.dead_exec hlt hdead with ⟨hold, hb⟩ | hexit
  · have hports := (effect_exec system.core env ok task).ports
    have ha := hr
    dsimp only [System.exec] at hr
    cases hports with
    | same hs =>
      rw [hs] at hr
      exact h.recorded_old ht hr hauto hb ha
    | @stores req handle htask hset =>
      rw [hset, GoMap.get?_set] at hr
      split at hr
      · cases hr
        subst htask
        have hmaking : system.Making handle := ⟨req, .inr (ht.pending rfl)⟩
        have hnoticed := h.making handle hold hb hmaking
        rcases h.noticed_exec ht hold hb.1 hnoticed with hstill | ⟨_, htask, _⟩
        · exact .inl hstill
        · cases htask
      · exact h.recorded_old ht hr hauto hb ha
    | deletes _ _ herase =>
      rw [herase, GoMap.get?_erase] at hr
      split at hr
      · cases hr
      · exact h.recorded_old ht hr hauto hb ha
  · exact .inl (.inl (List.mem_append_right _ hexit))

theorem Watched.exec
    (hpatient : ∀ id source, task = .hook id source → ¬ system.Making source) :
    (exec env ok system.core others task).Watched where
  placed := h.placed.exec ht
  making := h.making_exec ht hpatient
  recorded := h.recorded_exec ht

end Execution

theorem watched_new (instanceID : UInt64) : (new instanceID).Watched where
  placed := placed_new instanceID
  making := by
    intro handle hlt
    exact absurd hlt (Nat.not_lt_zero handle)
  recorded := by
    intro id record hr
    cases hr

theorem Watched.step (h : system.Watched) {env : Env} {label : Label}
    (hpatient : system.Patient (env, label)) : (system.step env label).Watched := by
  refine step_keeps h ?_ ?_
  · intro sw shut hstand
    exact ⟨h.placed.traffic hstand, h.making, h.recorded⟩
  intro task others ok htask ht
  refine h.exec ht ?_
  intro id source hhook
  exact hpatient id source (htask.trans (congrArg some hhook))

/-! ## Whole runs -/

def Settled (system : System) (id : String) (handle : Nat) : Prop :=
  ∀ task ∈ system.tasks, handle ∉ task.handles ∧ ∀ cause, task ≠ .delete id cause

theorem not_noticed_of_settled (h : system.Settled id handle) :
    ¬ system.Noticed handle := by
  rintro (hexit | ⟨-, named, hdown | hhook⟩)
  · exact (h _ hexit).1 (.head _)
  · exact (h _ hdown).1 (.head _)
  · exact (h _ hhook).1 (.head _)

theorem not_pursued_of_settled (h : system.Settled id handle) :
    ¬ system.Pursued id handle := by
  rintro ⟨-, ⟨source, record, hrelease, rfl, -⟩ | ⟨source, hcheck⟩ | ⟨cause, hdelete⟩⟩
  · exact (h _ hrelease).1 (.tail _ (.head _))
  · exact (h _ hcheck).1 (.tail _ (.head _))
  · exact (h _ hdelete).2 cause rfl

/-- If the hook runs for a port only when the call of `CreatePort` that made it
has stored the record, every client that the manager has under auto-remove keeps
its connection unless a call or callback about it is pending. -/
theorem no_dead_port_left {system : System}
    (h : Reachable Initial (Guarded Patient Step) system) {id : String} {record : PortRecord}
    (hrecord : system.core.ports.get? id = some record) (hauto : record.autoRemove = true)
    (hclient : (system.core.port record.port).kind = .client)
    (hsettled : system.Settled id record.port) :
    (system.core.port record.port).running 0 = true := by
  have hwatched : system.Watched := invariant watched_new Watched.step h
  cases hrun : (system.core.port record.port).running 0 with
  | true => rfl
  | false =>
    rcases hwatched.recorded id record hrecord hauto ⟨hclient, hrun⟩ with
      hnoticed | hpursued
    · exact absurd hnoticed (not_noticed_of_settled hsettled)
    · exact absurd hpursued (not_pursued_of_settled hsettled)

/-! ## A patient run and a hasty one -/

instance Patient.decidable (label : Env × Label) : Decidable (system.Patient label) :=
  decidable_of_iff ((label.2.task system).all fun task => system.tasks.all fun other =>
    match task, other with
    | .hook _ source, .register _ handle => handle != source
    | .hook _ source, .store _ handle => handle != source
    | _, _ => true) (by unfold Patient Making; cases label.2.task system <;> grind)

/-- Two clients are created.  The second loses its connection while it is being
registered, and is deleted once the hook has found its record. -/
def lostEarly : List Label :=
  [.begin (.createPort { identifier := "y", endpoint := .client }),
    .run 0 true, .run 0 true, .run 0 true,
    .begin (.createPort { identifier := "x", endpoint := .client }),
    .run 0 true, .begin (.disconnect ⟨1, 0⟩), .run 1 true, .run 1 true,
    .run 0 true, .run 1 true, .run 0 true, .run 0 true, .run 0 true, .run 0 true,
    .run 0 true, .run 0 true, .run 0 true, .run 0 true, .run 0 true, .run 0 true]

theorem no_dead_port_left_second :
    ((new 1).run (steadyEnv 0) lostEarly).core.ports.get? "x" = none ∧
      ∃ record, ((new 1).run (steadyEnv 0) lostEarly).core.ports.get? "y" = some record ∧
        (((new 1).run (steadyEnv 0) lostEarly).core.port record.port).running 0 = true := by
  have hf : (((new 1).run (steadyEnv 0) lostEarly).core.ports.get? "y").map
      (fun record => (record.autoRemove, record.port)) = some (true, 0) := by decide
  obtain ⟨record, hr, hfields⟩ := Option.map_eq_some_iff.mp hf
  obtain ⟨hauto, hp⟩ := Prod.mk.inj hfields
  refine ⟨by decide, record, hr, no_dead_port_left ?_ hr hauto ?_ ?_⟩
  · exact reachable_run_guarded (.start ⟨1, rfl⟩) (by decide)
  · rw [hp]
    decide
  · have hq : ((new 1).run (steadyEnv 0) lostEarly).tasks = [] := by decide
    intro task hm
    rw [hq] at hm
    cases hm

/-- The hook of the lost client runs before `CreatePort` has stored its record. -/
def hastyHook : List Label :=
  [.begin (.createPort { identifier := "x", endpoint := .client }), .run 0 true,
    .begin (.disconnect ⟨0, 0⟩), .run 1 true, .run 1 true, .run 1 true, .run 1 true,
    .run 0 true, .run 0 true]

/-- Nothing is pending, and the manager keeps a client without its connection. -/
theorem hasty_hook_leaves_dead_port :
    ∃ system : System, Reachable Initial Step system ∧ system.tasks = [] ∧
      ∃ record, system.core.ports.get? "x" = some record ∧ record.autoRemove = true ∧
        (system.core.port record.port).kind = .client ∧
        (system.core.port record.port).running 0 = false := by
  have hf : (((new 1).run (steadyEnv 0) hastyHook).core.ports.get? "x").map
      (fun record => (record.autoRemove, record.port)) = some (true, 0) := by decide
  obtain ⟨record, hr, hfields⟩ := Option.map_eq_some_iff.mp hf
  obtain ⟨hauto, hp⟩ := Prod.mk.inj hfields
  refine ⟨(new 1).run (steadyEnv 0) hastyHook, reachable_run (.start ⟨1, rfl⟩) _ _,
    by decide, record, hr, hauto, ?_, ?_⟩
  · rw [hp]
    decide
  · rw [hp]
    decide

end System

end GvSwitch.Manager
