import GvSwitch.Manager.Inversion

/-!
# Which transports a system still refers to

A transport stays in use while a record, the switch, a server's table of
subports or a pending task names it, while it is open, or while one of its
pumps runs.  No step brings a transport back that nothing referred to.
-/

namespace GvSwitch.Manager

open Foundation SwitchCore Ports

/-! ## Steps of the system -/

def Label.task (system : System) : Label → Option Task
  | .begin task => if task.external then some task else none
  | .run index _ => system.tasks[index]?
  | .traffic _ => none

def System.Takes (system : System) (task : Task) (others : List Task) : Prop :=
  (task :: others).Perm system.tasks ∨ (task.external = true ∧ others = system.tasks)

namespace System

/-- A step executes a task, carries traffic, or changes nothing. -/
theorem step_cases (env : Env) (system : System) (label : Label) :
    system.step env label = system ∨
      (∃ op, label = .traffic op ∧ op.isTraffic = true ∧ system.step env label =
        ⟨{ system.core with sw := (system.core.sw.apply env op).1 },
          system.tasks⟩) ∨
      ∃ task others ok, label.task system = some task ∧ system.Takes task others ∧
        system.step env label = exec env ok system.core others task := by
  cases label with
  | begin task =>
    simp only [step, Label.task]
    split
    · rename_i hext
      exact .inr (.inr ⟨task, system.tasks, true, rfl, .inr ⟨hext, rfl⟩, rfl⟩)
    · exact .inl rfl
  | run index ok =>
    simp only [step, Label.task]
    split
    · exact .inl rfl
    rename_i task htask
    refine .inr (.inr ⟨task, _, ok, htask, .inl ?_, rfl⟩)
    obtain ⟨hlt, rfl⟩ := List.getElem?_eq_some_iff.mp htask
    exact List.getElem_cons_eraseIdx_perm hlt
  | traffic op =>
    simp only [step]
    split
    · rename_i htraffic
      exact .inr (.inl ⟨op, rfl, htraffic, rfl⟩)
    · exact .inl rfl

variable {system : System} {others : List Task} {handle : Nat}

theorem step_keeps {motive : System → Prop} {env : Env} {label : Label}
    (hhere : motive system)
    (htraffic : ∀ {sw : Switch} {shut : Ptr → Prop},
      Switch.Standing shut system.core.sw sw →
        motive ⟨{ system.core with sw := sw }, system.tasks⟩)
    (hexec : ∀ {task : Task} {others : List Task} {ok : Bool},
      label.task system = some task → system.Takes task others →
        motive (exec env ok system.core others task)) : motive (system.step env label) := by
  rcases step_cases env system label with hs | ⟨op, -, hop, hstep⟩ |
    ⟨task, others, ok, htask, ht, hstep⟩
  · rw [hs]
    exact hhere
  · rw [hstep]
    exact htraffic (Switch.standing_apply env _ hop)
  · rw [hstep]
    exact hexec htask ht

variable {task : Task}

theorem Takes.mem {other : Task} (h : system.Takes task others)
    (ho : other ∈ others) : other ∈ system.tasks := by
  rcases h with hperm | ⟨-, rfl⟩
  · exact hperm.mem_iff.mp (List.mem_cons_of_mem task ho)
  · exact ho

theorem Takes.stays {other : Task} (h : system.Takes task others)
    (ho : other ∈ system.tasks) : other = task ∨ other ∈ others := by
  rcases h with hperm | ⟨-, rfl⟩
  · exact List.mem_cons.mp (hperm.mem_iff.mpr ho)
  · exact .inr ho

theorem Takes.pending (h : system.Takes task others)
    (hinternal : task.external = false) : task ∈ system.tasks := by
  rcases h with hperm | ⟨hext, -⟩
  · exact hperm.mem_iff.mp (.head _)
  · simp [hext] at hinternal

theorem Takes.countP_le (h : system.Takes task others) (counted : Task → Bool) :
    others.countP counted ≤ system.tasks.countP counted := by
  rcases h with hperm | ⟨-, rfl⟩
  · rw [← hperm.countP_eq]
    exact (List.sublist_cons_self task others).countP_le
  · exact Nat.le_refl _

theorem Takes.countP_succ (h : system.Takes task others) (hinternal : task.external = false)
    {counted : Task → Bool} (hcnt : counted task = true) :
    system.tasks.countP counted = others.countP counted + 1 := by
  rcases h with hperm | ⟨hext, -⟩
  · rw [← hperm.countP_eq, List.countP_cons_of_pos hcnt]
  · simp [hext] at hinternal

theorem handles_of_external (h : task.external = true) : task.handles = [] := by
  cases task with
  | delete id cause =>
    cases cause with
    | none => rfl
    | some source => cases h
  | createPort req | connect handle peer | disconnect pump | ready session
  | patchPort id patch => rfl
  | _ => cases h

/-! ## Nothing comes back -/

def Refers (system : System) (handle : Nat) : Prop :=
  system.core.Holds handle ∨ ∃ task ∈ system.tasks, handle ∈ task.handles

theorem Takes.refers (h : system.Takes task others)
    (hm : handle ∈ task.handles) : system.Refers handle := by
  cases hext : task.external with
  | true =>
    simp [handles_of_external hext] at hm
  | false => exact .inr ⟨task, h.pending hext, hm⟩

theorem refers_of_refers_exec (halloc : system.core.sw.Allocated) (env : Env)
    (ok : Bool) (ht : system.Takes task others)
    (h : (exec env ok system.core others task).Refers handle) :
    system.Refers handle ∨ (system.core.next ≤ handle ∧
      handle < (system.core.exec env ok task).1.next) := by
  rcases h with hhold | ⟨other, ho, hm⟩
  · rcases (Core.evolves_exec halloc env ok task).holds handle hhold with
      hold | hn | hfresh
    · exact .inl (.inl hold)
    · exact .inl (ht.refers hn)
    · exact .inr hfresh
  · rcases List.mem_append.mp ho with hold | hnew
    · exact .inl (.inr ⟨other, ht.mem hold, hm⟩)
    rcases (Core.spawned_exec hnew).names hm with hhold | hn | hfresh
    · exact .inl (.inl hhold)
    · exact .inl (ht.refers hn)
    · exact .inr hfresh

theorem refers_of_refers_traffic {sw : Switch} {shut : Ptr → Prop}
    (hstand : Switch.Standing shut system.core.sw sw)
    (h : Refers ⟨{ system.core with sw := sw }, system.tasks⟩ handle) :
    system.Refers handle := by
  rcases h with hhold | hpend
  · refine .inl ?_
    cases hhold with
    | record hr hp => exact .record hr hp
    | entry he =>
      dsimp only at he
      rw [hstand.handleOf] at he
      exact .entry he
    | opened hopen => exact .opened hopen
    | running hrun => exact .running hrun
    | sub hsub => exact .sub hsub
  · exact .inr hpend

end System

end GvSwitch.Manager
