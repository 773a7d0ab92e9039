import GvSwitch.Manager.References

/-!
# Identifiers and transports agree

Wherever a record, the switch or a task pairs an identifier with a transport,
the transport is allocated and carries that identifier.  Only requests with a
valid identifier get past the manager, and no subport has one.
-/

namespace GvSwitch.Manager

open Foundation SwitchCore Ports

def Task.Typed (core : Core) : Task → Prop
  | .build req => validateIdentifier req.identifier = true
  | .register req handle | .store req handle =>
      validateIdentifier req.identifier = true ∧ (core.port handle).id = req.identifier
  | .delete id cause => ∀ source, cause = some source → (core.port source).id = id
  | .close id handle => (core.port handle).id = id
  | .halt _ next => ∀ id source, next = .portDown id source → (core.port source).id = id
  | .down id source | .hook id source => (core.port source).id = id
  | .release id source record => (core.port source).id = id ∧
      ∀ found, record = some found → (core.port found.port).id = id
  | .check id source handle => (core.port source).id = id ∧ (core.port handle).id = id
  | _ => True

theorem Task.Typed.congr {core after : Core} {task : Task} (h : task.Typed core)
    (hid : ∀ handle ∈ task.handles, (after.port handle).id = (core.port handle).id) :
    task.Typed after := by
  cases task with
  | build req => exact h
  | register req handle | store req handle =>
    exact ⟨h.1, (hid handle (.head _)).trans h.2⟩
  | delete id cause =>
    intro source hsrc
    subst hsrc
    exact (hid source (.head _)).trans (h source rfl)
  | close id handle => exact (hid handle (.head _)).trans h
  | halt pumps next =>
    intro id source hnext
    subst hnext
    refine (hid source ?_).trans (h id source rfl)
    exact List.mem_append_right _ (.head _)
  | down id source | hook id source => exact (hid source (.head _)).trans h
  | release id source record =>
    refine ⟨(hid source (.head _)).trans h.1, ?_⟩
    intro found hf
    subst hf
    refine (hid found.port ?_).trans (h.2 found rfl)
    exact .tail _ (.head _)
  | check id source handle =>
    exact ⟨(hid source (.head _)).trans h.1, (hid handle (.tail _ (.head _))).trans h.2⟩
  | _ => trivial

namespace System

structure Typed (system : System) : Prop where
  allocated : system.core.sw.Allocated
  live : ∀ handle, system.Refers handle → handle < system.core.next
  records : ∀ id record, system.core.ports.get? id = some record →
    validateIdentifier id = true ∧ (system.core.port record.port).id = id
  entries : ∀ id handle, system.core.sw.handleOf id = some handle →
    (system.core.port handle).id = id
  subports : ∀ handle < system.core.next, ∀ server anonID,
    (system.core.port handle).kind = .subPort server anonID →
      validateIdentifier (system.core.port handle).id = false
  tasks : ∀ task ∈ system.tasks, task.Typed system.core

theorem typed_new (instanceID : UInt64) : (new instanceID).Typed where
  allocated := by
    intro id ptr hp
    cases hp
  live := by
    rintro handle (hhold | ⟨task, hm, -⟩)
    · cases hhold with
      | record hr _ => cases hr
      | entry he => cases he
      | opened hopen => cases hopen
      | running hrun => cases hrun
      | sub hsub => cases hsub
    · cases hm
  records := by
    intro id record hr
    cases hr
  entries := by
    intro id handle he
    cases he
  subports := by
    intro handle hlt
    exact absurd hlt (Nat.not_lt_zero handle)
  tasks := by
    intro task hm
    cases hm

section Execution

variable {system : System} (h : system.Typed) {env : Env} {ok : Bool} {task : Task}
  {others : List Task}

include h

theorem Typed.taken (ht : system.Takes task others) : task.Typed system.core := by
  cases hext : task.external with
  | false => exact h.tasks task (ht.pending hext)
  | true =>
    cases task with
    | delete id cause =>
      cases cause with
      | none =>
        intro source hsrc
        cases hsrc
      | some source => cases hext
    | createPort req | connect handle peer | disconnect pump | ready session
    | patchPort id patch => trivial
    | _ => cases hext

theorem Typed.id_exec (env : Env) (ok : Bool) (task : Task) {handle : Nat}
    (hrefers : system.Refers handle) :
    ((system.core.exec env ok task).1.port handle).id = (system.core.port handle).id :=
  (Core.evolves_exec h.allocated env ok task).id handle (h.live handle hrefers)

theorem Typed.spawned (ht : system.Takes task others) {next : Task}
    (hnext : next ∈ (system.core.exec env ok task).2) :
    next.Typed (system.core.exec env ok task).1 := by
  have htask := h.taken ht
  have heff := Core.effect_exec system.core env ok task
  have hspawn := Core.spawned_exec hnext
  have hh {handle : Nat} (hhold : system.core.Holds handle) :=
    h.id_exec env ok task (.inl hhold)
  have hn (handle : Nat) (hm : handle ∈ task.handles) :=
    h.id_exec env ok task (ht.refers hm)
  generalize (system.core.exec env ok task).1 = after at *
  cases hspawn with
  | build hval _ => exact hval
  | register hlt =>
    refine ⟨htask, ?_⟩
    rcases heff.next with hs | halloc
    · omega
    cases halloc with
    | port hreq _ hid _ =>
      cases hreq
      exact hid
    | sub hconnect _ _ => cases hconnect
  | @store req handle =>
    exact ⟨htask.1, (hn handle (.head _)).trans htask.2⟩
  | close he => exact (hh (.entry he)).trans (h.entries _ _ he)
  | haltDiscarded _ | haltKicked _ =>
    intro id source hportDown
    cases hportDown
  | @haltClosed id handle _ _ =>
    intro other source hportDown
    cases hportDown
    exact (hn handle (.head _)).trans htask
  | haltRest =>
    intro id source hportDown
    subst hportDown
    refine (hn source ?_).trans (htask id source rfl)
    exact List.mem_append_right _ (.head _)
  | @downClosed id source =>
    exact (hn source (.head _)).trans (htask id source rfl)
  | @downExited handle _ => exact hn handle (.head _)
  | @hook id source => exact (hn source (.head _)).trans htask
  | @release id source =>
    refine ⟨(hn source (.head _)).trans htask, ?_⟩
    intro found hf
    exact (hh (.record hf rfl)).trans (h.records id found hf).2
  | @check id source found _ =>
    refine ⟨(hn source (.head _)).trans htask.1, ?_⟩
    exact (hn found.port (.tail _ (.head _))).trans (htask.2 found rfl)
  | @delete id source handle _ =>
    intro cause hcause
    cases hcause
    exact (hn source (.head _)).trans htask.1
  | _ => trivial

theorem Typed.exec (ht : system.Takes task others) :
    (exec env ok system.core others task).Typed := by
  have hevolves := Core.evolves_exec h.allocated env ok task
  have heff := Core.effect_exec system.core env ok task
  refine ⟨heff.sw.allocated h.allocated, ?_, ?_, ?_, ?_, ?_⟩
  · intro handle hrefers
    rcases refers_of_refers_exec h.allocated env ok ht hrefers with hold | ⟨-, hlt⟩
    · exact Nat.lt_of_lt_of_le (h.live handle hold) hevolves.next
    · exact hlt
  · intro id record hr
    have hold (hstored : system.core.ports.get? id = some record) :
        validateIdentifier id = true ∧
          ((system.core.exec env ok task).1.port record.port).id = id := by
      have hval := h.records id record hstored
      exact ⟨hval.1, (h.id_exec env ok task (.inl (.record hstored rfl))).trans hval.2⟩
    have hports := heff.ports
    dsimp only [System.exec] at hr ⊢
    cases hports with
    | same hs =>
      rw [hs] at hr
      exact hold hr
    | @stores req handle htask hset =>
      rw [hset, GoMap.get?_set] at hr
      split at hr
      · rename_i hid
        cases hr
        have htyped := h.taken ht
        have hrefers : system.Refers handle := by
          refine ht.refers ?_
          rw [htask]
          exact .head _
        rw [htask] at htyped
        rw [hid]
        exact ⟨htyped.1, (h.id_exec env ok task hrefers).trans htyped.2⟩
      · exact hold hr
    | deletes _ _ herase =>
      rw [herase, GoMap.get?_erase] at hr
      split at hr
      · cases hr
      · exact hold hr
  · intro id handle he
    have htyped := h.taken ht
    have hrefers (hm : handle ∈ task.handles) := ht.refers hm
    rcases heff.sw.handleOf h.allocated he with
      hold | ⟨req, htask, hid⟩ | ⟨server, attrs, htask, hid⟩
    · exact (h.id_exec env ok task (.inl (.entry hold))).trans (h.entries id handle hold)
    · have hm : handle ∈ task.handles := by
        rw [htask]
        exact .head _
      rw [htask] at htyped
      rw [hid]
      exact (h.id_exec env ok task (hrefers hm)).trans htyped.2
    · have hm : handle ∈ task.handles := by
        rw [htask]
        exact .head _
      rw [hid]
      exact h.id_exec env ok task (hrefers hm)
  · intro handle hlt server anonID hk
    dsimp only [System.exec] at hlt hk ⊢
    have hold (hlt : handle < system.core.next) :
        validateIdentifier ((system.core.exec env ok task).1.port handle).id = false := by
      rw [hevolves.kind handle hlt] at hk
      rw [hevolves.id handle hlt]
      exact h.subports handle hlt server anonID hk
    rcases heff.next with hs | halloc
    · exact hold (by omega)
    by_cases hnew : handle = system.core.next
    · subst handle
      cases halloc with
      | port _ _ _ ho => exact absurd hk (ho server anonID)
      | sub _ _ hinv => exact hinv
    · have hnext : (system.core.exec env ok task).1.next = system.core.next + 1 := by
        cases halloc with
        | port _ hnext _ _ | sub _ hnext _ => exact hnext
      exact hold (by omega)
  · intro other ho
    rcases List.mem_append.mp ho with hold | hnew
    · refine (h.tasks other (ht.mem hold)).congr ?_
      intro handle hm
      exact h.id_exec env ok task (.inr ⟨other, ht.mem hold, hm⟩)
    · exact h.spawned ht hnew

end Execution

theorem Typed.traffic {system : System} (h : system.Typed) {sw : Switch}
    {shut : Ptr → Prop} (hstand : Switch.Standing shut system.core.sw sw) :
    Typed ⟨{ system.core with sw := sw }, system.tasks⟩ where
  allocated := hstand.allocated h.allocated
  live := fun handle hrefers => h.live handle (refers_of_refers_traffic hstand hrefers)
  records := h.records
  entries := by
    intro id handle he
    rw [hstand.handleOf] at he
    exact h.entries id handle he
  subports := h.subports
  tasks := h.tasks

end System

end GvSwitch.Manager
