import GvSwitch.Manager.Books

/-!
# Which tasks meet which transports

A connection is adopted again only by a listening transport, and `addSub` handles
subports of its own server.  A subport has one pump, and a server's table lists
its own subports under their names.
-/

namespace GvSwitch.Manager

open Foundation SwitchCore Ports Manager.Core

def Core.Sub (core : Core) (server sub : Nat) : Prop :=
  ∃ anonID, (core.port sub).kind = .subPort server anonID

def Task.Placed (core : Core) : Task → Prop
  | .discard handle => validateIdentifier (core.port handle).id = true
  | .readopt handle | .halt _ (.readopt handle) => (core.port handle).kind.listens = true
  | .enrol server sub _ | .forget server sub => sub < core.next ∧ core.Sub server sub
  | _ => True

structure Core.Keeps (before after : Core) : Prop where
  next : before.next ≤ after.next
  id : ∀ handle < before.next, (after.port handle).id = (before.port handle).id
  kind : ∀ handle < before.next, (after.port handle).kind = (before.port handle).kind

theorem Core.Keeps.sub {before after : Core} (h : Keeps before after) {server sub : Nat}
    (hlt : sub < before.next) : after.Sub server sub ↔ before.Sub server sub := by
  unfold Sub
  rw [h.kind sub hlt]

theorem Task.Placed.congr {core after : Core} {task : Task} (h : task.Placed core)
    (hkeeps : Keeps core after) (hlive : ∀ handle ∈ task.handles, handle < core.next) :
    task.Placed after := by
  cases task with
  | discard handle =>
    exact (congrArg validateIdentifier (hkeeps.id handle (hlive handle (.head _)))).trans h
  | readopt handle =>
    exact (congrArg Kind.listens (hkeeps.kind handle (hlive handle (.head _)))).trans h
  | halt pumps next =>
    cases next with
    | readopt handle =>
      refine (congrArg Kind.listens (hkeeps.kind handle (hlive handle ?_))).trans h
      exact List.mem_append_right _ (.head _)
    | «return» | portDown id source => trivial
  | enrol server sub attrs | forget server sub =>
    exact ⟨Nat.lt_of_lt_of_le h.1 hkeeps.next, (hkeeps.sub h.1).mpr h.2⟩
  | _ => trivial

theorem Core.connect_kicks {core : Core} {handle : Nat} {peer : String}
    {pumps : List PumpRef} {target : Nat}
    (h : .halt pumps (.readopt target) ∈ (core.connect handle peer).2) :
    (core.port handle).kind.listens = true := by
  dsimp only [connect] at h
  split at h
  · rename_i hk
    rw [hk]
    rfl
  · rename_i hk
    rw [hk]
    rfl
  · split at h <;> cases h
  · rename_i hk
    rw [hk]
    rfl
  · cases h

namespace System

structure Placed (system : System) : Prop where
  typed : system.Typed
  tasks : ∀ task ∈ system.tasks, task.Placed system.core
  parents : ∀ sub < system.core.next, ∀ server, system.core.Sub server sub →
    server < system.core.next ∧
      (system.core.port server).kind = .streamServer .multiplex ∧
      Core.Single (system.core.port sub)
  tables : ∀ server < system.core.next, ∀ id sub,
    (system.core.port server).subs.get? id = some sub →
      (system.core.port sub).id = id ∧ system.core.Sub server sub

theorem placed_new (instanceID : UInt64) : (new instanceID).Placed where
  typed := typed_new instanceID
  tasks := by
    intro task hm
    cases hm
  parents := by
    intro sub hlt
    exact absurd hlt (Nat.not_lt_zero sub)
  tables := by
    intro server hlt
    exact absurd hlt (Nat.not_lt_zero server)

theorem Typed.keeps {system : System} (h : system.Typed) (env : Env) (ok : Bool)
    (task : Task) : Keeps system.core (system.core.exec env ok task).1 := by
  have hevolves := evolves_exec h.allocated env ok task
  exact ⟨hevolves.next, hevolves.id, hevolves.kind⟩

section Execution

variable {system : System} {env : Env} {ok : Bool} {task : Task} {others : List Task}
  (h : system.Placed) (ht : system.Takes task others)

include h ht

theorem Placed.taken : task.Placed system.core := by
  cases hext : task.external with
  | false => exact h.tasks task (ht.pending hext)
  | true =>
    cases task with
    | createPort req | delete id cause | connect handle peer | disconnect pump
    | ready session | patchPort id patch => trivial
    | _ => cases hext

theorem Placed.spawned {next : Task} (hnext : next ∈ (system.core.exec env ok task).2) :
    next.Placed (system.core.exec env ok task).1 := by
  have htaken := h.taken ht
  have htyped := h.typed.taken ht
  have hkeeps := h.typed.keeps env ok task
  have hlive (handle : Nat) (hm : handle ∈ task.handles) :=
    h.typed.live handle (ht.refers hm)
  have hspawn := spawned_exec hnext
  cases hspawn with
  | @discard req handle =>
    have hlt := hlive handle (.head _)
    refine (congrArg validateIdentifier (hkeeps.id handle hlt)).trans ?_
    rw [htyped.2]
    exact htyped.1
  | @haltKicked handle peer index hopen =>
    have hlt := h.typed.live handle (.inl (.opened hopen))
    exact (congrArg Kind.listens (hkeeps.kind handle hlt)).trans (connect_kicks hnext)
  | @haltRest pump rest next =>
    cases next with
    | readopt handle =>
      refine (congrArg Kind.listens (hkeeps.kind handle (hlive handle ?_))).trans htaken
      exact List.mem_append_right _ (.head _)
    | «return» | portDown id source => trivial
  | @readopt handle =>
    exact (congrArg Kind.listens (hkeeps.kind handle (hlive handle (.head _)))).trans htaken
  | @enrol server peer attrs hlt =>
    cases fresh_exec system.core env ok (.connect server peer) with
    | none hs => omega
    | built htask _ _ _ _ _ => cases htask
    | sub htask _ _ _ _ hp _ _ =>
      cases htask
      refine ⟨hlt, ((system.core.port server).subName peer).2, ?_⟩
      rw [hp]
      rfl
  | forget =>
    exact ⟨Nat.lt_of_lt_of_le htaken.1 hkeeps.next, (hkeeps.sub htaken.1).mpr htaken.2⟩
  | _ => trivial

omit h ht in
theorem sub_exec (htyped : system.Typed) {server sub : Nat}
    (hlt : sub < (system.core.exec env ok task).1.next)
    (hsub : (system.core.exec env ok task).1.Sub server sub) :
    (sub < system.core.next ∧ system.core.Sub server sub) ∨
      (sub = system.core.next ∧ ∃ peer, task = .connect server peer ∧
        server < system.core.next ∧
        (system.core.port server).kind = .streamServer .multiplex ∧
        (system.core.port server).closed = false ∧
        (system.core.port server).subs.get? ((system.core.port server).subName peer).1 =
          none) := by
  by_cases hold : sub < system.core.next
  · exact .inl ⟨hold, ((htyped.keeps env ok task).sub hold).mp hsub⟩
  obtain ⟨anonID, hk⟩ := hsub
  cases fresh_exec system.core env ok task with
  | none hs => omega
  | built _ _ htransport hnext hp _ =>
    have hnew : sub = system.core.next := by omega
    subst hnew
    rw [hp] at hk
    exact absurd hk ((transportFor_spec htransport).2 server anonID)
  | @sub parent peer htask hmode hopen hfree hnext hp _ _ =>
    have hnew : sub = system.core.next := by omega
    subst hnew
    have hparent := htyped.live parent (.inl (.opened hopen))
    rw [hp] at hk
    cases hk
    exact .inr ⟨rfl, peer, htask, hparent, hmode, hopen, hfree⟩

theorem Placed.pumpStep (env : Env) (ok : Bool) {server sub : Nat}
    (hlt : sub < system.core.next) (hsub : system.core.Sub server sub) :
    Single ((system.core.exec env ok task).1.port sub) ∧
      PumpStep system.core task sub ((system.core.exec env ok task).1.port sub) := by
  obtain ⟨-, -, hsing⟩ := h.parents sub hlt server hsub
  obtain ⟨anonID, hk⟩ := hsub
  refine pumpStep_exec env ok hlt hk hsing ?_
  rintro rfl
  have hlistens : (system.core.port sub).kind.listens = true := h.taken ht
  simp [hk, Kind.listens] at hlistens

theorem Placed.parents_exec (sub : Nat) (hlt : sub < (system.core.exec env ok task).1.next)
    (server : Nat) (hsub : (system.core.exec env ok task).1.Sub server sub) :
    server < (system.core.exec env ok task).1.next ∧
      ((system.core.exec env ok task).1.port server).kind = .streamServer .multiplex ∧
      Single ((system.core.exec env ok task).1.port sub) := by
  have hkeeps := h.typed.keeps env ok task
  rcases sub_exec h.typed hlt hsub with
    ⟨hold, hb⟩ | ⟨rfl, peer, rfl, hsrv, hmode, hopen, hfree⟩
  · obtain ⟨hsrv, hmode, -⟩ := h.parents sub hold server hb
    exact ⟨Nat.lt_of_lt_of_le hsrv hkeeps.next, (hkeeps.kind server hsrv).trans hmode,
      (h.pumpStep ht env ok hold hb).1⟩
  · refine ⟨Nat.lt_of_lt_of_le hsrv hkeeps.next, (hkeeps.kind server hsrv).trans hmode, ?_⟩
    rw [exec_connect_sub env ok hmode hopen hfree, port_write_alloc_self]
    exact ⟨rfl, rfl⟩

omit ht in
theorem Placed.tables_exec (server : Nat)
    (hlt : server < (system.core.exec env ok task).1.next) (id : String) (sub : Nat)
    (hsub : ((system.core.exec env ok task).1.port server).subs.get? id = some sub) :
    ((system.core.exec env ok task).1.port sub).id = id ∧
      (system.core.exec env ok task).1.Sub server sub := by
  have hkeeps := h.typed.keeps env ok task
  by_cases hsrv : server < system.core.next
  · have hold (hb : (system.core.port server).subs.get? id = some sub) :
        ((system.core.exec env ok task).1.port sub).id = id ∧
          (system.core.exec env ok task).1.Sub server sub := by
      obtain ⟨hid, hk⟩ := h.tables server hsrv id sub hb
      have hsublt := h.typed.live sub (.inl (.sub hb))
      exact ⟨(hkeeps.id sub hsublt).trans hid, (hkeeps.sub hsublt).mpr hk⟩
    cases tableStep_exec env ok task hsrv with
    | same hs _ =>
      rw [hs] at hsub
      exact hold hsub
    | drops _ _ herase _ =>
      rw [herase, GoMap.get?_erase] at hsub
      split at hsub
      · cases hsub
      · exact hold hsub
    | @keeps peer htask hmode hopen hfree hset _ =>
      rw [hset, GoMap.get?_set] at hsub
      split at hsub
      · rename_i hid
        cases hsub
        subst htask
        have hp := congrArg (fun result => result.1.port system.core.next)
          (exec_connect_sub env ok hmode hopen hfree)
        dsimp only at hp
        rw [port_write_alloc_self] at hp
        exact ⟨(congrArg Transport.id hp).trans hid.symm, _, congrArg Transport.kind hp⟩
      · exact hold hsub
  · cases fresh_exec system.core env ok task with
    | none hs => omega
    | built _ _ htransport hnext hp _ =>
      have hnew : server = system.core.next := by omega
      subst hnew
      simp [hp, transportFor_subs htransport] at hsub
    | sub _ _ _ _ hnext hp _ _ =>
      have hnew : server = system.core.next := by omega
      subst hnew
      rw [hp] at hsub
      cases hsub

theorem Placed.exec : (exec env ok system.core others task).Placed where
  typed := h.typed.exec ht
  tasks := by
    intro other ho
    rcases List.mem_append.mp ho with hold | hnew
    · refine (h.tasks other (ht.mem hold)).congr (h.typed.keeps env ok task) ?_
      intro handle hm
      exact h.typed.live handle (.inr ⟨other, ht.mem hold, hm⟩)
    · exact h.spawned ht hnew
  parents := h.parents_exec ht
  tables := h.tables_exec

end Execution

theorem Placed.traffic {system : System} (h : system.Placed) {sw : Switch}
    {shut : Ptr → Prop} (hstand : Switch.Standing shut system.core.sw sw) :
    Placed ⟨{ system.core with sw := sw }, system.tasks⟩ where
  typed := h.typed.traffic hstand
  tasks := h.tasks
  parents := h.parents
  tables := h.tables

end System

end GvSwitch.Manager
