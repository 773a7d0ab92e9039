import GvSwitch.Manager.Reuse
import GvSwitch.Manager.Rewriting

/-!
# Auto-remove

When the transport of a port is lost, the manager's hook releases the leases of
the port and may start `DeletePort` for its identifier.  Hook, lease release and
deletion find the port by its identifier alone, so they act on whatever port
carries it by then.  They act on the port that was lost if nobody reuses an
identifier before everything about its previous port is done, no new connection
is adopted while an automatic deletion is on its way, and the hook meets no
vhost-user session that has yet to come up.
-/

namespace GvSwitch.Manager

open Foundation SwitchCore Ports Transport

/-! ## The property -/

/-- Every automatic deletion on its way that will find a record finds the one
whose transport was lost, and that transport has no connection; every lease
release on its way that meets a record was caused by the transport of that
record. -/
def System.Targeted (system : System) : Prop :=
  (∀ id source record, .delete id (some source) ∈ system.tasks →
    system.core.ports.get? id = some record →
      record.port = source ∧ (system.core.port source).wentDown = true ∧
        (system.core.port source).connected = false) ∧
  ∀ id source found record, .release id source found ∈ system.tasks →
    system.core.ports.get? id = some record → record.port = source

/-! ## Only an accepted connection connects a port -/

variable {port : Transport}

namespace Core

/-- A connection of `after` is one that `before` has as well. -/
theorem connected_mono {before after : Transport} (h : after.connected = true)
    (hkind : after.kind = before.kind)
    (hpump : after.pump.isSome = true → before.pump.isSome = true)
    (hsubs : before.subs.keys = [] → after.subs.keys = [])
    (hpeer : after.peer = before.peer)
    (hclosed : after.closed = false → before.closed = false) : before.connected = true := by
  unfold connected online at h ⊢
  rw [hkind] at h
  generalize before.kind = kind at h ⊢
  cases kind with
  | streamServer mode =>
    cases mode with
    | multiplex =>
      simp only [Bool.not_eq_true', List.isEmpty_eq_false_iff] at h ⊢
      exact fun hnone => h (hsubs hnone)
    | replace | occupy => exact hpump h
  | dgramServer mode =>
    rw [← hpeer]
    exact h
  | afxdp =>
    simp only [Bool.not_eq_true'] at h ⊢
    exact hclosed h
  | client | subPort server anonID | vhostUser mode => exact hpump h

theorem connected_of_stop {stopped : Transport} {index : Nat}
    (hstop : port.stop index = some stopped) (h : stopped.connected = true) :
    port.connected = true := by
  obtain ⟨state, -, -, rfl⟩ := stop_eq_some hstop
  exact connected_mono h rfl id id rfl id

theorem connected_of_start (h : port.start.connected = true) : port.connected = true := by
  unfold start at h
  split at h
  · exact h
  split at h
  · exact h
  · exact connected_mono h rfl id id rfl id

theorem connected_of_dropSub {subID : String} {anonID : Option Nat}
    (h : (port.dropSub subID anonID).connected = true) : port.connected = true := by
  refine connected_mono h rfl id (fun hnone => ?_) rfl id
  simp only [GoMap.keys, List.map_eq_nil_iff] at hnone
  simp [dropSub, GoMap.keys, GoMap.erase, GoMap.filter, hnone]

theorem connected_of_onExit (h : port.onExit.1.connected = true) :
    port.connected = true := by
  unfold onExit at h
  split at h
  · exact connected_mono h rfl nofun id rfl id
  · split at h
    · exact h
    split at h
    · exact h
    · exact connected_mono h rfl nofun id rfl id
  · split at h
    · exact h
    split at h
    · exact h
    · exact connected_mono h rfl nofun id rfl id
  · exact connected_mono h rfl id id rfl nofun
  · exact h
  · exact h

theorem connected_of_close {handle : Nat} {order : List String → List String}
    (h : (port.close handle order).1.connected = true) : port.connected = true := by
  unfold Transport.close at h
  split at h
  · split at h
    · exact h
    · exact connected_mono h rfl nofun id rfl nofun
  · split at h
    · exact h
    · exact connected_mono h rfl nofun id rfl nofun
  · exact connected_mono h rfl id id rfl nofun

theorem connected_exec {core : Core} {env : Env} {ok : Bool} {task : Task} {handle : Nat}
    (hlt : handle < core.next)
    (h : ((core.exec env ok task).1.port handle).connected = true) :
    (core.port handle).connected = true ∨ task = .readopt handle ∨ task = .adopt handle ∨
      ∃ peer, task = .connect handle peer := by
  have hrewritten := rewritten_exec core env ok task (.inl (Nat.ne_of_lt hlt))
  generalize (core.exec env ok task).1.port handle = after at hrewritten h
  cases hrewritten with
  | same | patched _ => exact .inl h
  | closed _ _ => exact .inl (connected_of_close h)
  | halted _ hstop | lost _ _ _ hstop _ => exact .inl (connected_of_stop hstop h)
  | exited _ _ => exact .inl (connected_of_onExit h)
  | dropped _ _ | forgot _ _ => exact .inl (connected_of_dropSub h)
  | readopted htask _ => exact .inr (.inl htask)
  | enrolled _ _ => exact .inl (connected_of_start h)
  | adopted htask _ | kept htask _ _ _ | heard htask _ | sessionAccepted htask _ =>
    exact .inr (.inr (.inr ⟨_, htask⟩))
  | sessionMade htask _ => exact .inr (.inr (.inl htask))
  | sessionUp _ _ => exact .inl (connected_mono h rfl id id rfl id)

end Core

/-! ## The chain from a lost transport to the deletion -/

def Task.Doomed (core : Core) : Task → Prop
  | .release _ source record => ∀ found, record = some found →
      found.port = source ∧ (core.port source).wentDown = true
  | .check _ source handle => handle = source ∧ (core.port source).wentDown = true
  | .delete _ cause => ∀ source, cause = some source →
      (core.port source).wentDown = true ∧ (core.port source).connected = false
  | _ => True

variable {system : System}

namespace System

structure Orderly (system : System) : Prop where
  typed : system.Typed
  exclusive : system.Exclusive
  unique : system.Unique
  doomed : ∀ task ∈ system.tasks, task.Doomed system.core

/-- A port-down event that meets a record comes from the lost transport of that
record. -/
theorem Orderly.hook (h : system.Orderly) {id : String} {source : Nat} {record : PortRecord}
    (hpend : .hook id source ∈ system.tasks) (hr : system.core.ports.get? id = some record) :
    record.port = source ∧ (system.core.port source).wentDown = true := by
  have hn : (system.core.port source).id = id := h.typed.tasks _ hpend
  have hval := h.typed.records id record hr
  constructor
  · refine h.unique.unique record.port source (.inl (.record hr rfl))
      (.inr ⟨_, hpend, .head _⟩) (hval.2.trans hn.symm) ?_
    rw [hval.2]
    exact hval.1
  · cases hlost : (system.core.port source).wentDown with
    | true => rfl
    | false =>
      have hclear := h.exclusive.removing id _ hpend ⟨rfl, hlost⟩
      simp [hclear.1] at hr

section Execution

variable {system : System} {env : Env} {ok : Bool} {task : Task} {others : List Task}

theorem Orderly.doomed_old (h : system.Orderly) (htimely : task.Timely system)
    {other : Task} (ho : other ∈ system.tasks) :
    other.Doomed (system.core.exec env ok task).1 := by
  have hdoomed := h.doomed other ho
  have hlt (handle : Nat) (hm : handle ∈ other.handles) :=
    h.typed.live handle (.inr ⟨other, ho, hm⟩)
  have hlost (handle : Nat) (hm : handle ∈ other.handles) :=
    (Core.evolves_exec h.typed.allocated env ok task).wentDown handle (hlt handle hm)
  cases other with
  | release id source record =>
    intro found hf
    have hold := hdoomed found hf
    exact ⟨hold.1, hlost source (.head _) hold.2⟩
  | check id source handle =>
    exact ⟨hdoomed.1, hlost source (.head _) hdoomed.2⟩
  | delete id cause =>
    intro source hsrc
    subst hsrc
    have hold := hdoomed source rfl
    have hm : source ∈ (Task.delete id (some source)).handles := List.mem_singleton_self _
    refine ⟨hlost source hm hold.1, ?_⟩
    cases hconn : ((system.core.exec env ok task).1.port source).connected with
    | false => rfl
    | true =>
      have hid : (system.core.port source).id = id := h.typed.tasks _ ho source rfl
      rcases Core.connected_exec (hlt source hm) hconn with
        hb | htask | htask | ⟨peer, htask⟩
      · simp [hold.2] at hb
      · subst htask hid
        exact absurd ho (htimely source)
      · subst htask hid
        exact absurd ho (htimely source)
      · subst htask hid
        exact absurd ho (htimely source)
  | _ => trivial

theorem Orderly.exec (h : system.Orderly) (ht : system.Takes task others)
    (htimely : task.Timely system) : (exec env ok system.core others task).Orderly where
  typed := h.typed.exec ht
  exclusive := h.exclusive.exec ht h.typed htimely
  unique := h.unique.exec ht h.typed h.exclusive htimely
  doomed := by
    intro other ho
    rcases List.mem_append.mp ho with hold | hnew
    · exact h.doomed_old htimely (ht.mem hold)
    have hspawn := Core.spawned_exec hnew
    cases hspawn with
    | @release id source =>
      intro found hf
      exact h.hook (ht.pending rfl) hf
    | @check id source found hauto =>
      have hdoomed := h.doomed _ (ht.pending rfl) found rfl
      exact hdoomed
    | @delete id source handle hoffline =>
      intro cause hcause
      cases hcause
      have hdoomed := h.doomed _ (ht.pending rfl)
      refine ⟨hdoomed.2, ?_⟩
      rw [← hdoomed.1]
      cases hconn : (system.core.port handle).connected with
      | false => exact hconn
      | true => exact absurd (hoffline.symm.trans (htimely hconn)) (by decide)
    | remove _ =>
      trivial
    | _ => trivial

end Execution

theorem orderly_new (instanceID : UInt64) : (new instanceID).Orderly where
  typed := typed_new instanceID
  exclusive := by
    refine ⟨fun _ => Nat.zero_le _, ?_, ?_⟩
    · intro id record hr
      cases hr
    · intro id task hm
      cases hm
  unique := by
    constructor
    · intro first second hfst
      exact absurd ((typed_new instanceID).live first hfst) (Nat.not_lt_zero first)
    · intro req hm
      cases hm
  doomed := by
    intro task hm
    cases hm

theorem Orderly.step (h : system.Orderly) {env : Env} {label : Label}
    (hcons : system.Considerate (env, label)) : (system.step env label).Orderly := by
  refine step_keeps h ?_ ?_
  · intro sw shut hstand
    exact ⟨h.typed.traffic hstand, h.exclusive.traffic _, h.unique.traffic hstand, h.doomed⟩
  · intro task others ok htask ht
    exact h.exec ht (hcons task htask)

theorem Orderly.targeted (h : system.Orderly) : system.Targeted := by
  have hs {id : String} {source : Nat} {record : PortRecord} {task : Task}
      (hpend : task ∈ system.tasks) (hm : source ∈ task.handles)
      (hn : (system.core.port source).id = id)
      (hr : system.core.ports.get? id = some record) : record.port = source := by
    have hval := h.typed.records id record hr
    refine h.unique.unique record.port source (.inl (.record hr rfl))
      (.inr ⟨task, hpend, hm⟩) (hval.2.trans hn.symm) ?_
    rw [hval.2]
    exact hval.1
  constructor
  · intro id source record hpend hr
    exact ⟨hs hpend (.head _)
      (h.typed.tasks _ hpend source rfl) hr, h.doomed _ hpend source rfl⟩
  · intro id source found record hpend hr
    exact hs hpend (.head _) (h.typed.tasks _ hpend).1 hr

/-! ## Whole runs -/

/-- In every run that reuses an identifier only when it is idle, adopts no
connection while an automatic deletion of the port is pending and checks no
vhost-user session before it is up, auto-remove deletes only the port that was
lost. -/
theorem auto_remove_targets_lost_port {system : System}
    (h : Reachable Initial (Guarded Considerate Step) system) : system.Targeted := by
  have horderly : system.Orderly := invariant orderly_new Orderly.step h
  exact horderly.targeted

/-! ## A considerate run and a hasty one -/

theorem considerate_of_task {label : Env × Label} {task : Task}
    (htask : label.2.task system = some task) (htimely : task.Timely system) :
    system.Considerate label := by
  intro other ho
  rw [htask] at ho
  cases ho
  exact htimely

def created : System :=
  (new 1).step (steadyEnv 0)
    (.begin (.createPort { identifier := "x", endpoint := .client }))

theorem reachable_created : Reachable Initial (Guarded Considerate Step) created := by
  have hidle : (new 1).Idle "x" := by
    constructor
    · intro task hm
      cases hm
    · intro handle hrefers
      exact absurd ((typed_new 1).live handle hrefers) (Nat.not_lt_zero handle)
  have hstep : Guarded Considerate Step (new 1) (steadyEnv 0,
      .begin (.createPort { identifier := "x", endpoint := .client })) created := by
    refine ⟨fun task htask => ?_, rfl⟩
    cases htask
    exact fun _ => hidle
  exact .next (.start ⟨1, rfl⟩) hstep

/-- The port is registered and stored, its peer goes away, and the deletion is
on its way. -/
def lostPort : List Label :=
  [.run 0 true, .run 0 true, .run 0 true, .begin (.disconnect ⟨0, 0⟩), .run 0 true,
    .run 0 true, .run 0 true, .run 0 true, .run 0 true]

theorem auto_remove_targets_lost_port_client :
    .delete "x" (some 0) ∈ (created.run (steadyEnv 0) lostPort).tasks ∧
      (created.run (steadyEnv 0) lostPort).Targeted := by
  refine ⟨by decide, auto_remove_targets_lost_port ?_⟩
  refine reachable_run_guarded reachable_created ⟨?_, ?_, ?_, ?_, ?_, ?_, ?_, ?_, ?_, trivial⟩
  iterate 8 exact considerate_of_task rfl trivial
  exact considerate_of_task rfl fun hconn => absurd hconn (by decide)

/-- A client port is deleted and a server port is created under its identifier
before the client's pump has reported its exit. -/
def replacedPort : List Label :=
  [.begin (.createPort { identifier := "x", endpoint := .client }),
    .run 0 true, .run 0 true, .run 0 true,
    .begin (.delete "x" none),
    .run 0 true, .run 0 true, .run 0 true,
    .run 1 true, .run 1 true, .run 1 true, .run 1 true,
    .begin (.createPort { identifier := "x", endpoint := .streamServer .replace }),
    .run 1 true, .run 1 true, .run 1 true,
    .run 0 true, .run 0 true, .run 0 true, .run 0 true, .run 0 true]

/-- The exit of the deleted client deletes the new server, which was never
lost. -/
theorem stale_event_deletes_new_port :
    ∃ system : System, Reachable Initial Step system ∧ ¬ system.Targeted ∧
      .delete "x" (some 0) ∈ system.tasks ∧
      (system.core.ports.get? "x").map (·.port) = some 1 ∧
      (system.core.port 1).wentDown = false ∧
      ((system.step (steadyEnv 0) (.run 0 true)).core.ports.get? "x").isNone = true := by
  have hpend : .delete "x" (some 0) ∈
      ((new 1).run (steadyEnv 0) replacedPort).tasks := by decide
  have hr : (((new 1).run (steadyEnv 0) replacedPort).core.ports.get? "x").map
      (·.port) = some 1 := by decide
  refine ⟨(new 1).run (steadyEnv 0) replacedPort,
    reachable_run (.start ⟨1, rfl⟩) _ _, ?_, hpend, hr, by decide, by decide⟩
  intro htargeted
  obtain ⟨record, hstored, hp⟩ := Option.map_eq_some_iff.mp hr
  rw [(htargeted.1 "x" 0 record hpend hstored).1] at hp
  cases hp

end System

end GvSwitch.Manager
