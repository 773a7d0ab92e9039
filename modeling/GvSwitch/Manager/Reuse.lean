import GvSwitch.Manager.Typing

/-!
# Reusing an identifier

A port is found by its identifier, and an identifier may be used again once its
port is deleted.  If `CreatePort` begins only when nothing about an earlier port
of the identifier is left, creation and removal of its ports exclude each other
and at most one of its transports is in use.
-/

namespace GvSwitch.Manager

open Foundation SwitchCore Ports Manager.Core

/-! ## The condition -/

def Task.creates : Task → Option String
  | .build req | .register req _ | .store req _ => some req.identifier
  | _ => none

/-- Nothing about an earlier port of this identifier is left, and no other
`CreatePort` for it is under way. -/
def System.Idle (system : System) (id : String) : Prop :=
  (∀ task ∈ system.tasks, task.creates ≠ some id ∧ task ≠ .remove id) ∧
    ∀ handle, system.Refers handle → (system.core.port handle).id ≠ id

/-- An identifier is reused only when it is idle, no connection is adopted while
an automatic deletion of the port is pending, and the hook's check meets no
vhost-user session that has not come up. -/
def Task.Timely (system : System) : Task → Prop
  | .createPort req => system.core.ports.get? req.identifier = none →
      system.Idle req.identifier
  | .connect handle _ | .readopt handle | .adopt handle => ∀ source,
      .delete (system.core.port handle).id (some source) ∉ system.tasks
  | .check _ _ handle => (system.core.port handle).connected = true →
      (system.core.port handle).online = true
  | _ => True

def System.Considerate (system : System) (label : Env × Label) : Prop :=
  ∀ task, label.2.task system = some task → task.Timely system

/-! ## Creation and removal exclude each other -/

/-- The task belongs to the removal of a port of this identifier; a port-down
event does unless its transport was lost. -/
def Task.Removes (core : Core) (id : String) : Task → Prop
  | .remove removed | .close removed _ => removed = id
  | .halt _ next => ∃ source, next = .portDown id source
  | .down removed source | .hook removed source =>
      removed = id ∧ (core.port source).wentDown = false
  | _ => False

variable {core after : Core} {id : String}
variable {task : Task}

theorem Task.Removes.before (h : task.Removes after id)
    (hdown : ∀ handle ∈ task.handles, (core.port handle).wentDown = true →
      (after.port handle).wentDown = true) : task.Removes core id := by
  have hlost {source : Nat} (hm : source ∈ task.handles)
      (ha : (after.port source).wentDown = false) :
      (core.port source).wentDown = false := by
    cases hb : (core.port source).wentDown with
    | false => rfl
    | true =>
      simp [hdown source hm hb] at ha
  cases task with
  | down removed source | hook removed source => exact ⟨h.1, hlost (.head _) h.2⟩
  | remove removed | close removed handle | halt pumps next => exact h
  | _ => cases h

variable {next : Task}

/-- A task of a removal follows another one, the deletion of a record, or the
loss of a subport. -/
theorem Core.Spawned.removes (h : Spawned core after task next)
    (hremoves : next.Removes after id) :
    task.Removes after id ∨
      (∃ cause record, task = .delete id cause ∧ core.ports.get? id = some record) ∨
      ∃ handle server anonID, task = .exit handle ∧
        (core.port handle).kind = .subPort server anonID ∧ id = (core.port handle).id := by
  cases h with
  | @remove _ cause record hr =>
    cases hremoves
    exact .inr (.inl ⟨cause, record, rfl, hr⟩)
  | close _ | haltRest | hook => exact .inl hremoves
  | haltClosed _ =>
    obtain ⟨source, hsrc⟩ := hremoves
    cases hsrc
    exact .inl rfl
  | @downClosed _ source =>
    obtain ⟨rfl, -⟩ := hremoves
    exact .inl ⟨source, rfl⟩
  | downExited hlost =>
    simp [hremoves.2] at hlost
  | @removeSub handle server anonID hk =>
    exact .inr (.inr ⟨handle, server, anonID, rfl, hk, hremoves.symm⟩)
  | haltDiscarded _ | haltKicked _ =>
    obtain ⟨source, hsrc⟩ := hremoves
    cases hsrc
  | _ => cases hremoves

def creating (tasks : List Task) (id : String) : Nat :=
  tasks.countP fun task => task.creates = some id

theorem creating_eq_zero {tasks : List Task} :
    creating tasks id = 0 ↔ ∀ task ∈ tasks, task.creates ≠ some id := by
  simp [creating, List.countP_eq_zero]

theorem creating_append (tasks others : List Task) (id : String) :
    creating (tasks ++ others) id = creating tasks id + creating others id :=
  List.countP_append

/-- A task of `CreatePort` follows another one, or the call itself. -/
theorem Core.Spawned.creates (h : Spawned core after task next)
    (hcreates : next.creates = some id) :
    (∃ req, task = .createPort req ∧ req.identifier = id ∧
      core.ports.get? id = none) ∨ task.creates = some id := by
  cases h with
  | @build req _ hfree =>
    cases hcreates
    exact .inl ⟨req, rfl, rfl, hfree⟩
  | register _ | store => exact .inr hcreates
  | _ => cases hcreates

theorem Core.length_exec_le_one (env : Env) (ok : Bool)
    (h : (∃ req, task = .createPort req) ∨ ∃ id, task.creates = some id) :
    (core.exec env ok task).2.length ≤ 1 := by
  have hexec := executed core env ok task
  generalize core.exec env ok task = result at hexec ⊢
  cases hexec with
  | idle _ | stored => exact Nat.zero_le 1
  | created _ _ | built _ _ | refused | registered _ _ => exact Nat.le_refl 1
  | _ =>
    rcases h with ⟨req, hreq⟩ | ⟨id, hid⟩
    · cases hreq
    · cases hid

theorem creating_exec_le_one (core : Core) (env : Env) (ok : Bool) (task : Task)
    (id : String) : creating (core.exec env ok task).2 id ≤ 1 := by
  by_cases hzero : creating (core.exec env ok task).2 id = 0
  · omega
  obtain ⟨next, hnext, hcreates⟩ : ∃ next ∈ (core.exec env ok task).2,
      next.creates = some id := by
    by_contra hnone
    exact hzero (creating_eq_zero.mpr fun next hnext hcreates =>
      hnone ⟨next, hnext, hcreates⟩)
  have hlen : (core.exec env ok task).2.length ≤ 1 := by
    refine length_exec_le_one env ok ?_
    rcases (spawned_exec hnext).creates hcreates with ⟨req, htask, -⟩ | hcreates
    · exact .inl ⟨req, htask⟩
    · exact .inr ⟨id, hcreates⟩
  exact Nat.le_trans List.countP_le_length hlen

variable {system : System}

namespace System

def Clear (system : System) (id : String) : Prop :=
  system.core.ports.get? id = none ∧ creating system.tasks id = 0

structure Exclusive (system : System) : Prop where
  single : ∀ id, creating system.tasks id ≤ 1
  created : ∀ id record, system.core.ports.get? id = some record →
    creating system.tasks id = 0
  removing : ∀ id, ∀ task ∈ system.tasks, task.Removes system.core id → system.Clear id

theorem Typed.clear (h : system.Typed) {id : String}
    (hinv : validateIdentifier id = false) : system.Clear id := by
  constructor
  · cases hr : system.core.ports.get? id with
    | none => rfl
    | some record =>
      simp [(h.records id record hr).1] at hinv
  · refine creating_eq_zero.mpr fun task hm hcreates => ?_
    have htyped := h.tasks task hm
    cases task with
    | build req =>
      cases hcreates
      simp [show validateIdentifier req.identifier = true from htyped] at hinv
    | register req handle | store req handle =>
      cases hcreates
      simp [htyped.1] at hinv
    | _ => cases hcreates

theorem Typed.not_removes_of_idle (htyped : system.Typed) {id : String}
    (hidle : system.Idle id) (hnext : next ∈ system.tasks) :
    ¬ next.Removes system.core id := by
  intro hremoves
  have hn (handle : Nat) (hm : handle ∈ next.handles) :=
    hidle.2 handle (.inr ⟨next, hnext, hm⟩)
  have hmatch := htyped.tasks next hnext
  cases next with
  | remove removed =>
    cases hremoves
    exact (hidle.1 _ hnext).2 rfl
  | close removed handle =>
    cases hremoves
    exact hn handle (.head _) hmatch
  | halt pumps continuation =>
    obtain ⟨source, rfl⟩ := hremoves
    exact hn source (List.mem_append_right _ (.head _)) (hmatch id source rfl)
  | down removed source | hook removed source =>
    obtain ⟨rfl, -⟩ := hremoves
    exact hn source (.head _) hmatch
  | _ => cases hremoves

section Execution

variable {system : System} {env : Env} {ok : Bool} {task : Task} {others : List Task}
  (ht : system.Takes task others)

include ht

theorem Takes.creating_le (id : String) : creating others id ≤ creating system.tasks id :=
  ht.countP_le _

variable {id : String} {record : PortRecord}

theorem Takes.creating_succ (hcreates : task.creates = some id) :
    creating system.tasks id = creating others id + 1 := by
  refine ht.countP_succ ?_ (decide_eq_true hcreates)
  cases task with
  | build req | register req handle | store req handle => rfl
  | _ => cases hcreates

theorem Clear.exec (h : system.Clear id)
    (hc : ∀ req, task = .createPort req → req.identifier ≠ id) :
    (exec env ok system.core others task).Clear id := by
  have hidle : task.creates ≠ some id := by
    intro hcreates
    have := ht.creating_succ hcreates
    have := h.2
    omega
  constructor
  · dsimp only [System.exec]
    have hports := (effect_exec system.core env ok task).ports
    cases hports with
    | same hs =>
      rw [hs]
      exact h.1
    | @stores req handle htask hset =>
      rw [hset, GoMap.get?_set, if_neg]
      · exact h.1
      intro hid
      rw [htask, hid] at hidle
      exact hidle rfl
    | deletes _ _ herase =>
      rw [herase, GoMap.get?_erase, h.1, ite_self]
  · dsimp only [System.exec]
    rw [creating_append]
    have hothers := ht.creating_le id
    have hnew : creating (system.core.exec env ok task).2 id = 0 := by
      refine creating_eq_zero.mpr fun next hnext hcreates => ?_
      rcases (spawned_exec hnext).creates hcreates with ⟨req, htask, hid, -⟩ | htask
      · exact hc req htask hid
      · exact hidle htask
    have := h.2
    omega

theorem Typed.removes_before (htyped : system.Typed)
    (hnext : next ∈ system.tasks ∨ next = task)
    (hremoves : next.Removes (system.core.exec env ok task).1 id) :
    next.Removes system.core id := by
  refine hremoves.before fun handle hm hlost => ?_
  refine (evolves_exec htyped.allocated env ok task).wentDown handle ?_ hlost
  rcases hnext with hnext | rfl
  · exact htyped.live handle (.inr ⟨next, hnext, hm⟩)
  · exact htyped.live handle (ht.refers hm)

theorem Exclusive.single_exec (h : system.Exclusive) (htimely : task.Timely system)
    (id : String) : creating (exec env ok system.core others task).tasks id ≤ 1 := by
  dsimp only [System.exec]
  rw [creating_append]
  have hothers := ht.creating_le id
  have hnew := creating_exec_le_one system.core env ok task id
  have hsing := h.single id
  by_cases hzero : creating (system.core.exec env ok task).2 id = 0
  · omega
  obtain ⟨next, hnext, hcreates⟩ : ∃ next ∈ (system.core.exec env ok task).2,
      next.creates = some id := by
    by_contra hnone
    exact hzero (creating_eq_zero.mpr fun next hnext hcreates =>
      hnone ⟨next, hnext, hcreates⟩)
  rcases (spawned_exec hnext).creates hcreates with ⟨req, rfl, rfl, hfree⟩ | htask
  · have hidle := creating_eq_zero.mpr fun other ho =>
      ((htimely hfree).1 other ho).1
    omega
  · have := ht.creating_succ htask
    omega

theorem Exclusive.creating_of_record (h : system.Exclusive)
    (hr : system.core.ports.get? id = some record) :
    creating (exec env ok system.core others task).tasks id = 0 := by
  have hzero := h.created id record hr
  have hothers := ht.creating_le id
  have hnew : creating (system.core.exec env ok task).2 id = 0 := by
    refine creating_eq_zero.mpr fun next hnext hcreates => ?_
    rcases (spawned_exec hnext).creates hcreates with ⟨req, -, -, hfree⟩ | htask
    · simp [hfree] at hr
    · have := ht.creating_succ htask
      omega
  dsimp only [System.exec]
  rw [creating_append]
  omega

theorem Exclusive.created_exec (h : system.Exclusive)
    (hr : (exec env ok system.core others task).core.ports.get? id = some record) :
    creating (exec env ok system.core others task).tasks id = 0 := by
  have hports := (effect_exec system.core env ok task).ports
  dsimp only [System.exec] at hr
  cases hports with
  | same hs =>
    rw [hs] at hr
    exact h.creating_of_record ht hr
  | @stores req handle htask hset =>
    rw [hset, GoMap.get?_set] at hr
    split at hr
    · -- The only `CreatePort` for this identifier has just finished.
      rename_i hid
      subst htask hid
      have hpend := ht.creating_succ rfl
      have hsing := h.single req.identifier
      dsimp only [System.exec, Core.exec]
      rw [List.append_nil]
      omega
    · exact h.creating_of_record ht hr
  | deletes _ _ herase =>
    rw [herase, GoMap.get?_erase] at hr
    split at hr
    · cases hr
    · exact h.creating_of_record ht hr

theorem Exclusive.clear_of_delete (h : system.Exclusive) {cause : Option Nat}
    (htask : task = .delete id cause) (hr : system.core.ports.get? id = some record) :
    (exec env ok system.core others task).Clear id := by
  refine ⟨?_, h.creating_of_record ht hr⟩
  subst htask
  simp [System.exec, Core.exec, Core.delete, hr, GoMap.get?_erase]

theorem Exclusive.removing_exec (h : system.Exclusive) (htyped : system.Typed)
    (htimely : task.Timely system)
    (hnext : next ∈ (exec env ok system.core others task).tasks)
    (hremoves : next.Removes (exec env ok system.core others task).core id) :
    (exec env ok system.core others task).Clear id := by
  rcases List.mem_append.mp hnext with hold | hnew
  · have hm := ht.mem hold
    have hb := htyped.removes_before ht (.inl hm) hremoves
    have hclear := h.removing id next hm hb
    refine hclear.exec ht fun req htask hid => ?_
    subst htask hid
    exact htyped.not_removes_of_idle (htimely hclear.1) hm hb
  · rcases (spawned_exec hnew).removes hremoves with
      hb | ⟨cause, record, htask, hr⟩ | ⟨handle, server, anonID, htask, hk, hid⟩
    · have hb := htyped.removes_before ht (.inr rfl) hb
      have hpend : task ∈ system.tasks := by
        refine ht.pending ?_
        cases task <;> first | rfl | cases hb
      refine (h.removing id task hpend hb).exec ht ?_
      intro req htask
      rw [htask] at hb
      cases hb
    · exact h.clear_of_delete ht htask hr
    · refine (htyped.exec ht).clear ?_
      rw [hid]
      refine htyped.subports handle (htyped.live handle (ht.refers ?_)) server anonID hk
      rw [htask]
      exact .head _

theorem Exclusive.exec (h : system.Exclusive) (htyped : system.Typed)
    (htimely : task.Timely system) : (exec env ok system.core others task).Exclusive :=
  ⟨h.single_exec ht htimely, fun _ _ => h.created_exec ht,
    fun _ _ => h.removing_exec ht htyped htimely⟩

end Execution

theorem Exclusive.traffic (h : system.Exclusive) (sw : Switch) :
    Exclusive ⟨{ system.core with sw := sw }, system.tasks⟩ :=
  ⟨h.single, h.created, h.removing⟩

/-! ## One transport per identifier -/

/-- Of all the transports an identifier ever had, one at most is still in use,
and none while `CreatePort` is about to build the next one. -/
structure Unique (system : System) : Prop where
  unique : ∀ first second, system.Refers first → system.Refers second →
    (system.core.port first).id = (system.core.port second).id →
      validateIdentifier (system.core.port first).id = true → first = second
  fresh : ∀ req, .build req ∈ system.tasks → ∀ handle, system.Refers handle →
    (system.core.port handle).id ≠ req.identifier

section Execution

variable {system : System} {env : Env} {ok : Bool} {task : Task} {others : List Task}
  (ht : system.Takes task others)

include ht

theorem Typed.refers_exec (htyped : system.Typed) {handle : Nat}
    (hrefers : (System.exec env ok system.core others task).Refers handle) :
    (system.Refers handle ∧ ((system.core.exec env ok task).1.port handle).id =
        (system.core.port handle).id) ∨
      (handle = system.core.next ∧
        ((∃ req, task = .build req ∧
            ((system.core.exec env ok task).1.port handle).id = req.identifier) ∨
          ((∃ server peer, task = .connect server peer) ∧
            validateIdentifier ((system.core.exec env ok task).1.port handle).id =
              false))) := by
  rcases refers_of_refers_exec htyped.allocated env ok ht hrefers with
    hold | ⟨hle, hlt⟩
  · exact .inl ⟨hold, htyped.id_exec env ok task hold⟩
  refine .inr ?_
  rcases (effect_exec system.core env ok task).next with hs | halloc
  · omega
  cases halloc with
  | @port req htask hnext hid _ =>
    have hnew : handle = system.core.next := by omega
    subst hnew
    exact ⟨rfl, .inl ⟨req, htask, hid⟩⟩
  | @sub server peer htask hnext hinv =>
    have hnew : handle = system.core.next := by omega
    subst hnew
    exact ⟨rfl, .inr ⟨⟨server, peer, htask⟩, hinv⟩⟩

theorem Unique.exec (h : system.Unique) (htyped : system.Typed)
    (hexclusive : system.Exclusive) (htimely : task.Timely system) :
    (exec env ok system.core others task).Unique := by
  -- While a transport is being built, no other transport of its identifier is in use.
  have hbuilt {req : PortRequest} (htask : task = .build req) {handle : Nat}
      (hrefers : system.Refers handle) :
      (system.core.port handle).id ≠ req.identifier := by
    refine h.fresh req ?_ handle hrefers
    have hpend : task ∈ system.tasks := ht.pending (by rw [htask]; rfl)
    rw [htask] at hpend
    exact hpend
  have hrequested {handle : Nat} {id : String}
      (hid : ((system.core.exec env ok task).1.port handle).id = id)
      (hval : validateIdentifier id = true)
      (hnew : (∃ req, task = .build req ∧
            ((system.core.exec env ok task).1.port handle).id = req.identifier) ∨
          ((∃ server peer, task = .connect server peer) ∧
            validateIdentifier ((system.core.exec env ok task).1.port handle).id =
              false)) : ∃ req, task = .build req ∧ id = req.identifier := by
    rcases hnew with ⟨req, htask, hreq⟩ | ⟨-, hinv⟩
    · exact ⟨req, htask, hid.symm.trans hreq⟩
    · simp [hid, hval] at hinv
  constructor
  · intro first second hfst hsnd hs hval
    dsimp only [System.exec] at hs hval
    rcases htyped.refers_exec ht hfst with ⟨hold, hid⟩ | ⟨hnew, hreq⟩
    · rcases htyped.refers_exec ht hsnd with ⟨hold', hid'⟩ | ⟨hnew', hreq'⟩
      · rw [hid, hid'] at hs
        rw [hid] at hval
        exact h.unique first second hold hold' hs hval
      · obtain ⟨req, htask, hn⟩ := hrequested hs.symm hval hreq'
        exact absurd (hid.symm.trans hn) (hbuilt htask hold)
    · rcases htyped.refers_exec ht hsnd with ⟨hold', hid'⟩ | ⟨hnew', -⟩
      · obtain ⟨req, htask, hn⟩ := hrequested rfl hval hreq
        exact absurd (hid'.symm.trans (hs.symm.trans hn)) (hbuilt htask hold')
      · exact hnew.trans hnew'.symm
  · intro req hbuild handle hrefers
    dsimp only [System.exec] at hbuild ⊢
    rcases List.mem_append.mp hbuild with hold | hspawn
    · have hm := ht.mem hold
      rcases htyped.refers_exec ht hrefers with ⟨hreferred, hid⟩ | ⟨-, hreq⟩
      · rw [hid]
        exact h.fresh req hm handle hreferred
      intro hid
      have hval : validateIdentifier req.identifier = true := htyped.tasks _ hm
      obtain ⟨built, htask, hn⟩ := hrequested hid hval hreq
      -- Two calls of `CreatePort` for one identifier.
      have hcreates : task.creates = some req.identifier := by
        rw [htask, hn]
        rfl
      have hsucc := ht.creating_succ hcreates
      have hsing := hexclusive.single req.identifier
      have hzero : creating others req.identifier = 0 := by omega
      exact creating_eq_zero.mp hzero _ hold rfl
    · have hc := spawned_exec hspawn
      cases hc with
      | build _ hfree =>
        rcases htyped.refers_exec ht hrefers with
          ⟨hreferred, hid⟩ | ⟨-, ⟨_, htask, -⟩ | ⟨⟨_, _, htask⟩, -⟩⟩
        · rw [hid]
          exact (htimely hfree).2 handle hreferred
        · cases htask
        · cases htask

end Execution

theorem Unique.traffic (h : system.Unique) {sw : Switch} {shut : Ptr → Prop}
    (hstand : Switch.Standing shut system.core.sw sw) :
    Unique ⟨{ system.core with sw := sw }, system.tasks⟩ where
  unique := fun first second hfst hsnd =>
    h.unique first second (refers_of_refers_traffic hstand hfst)
      (refers_of_refers_traffic hstand hsnd)
  fresh := fun req hbuild handle hrefers =>
    h.fresh req hbuild handle (refers_of_refers_traffic hstand hrefers)

end System

end GvSwitch.Manager
