import GvSwitch.Manager.Subports

/-!
# Closing a multiplex server

`Close` stops the pumps of the subports in the table, and each pump's `onExit`
removes its subport from the switch.  A registered subport is therefore still
in the table with its pump running, or its exit or its removal is pending.
`onExit` undoes nothing if it runs before `addSub` has registered the subport.
-/

namespace GvSwitch.Manager

open Foundation SwitchCore Ports Manager.Core

variable {system : System} {lenient : Bool} {env : Env}

namespace System

def InOrder (system : System) (label : Env × Label) : Prop :=
  ∀ sub, label.2.task system = some (.exit sub) →
    ∀ server attrs, .enrol server sub attrs ∉ system.tasks

def Minded (system : System) (server sub : Nat) : Prop :=
  ((system.core.port sub).running 0 = true ∧ system.Listed server sub) ∨
    .exit sub ∈ system.tasks

structure Housed (lenient : Bool) (system : System) (server sub : Nat) : Prop where
  pending : ∀ parent attrs, .enrol parent sub attrs ∈ system.tasks →
    (lenient = true ∧ (system.core.port server).closed = true) ∨ system.Minded server sub
  entry : ∀ id, system.core.sw.handleOf id = some sub →
    (lenient = true ∧ (system.core.port server).closed = true) ∨
      system.Minded server sub ∨ .remove id ∈ system.tasks

structure Tidy (lenient : Bool) (system : System) : Prop where
  tenancy : system.Tenancy
  housed : ∀ sub < system.core.next, ∀ server, system.core.Sub server sub →
    system.Housed lenient server sub

/-! ## Old subports -/

section Execution

variable {system : System} {task : Task} {others : List Task} {server sub : Nat}
  (h : system.Tenancy) (ht : system.Takes task others)
  (hlt : sub < system.core.next) (hsub : system.core.Sub server sub) (env : Env) (ok : Bool)

include h ht hlt hsub

theorem listed_exec (hlist : system.Listed server sub) :
    (exec env ok system.core others task).Listed server sub ∨ task = .exit sub ∨
      task = .forget server sub := by
  have hsrv := (h.placed.parents sub hlt server hsub).1
  have hid := (h.placed.typed.keeps env ok task).id sub hlt
  unfold Listed
  dsimp only [System.exec]
  rw [hid]
  cases tableStep_exec env ok task hsrv with
  | same hsubs _ =>
    rw [hsubs]
    exact .inl hlist
  | @drops other parent anonID hdrops hk hsubs _ =>
    have hkin : other < system.core.next ∧ system.core.Sub server other ∧
        system.Active other := by
      rcases hdrops with ⟨rfl, rfl⟩ | rfl
      · exact ⟨h.placed.typed.live other (ht.refers (.head _)),
          ⟨anonID, hk⟩, .inr (.inl (ht.pending rfl))⟩
      · obtain ⟨ho, hkin⟩ := h.placed.taken ht
        exact ⟨ho, hkin, .inl ⟨_, ht.pending rfl, beq_self_eq_true other⟩⟩
    obtain ⟨ho, hkin, hactive⟩ := hkin
    rw [hsubs, GoMap.get?_erase]
    split
    · rename_i hs
      rcases (h.tenants other ho server hkin).named hactive with hn | hstruck
      · rw [Listed, ← hs, hlist] at hn
        cases hn
        exact .inr (hdrops.imp_left And.left)
      · rw [Struck, ← hs, hlist] at hstruck
        cases hstruck.2
    · exact .inl hlist
  | keeps _ _ _ hfree hsubs _ =>
    rw [hsubs, GoMap.get?_set]
    split
    · rename_i hname
      simp [Listed, hname, hfree] at hlist
    · exact .inl hlist

theorem minded_exec (hminded : system.Minded server sub) :
    (exec env ok system.core others task).Minded server sub ∨ task = .exit sub ∨
      task = .forget server sub := by
  rcases hminded with ⟨hrun, hlist⟩ | hexit
  · rcases running_exec env ok task hlt hrun with hstill | hnew
    · rcases listed_exec h ht hlt hsub env ok hlist with hkept | hdropped
      · exact .inl (.inl ⟨hstill, hkept⟩)
      · exact .inr hdropped
    · exact .inl (.inr (List.mem_append_right _ hnew))
  · rcases ht.stays hexit with rfl | hstays
    · exact .inr (.inl rfl)
    · exact .inl (.inr (List.mem_append_left _ hstays))

variable {lenient : Bool} (hhoused : system.Housed lenient server sub)
  (horder : task = .exit sub → ∀ parent attrs, .enrol parent sub attrs ∈ system.tasks →
    lenient = true)

include hhoused

omit h ht hlt hsub hhoused in
theorem excused_exec (hsrv : server < system.core.next)
    (hexcused : lenient = true ∧ (system.core.port server).closed = true) :
    lenient = true ∧ ((system.core.exec env ok task).1.port server).closed = true :=
  ⟨hexcused.1, closed_exec env ok task hsrv hexcused.2⟩

include horder in
theorem Housed.pending_exec (parent : Nat) (attrs : PortAttrs)
    (hpend : .enrol parent sub attrs ∈ (exec env ok system.core others task).tasks) :
    (lenient = true ∧
        ((exec env ok system.core others task).core.port server).closed = true) ∨
      (exec env ok system.core others task).Minded server sub := by
  have hsrv := (h.placed.parents sub hlt server hsub).1
  have htenant := h.tenants sub hlt server hsub
  rcases List.mem_append.mp hpend with hold | hnew
  · have hb := ht.mem hold
    rcases hhoused.pending parent attrs hb with hexcused | hminded
    · exact .inl (excused_exec env ok hsrv hexcused)
    rcases minded_exec h ht hlt hsub env ok hminded with hstill | rfl | rfl
    · exact .inr hstill
    · have hstop := htenant.stopped (ht.pending rfl)
      have hcl := (htenant.unstarted ⟨_, hb, beq_self_eq_true sub⟩).2 hstop
      exact .inl (excused_exec env ok hsrv ⟨horder rfl parent attrs hb, hcl⟩)
    · have hsole := htenant.sole ht (beq_self_eq_true sub) hold
      rw [Task.adds, beq_self_eq_true] at hsole
      cases hsole
  · have hspawn := spawned_exec hnew
    cases hspawn with
    | enrol _ => exact absurd hlt (Nat.lt_irrefl _)

theorem Housed.entry_exec (id : String)
    (he : (exec env ok system.core others task).core.sw.handleOf id = some sub) :
    (lenient = true ∧
        ((exec env ok system.core others task).core.port server).closed = true) ∨
      (exec env ok system.core others task).Minded server sub ∨
      .remove id ∈ (exec env ok system.core others task).tasks := by
  have hsrv := (h.placed.parents sub hlt server hsub).1
  have htenant := h.tenants sub hlt server hsub
  have heff := (effect_exec system.core env ok task).sw
  rcases heff.handleOf h.placed.typed.allocated he with
    hold | ⟨req, rfl, -⟩ | ⟨parent, attrs, rfl, -⟩
  · rcases hhoused.entry id hold with hexcused | hminded | hremove
    · exact .inl (excused_exec env ok hsrv hexcused)
    · rcases minded_exec h ht hlt hsub env ok hminded with hstill | rfl | rfl
      · exact .inr (.inl hstill)
      · obtain ⟨anonID, hk⟩ := hsub
        refine .inr (.inr (List.mem_append_right _ ?_))
        have hid := h.placed.typed.entries id sub hold
        simp only [Core.exec, Core.exit, hk, hid]
        exact .head _
      · have hunstarted := (htenant.unstarted ⟨_, ht.pending rfl, beq_self_eq_true sub⟩).1
        simp [htenant.registered id (.inl hold)] at hunstarted
    · rcases ht.stays hremove with rfl | hstays
      · exfalso
        dsimp only [System.exec] at he
        simp only [Core.exec, Core.remove] at he
        split at he
        · rename_i hgone
          simp [Switch.handleOf, hgone] at hold
        · rw [Switch.handleOf_unregister, if_pos rfl] at he
          cases he
      · exact .inr (.inr (List.mem_append_left _ hstays))
  · obtain ⟨hval, hid⟩ := h.placed.typed.taken ht
    obtain ⟨anonID, hk⟩ := hsub
    have hinv := h.placed.typed.subports sub hlt server anonID hk
    simp [hid, hval] at hinv
  · rcases hhoused.pending parent attrs (ht.pending rfl) with hexcused | hminded
    · exact .inl (excused_exec env ok hsrv hexcused)
    rcases minded_exec h ht hlt hsub env ok hminded with hstill | htask | htask
    · exact .inr (.inl hstill)
    · cases htask
    · cases htask

end Execution

/-! ## Whole runs -/

theorem housed_new (h : system.Placed) {server : Nat} {peer : String} {others : List Task}
    (env : Env) (ok : Bool)
    (hmode : (system.core.port server).kind = .streamServer .multiplex)
    (hopen : (system.core.port server).closed = false)
    (hfree : (system.core.port server).subs.get?
      ((system.core.port server).subName peer).1 = none) (lenient : Bool) :
    (exec env ok system.core others (.connect server peer)).Housed lenient server
      system.core.next := by
  have hexec := exec_connect_sub env ok hmode hopen hfree
  have hsrv := h.typed.live server (.inl (.opened hopen))
  constructor
  · intro parent attrs hpend
    refine .inr (.inl ?_)
    unfold Listed
    dsimp only [System.exec]
    rw [hexec]
    dsimp only
    rw [port_write_alloc_self,
      port_alloc_of_ne (system.core.write server _) _ (Nat.ne_of_lt hsrv),
      port_write_self]
    exact ⟨rfl, GoMap.get?_set_self _ _ _⟩
  · intro id he
    exact absurd he (h.unentered env ok hmode hopen hfree id)

theorem tidy_new (lenient : Bool) (instanceID : UInt64) : (new instanceID).Tidy lenient where
  tenancy := tenancy_new instanceID
  housed := by
    intro sub hlt
    exact absurd hlt (Nat.not_lt_zero sub)

theorem Tidy.exec (h : system.Tidy lenient) {ok : Bool} {task : Task} {others : List Task}
    (ht : system.Takes task others)
    (horder : ∀ sub, task = .exit sub → ∀ parent attrs,
      .enrol parent sub attrs ∈ system.tasks → lenient = true) :
    (exec env ok system.core others task).Tidy lenient where
  tenancy := h.tenancy.exec ht
  housed := by
    intro sub hlt server hsub
    have hpl := h.tenancy.placed
    by_cases hold : sub < system.core.next
    · have hkin := ((hpl.typed.keeps env ok task).sub hold).mp hsub
      have hhoused := h.housed sub hold server hkin
      exact ⟨hhoused.pending_exec h.tenancy ht hold hkin env ok (horder sub),
        hhoused.entry_exec h.tenancy ht hold hkin env ok⟩
    · obtain ⟨rfl, peer, rfl, hsrv, hmode, hopen, hfree⟩ :=
        (sub_exec hpl.typed hlt hsub).resolve_left fun hb => hold hb.1
      exact housed_new hpl env ok hmode hopen hfree lenient

theorem Tidy.traffic (h : system.Tidy lenient) {sw : Switch} {shut : Ptr → Prop}
    (hstand : Switch.Standing shut system.core.sw sw) :
    Tidy lenient ⟨{ system.core with sw := sw }, system.tasks⟩ where
  tenancy := h.tenancy.traffic hstand
  housed := by
    intro sub hlt server hsub
    have hhoused := h.housed sub hlt server hsub
    refine ⟨hhoused.pending, ?_⟩
    intro id he
    rw [hstand.handleOf] at he
    exact hhoused.entry id he

theorem Tidy.step (h : system.Tidy lenient) {label : Label}
    (horder : lenient = true ∨ system.InOrder (env, label)) :
    (system.step env label).Tidy lenient := by
  refine step_keeps h h.traffic ?_
  intro task others ok htask ht
  refine h.exec ht ?_
  rintro sub rfl parent attrs hpend
  rcases horder with hlenient | hinOrder
  · exact hlenient
  · exact absurd hpend (hinOrder sub htask parent attrs)

/-- `Close` of the server has returned, and no `addSub`, `onExit` or `RemovePort`
of a subport is pending. -/
def Returned (system : System) (server : Nat) : Prop :=
  ∀ sub, system.core.Sub server sub → ¬ system.Halting sub ∧ ¬ system.Adding sub ∧
    .exit sub ∉ system.tasks ∧ .remove (system.core.port sub).id ∉ system.tasks

/-- In every run in which `onExit` of a subport never overtakes the `AddPort` of
`addSub`, no subport of a closed multiplex server is registered once `Close` has
returned and nothing is pending. -/
theorem closed_server_leaves_nothing {system : System}
    (h : Reachable Initial (Guarded InOrder Step) system) {server : Nat}
    (hclosed : (system.core.port server).closed = true) (hreturned : system.Returned server)
    {id : String} {sub : Nat} (hentry : system.core.sw.handleOf id = some sub) :
    ¬ system.core.Sub server sub := by
  have htidy : system.Tidy false := by
    refine invariant (tidy_new false) ?_ h
    intro state hst env label horder
    exact hst.step (.inr horder)
  intro hsub
  have hpl := htidy.tenancy.placed
  have hlt := hpl.typed.live sub (.inl (.entry hentry))
  have hid := hpl.typed.entries id sub hentry
  obtain ⟨hhalting, -, hexit, hremove⟩ := hreturned sub hsub
  rcases (htidy.housed sub hlt server hsub).entry id hentry with
    ⟨hlenient, -⟩ | (⟨hrun, hlist⟩ | hpend) | hpend
  · cases hlenient
  · exact hhalting ((htidy.tenancy.tenants sub hlt server hsub).swept hclosed hlist hrun)
  · exact hexit hpend
  · rw [hid] at hremove
    exact hremove hpend

/-! ## Two orders of one run -/

instance InOrder.decidable (label : Env × Label) : Decidable (system.InOrder label) :=
  decidable_of_iff ((label.2.task system).all fun task => system.tasks.all fun other =>
    match task, other with
    | .exit sub, .enrol _ added _ => added != sub
    | _, _ => true) (by unfold InOrder; cases label.2.task system <;> grind)

/-- The server `t` has a client.  Another client connects to the server `s`,
which is closed before that subport is registered; the pump of the subport is
stopped. -/
def closedEarly : List Label :=
  [.begin (.createPort { identifier := "t", endpoint := .streamServer .multiplex }),
    .run 0 true, .run 0 true, .run 0 true, .begin (.connect 0 "q"), .run 0 true,
    .begin (.createPort { identifier := "s", endpoint := .streamServer .multiplex }),
    .run 0 true, .run 0 true, .run 0 true,
    .begin (.connect 2 "p"), .begin (.delete "s" none),
    .run 1 true, .run 1 true, .run 1 true]

def registeredFirst : List Label := closedEarly ++ List.replicate 13 (.run 0 true)

theorem closed_server_leaves_nothing_registeredFirst :
    (((new 1).run (steadyEnv 0) registeredFirst).core.port 2).closed = true ∧
      ((new 1).run (steadyEnv 0) registeredFirst).core.sw.handleOf "s@p" = none ∧
      ((new 1).run (steadyEnv 0) registeredFirst).core.sw.handleOf "t@q" = some 1 ∧
      ¬ ((new 1).run (steadyEnv 0) registeredFirst).core.Sub 2 1 := by
  have hcl : (((new 1).run (steadyEnv 0) registeredFirst).core.port 2).closed = true := by
    decide
  have he : ((new 1).run (steadyEnv 0) registeredFirst).core.sw.handleOf "t@q" =
      some 1 := by decide
  have hq : ((new 1).run (steadyEnv 0) registeredFirst).tasks = [] := by decide
  refine ⟨hcl, by decide, he, closed_server_leaves_nothing ?_ hcl ?_ he⟩
  · exact reachable_run_guarded (.start ⟨1, rfl⟩) (by decide)
  · intro sub _
    unfold Halting Adding
    rw [hq]
    simp

def exitFirst : List Label := closedEarly ++ List.replicate 6 (.run 1 true) ++ [.run 0 true]

/-- Nothing is pending, and a subport of the closed server is registered. -/
theorem exit_first_leaves_subport :
    ∃ system : System, Reachable Initial Step system ∧ system.tasks = [] ∧
      (system.core.port 2).kind = .streamServer .multiplex ∧
      (system.core.port 2).closed = true ∧
      system.core.sw.handleOf "s@p" = some 3 ∧ system.core.Sub 2 3 := by
  refine ⟨(new 1).run (steadyEnv 0) exitFirst, reachable_run (.start ⟨1, rfl⟩) _ _,
    by decide, by decide, by decide, by decide, none, by decide⟩

end System

end GvSwitch.Manager
