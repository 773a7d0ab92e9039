import GvSwitch.Manager.Placement

/-!
# The life of a subport

`addSub` enters a subport in the server's table, registers it with the switch
and starts its pump; when the pump stops, `onExit` takes the subport out of the
table and removes it from the switch.  As long as something is under way for a
subport of an open server, its name in the table is its own.
-/

namespace GvSwitch.Manager

open Foundation SwitchCore Ports Manager.Core

def Task.adds (sub : Nat) : Task → Bool
  | .enrol _ other _ | .forget _ other => other == sub
  | _ => false

namespace System

def Adding (system : System) (sub : Nat) : Prop :=
  ∃ task ∈ system.tasks, task.adds sub = true

def Halting (system : System) (sub : Nat) : Prop :=
  ∃ pumps next, .halt pumps next ∈ system.tasks ∧ ⟨sub, 0⟩ ∈ pumps

def Active (system : System) (sub : Nat) : Prop :=
  system.Adding sub ∨ .exit sub ∈ system.tasks ∨
    ((system.core.port sub).running 0 = true ∧
      (Core.started (system.core.port sub) 0 = true ∨ system.Halting sub))

def Listed (system : System) (server sub : Nat) : Prop :=
  (system.core.port server).subs.get? (system.core.port sub).id = some sub

def Struck (system : System) (server sub : Nat) : Prop :=
  (system.core.port server).closed = true ∧
    (system.core.port server).subs.get? (system.core.port sub).id = none

structure Tenant (system : System) (server sub : Nat) : Prop where
  exits : system.tasks.count (Task.exit sub) +
    ((system.core.port sub).running 0).toNat ≤ 1
  adds : system.tasks.countP (Task.adds sub) ≤ 1
  unstarted : system.Adding sub → Core.started (system.core.port sub) 0 = false ∧
    ((system.core.port sub).running 0 = false → (system.core.port server).closed = true)
  halting : system.Halting sub → (system.core.port server).closed = true ∨
    Core.started (system.core.port sub) 0 = true
  registered : ∀ id, system.core.sw.handleOf id = some sub ∨
    .close id sub ∈ system.tasks → Core.started (system.core.port sub) 0 = true
  named : system.Active sub → system.Listed server sub ∨ system.Struck server sub
  swept : (system.core.port server).closed = true → system.Listed server sub →
    (system.core.port sub).running 0 = true → system.Halting sub

structure Tenancy (system : System) : Prop where
  placed : system.Placed
  tenants : ∀ sub < system.core.next, ∀ server, system.core.Sub server sub →
    system.Tenant server sub

/-! ## What one section does to an old subport -/

section Execution

variable {system : System} {task : Task} {others : List Task} {server sub : Nat}

theorem Tenant.stopped (h : system.Tenant server sub) (hexit : .exit sub ∈ system.tasks) :
    (system.core.port sub).running 0 = false := by
  have hcount := h.exits
  have hpos : 0 < system.tasks.count (Task.exit sub) := List.count_pos_iff.mpr hexit
  cases hrun : (system.core.port sub).running 0 with
  | false => rfl
  | true =>
    rw [hrun, Bool.toNat_true] at hcount
    omega

theorem Tenant.sole (h : system.Tenant server sub) (ht : system.Takes task others)
    (hadds : task.adds sub = true) {other : Task} (ho : other ∈ others) :
    other.adds sub = false := by
  have hinternal : task.external = false := by
    cases task with
    | enrol _ _ _ | forget _ _ => rfl
    | _ => cases hadds
  have hcount := h.adds
  rw [ht.countP_succ hinternal hadds] at hcount
  have hzero : others.countP (Task.adds sub) = 0 := by omega
  simpa using List.countP_eq_zero.mp hzero other ho

variable (hpl : system.Placed) (ht : system.Takes task others)
  (hlt : sub < system.core.next) (hsub : system.core.Sub server sub) (env : Env) (ok : Bool)

include hpl ht hlt hsub

theorem running_before (h : ((system.core.exec env ok task).1.port sub).running 0 = true) :
    (system.core.port sub).running 0 = true := by
  cases (hpl.pumpStep ht env ok hlt hsub).2 with
  | same hrun _ | starts _ _ hrun _ => exact hrun.symm.trans h
  | stops _ hrun _ _ => exact hrun

theorem started_after (h : started (system.core.port sub) 0 = true) :
    started ((system.core.exec env ok task).1.port sub) 0 = true := by
  cases (hpl.pumpStep ht env ok hlt hsub).2 with
  | same _ hstarted | stops _ _ _ hstarted => exact hstarted.trans h
  | starts _ _ _ hstarted => exact hstarted

omit ht in
theorem exit_new (h : .exit sub ∈ (system.core.exec env ok task).2) :
    (system.core.port sub).running 0 = true ∧
      ((system.core.exec env ok task).1.port sub).running 0 = false ∧
      ((∃ rest next, task = .halt (⟨sub, 0⟩ :: rest) next) ∨
        (task = .disconnect ⟨sub, 0⟩ ∧ started (system.core.port sub) 0 = true)) := by
  obtain ⟨-, -, hsing⟩ := hpl.parents sub hlt server hsub
  obtain ⟨anonID, hk⟩ := hsub
  obtain ⟨index, hrun, hstop, hcause⟩ := exit_spawned (by simp [hk]) h
  have hidx := hsing.index hrun
  subst hidx
  exact ⟨hrun, hstop, hcause⟩

theorem Tenant.exits_exec (h : system.Tenant server sub) :
    (exec env ok system.core others task).tasks.count (Task.exit sub) +
      (((exec env ok system.core others task).core.port sub).running 0).toNat ≤ 1 := by
  have hothers : others.count (Task.exit sub) ≤ system.tasks.count (Task.exit sub) :=
    ht.countP_le _
  have hcount := h.exits
  obtain ⟨anonID, hk⟩ := id hsub
  have hspawn : (system.core.exec env ok task).2.count (.exit sub) ≤ 1 :=
    count_exit_exec env ok task (by simp [hk])
  dsimp only [System.exec]
  rw [List.count_append]
  by_cases hexit : .exit sub ∈ (system.core.exec env ok task).2
  · obtain ⟨hb, hstop, -⟩ := exit_new hpl hlt hsub env ok hexit
    rw [hb, Bool.toNat_true] at hcount
    rw [hstop, Bool.toNat_false]
    omega
  · rw [List.count_eq_zero.mpr hexit]
    cases ha : ((system.core.exec env ok task).1.port sub).running 0 with
    | false =>
      rw [Bool.toNat_false]
      omega
    | true =>
      rw [running_before hpl ht hlt hsub env ok ha, Bool.toNat_true] at hcount
      rw [Bool.toNat_true]
      omega

omit hpl ht hsub in
theorem adds_new {next : Task} (hnext : next ∈ (system.core.exec env ok task).2)
    (hadds : next.adds sub = true) :
    (∃ server attrs, task = .enrol server sub attrs) ∧
      (system.core.exec env ok task).2 = [next] := by
  have hspawn := spawned_exec hnext
  cases hspawn with
  | enrol _ =>
    have hnew := eq_of_beq hadds
    omega
  | @forget server other attrs =>
    have ho := eq_of_beq hadds
    subst ho
    refine ⟨⟨server, attrs, rfl⟩, ?_⟩
    simp only [Core.exec, Core.enrol] at hnext ⊢
    split at hnext
    · rfl
    · cases hnext
  | _ => cases hadds

omit hpl hsub in
theorem Tenant.adds_exec (h : system.Tenant server sub) :
    (exec env ok system.core others task).tasks.countP (Task.adds sub) ≤ 1 := by
  have hothers := ht.countP_le (Task.adds sub)
  have hcount := h.adds
  dsimp only [System.exec]
  rw [List.countP_append]
  by_cases hnew : ∃ next ∈ (system.core.exec env ok task).2, next.adds sub = true
  · obtain ⟨next, hnext, hadds⟩ := hnew
    obtain ⟨⟨parent, attrs, htask⟩, hspawn⟩ := adds_new hlt env ok hnext hadds
    subst htask
    have hsucc := ht.countP_succ rfl
      (show (Task.enrol parent sub attrs).adds sub = true from beq_self_eq_true sub)
    have hone : (system.core.exec env ok (.enrol parent sub attrs)).2.countP
        (Task.adds sub) ≤ 1 := by
      rw [hspawn, List.countP_singleton]
      split <;> decide
    omega
  · have hzero : (system.core.exec env ok task).2.countP (Task.adds sub) = 0 := by
      refine List.countP_eq_zero.mpr ?_
      intro next hnext hadds
      exact hnew ⟨next, hnext, hadds⟩
    omega

omit hpl hsub in
theorem adding_before (h : (exec env ok system.core others task).Adding sub) :
    system.Adding sub := by
  obtain ⟨other, ho, hadds⟩ := h
  rcases List.mem_append.mp ho with hold | hnew
  · exact ⟨other, ht.mem hold, hadds⟩
  obtain ⟨⟨parent, attrs, htask⟩, -⟩ := adds_new hlt env ok hnew hadds
  subst htask
  exact ⟨_, ht.pending rfl, beq_self_eq_true sub⟩

theorem Tenant.unstarted_exec (h : system.Tenant server sub)
    (hadding : (exec env ok system.core others task).Adding sub) :
    started ((system.core.exec env ok task).1.port sub) 0 = false ∧
      (((system.core.exec env ok task).1.port sub).running 0 = false →
        ((system.core.exec env ok task).1.port server).closed = true) := by
  have hsrv := (hpl.parents sub hlt server hsub).1
  have hcl := closed_exec env ok task hsrv
  obtain ⟨hb, hopen⟩ := h.unstarted (adding_before ht hlt env ok hadding)
  cases (hpl.pumpStep ht env ok hlt hsub).2 with
  | same hrun hstarted =>
    refine ⟨hstarted.trans hb, fun hstop => hcl (hopen ?_)⟩
    exact hrun.symm.trans hstop
  | stops hcause _ _ hstarted =>
    refine ⟨hstarted.trans hb, fun _ => hcl ?_⟩
    rcases hcause with ⟨rest, next, rfl⟩ | ⟨-, hstart⟩
    · rcases h.halting ⟨_, _, ht.pending rfl, .head _⟩ with hshut | hstart
      · exact hshut
      · simp [hb] at hstart
    · simp [hb] at hstart
  | starts htask hadd _ _ =>
    -- The subport has been registered, so `addSub` is done with it.
    exfalso
    subst htask
    obtain ⟨other, ho, hadds⟩ := hadding
    rcases List.mem_append.mp ho with hold | hnew
    · simp [h.sole ht (beq_self_eq_true sub) hold] at hadds
    · simp only [Core.exec, Core.enrol, hadd] at hnew
      cases hnew

/-- A pump is about to be stopped if it was before, if the subport is being
closed, or if its server is. -/
theorem halting_before (h : (exec env ok system.core others task).Halting sub) :
    system.Halting sub ∨ (∃ id, task = .close id sub) ∨
      (system.Listed server sub ∧
        ((system.core.exec env ok task).1.port server).closed = true) := by
  obtain ⟨pumps, next, hpend, hm⟩ := h
  rcases List.mem_append.mp hpend with hold | hnew
  · exact .inl ⟨pumps, next, ht.mem hold, hm⟩
  · -- `Close` of a transport stops its own pump and those of its subports.
    have hcloses {handle : Nat} {order : List String → List String}
        (hhandle : handle < system.core.next)
        (hpumps : ⟨sub, 0⟩ ∈ ((system.core.port handle).close handle order).2)
        (ha : ((system.core.exec env ok task).1.port handle).closed = true) :
        sub = handle ∨ (system.Listed server sub ∧
          ((system.core.exec env ok task).1.port server).closed = true) := by
      rcases mem_close_pumps hpumps with hown | ⟨id, hlist⟩
      · exact .inl hown
      obtain ⟨hid, parentID, hparent⟩ := hpl.tables handle hhandle id sub hlist
      obtain ⟨anonID, hk⟩ := hsub
      rw [hk] at hparent
      cases hparent
      subst hid
      exact .inr ⟨hlist, ha⟩
    have hspawn := spawned_exec hnew
    cases hspawn with
    | @haltDiscarded handle _ _ =>
      have hhandle := hpl.typed.live handle (ht.refers (.head _))
      simp only [Core.exec, Core.close, List.mem_singleton, Task.halt.injEq,
        and_true] at hnew
      subst hnew
      refine .inr (.inr ((hcloses hhandle hm ?_).resolve_left ?_))
      · simp only [Core.exec, Core.close, Core.port_write_self]
        exact Core.close_closed
      rintro rfl
      have hval : validateIdentifier (system.core.port sub).id = true := hpl.taken ht
      obtain ⟨anonID, hk⟩ := hsub
      simp [hpl.typed.subports sub hlt server anonID hk] at hval
    | @haltClosed id handle _ _ =>
      have hhandle := hpl.typed.live handle (ht.refers (.head _))
      simp only [Core.exec, Core.close, List.mem_singleton, Task.halt.injEq,
        and_true] at hnew
      subst hnew
      have ha : ((system.core.exec env ok (.close id handle)).1.port handle).closed =
          true := by
        simp only [Core.exec, Core.close, Core.port_write_self]
        exact Core.close_closed
      rcases hcloses hhandle hm ha with rfl | hlist
      · exact .inr (.inl ⟨id, rfl⟩)
      · exact .inr (.inr hlist)
    | @haltKicked handle peer index _ =>
      have hlistens := connect_kicks hnew
      cases List.mem_singleton.mp hm
      obtain ⟨anonID, hk⟩ := hsub
      simp [hk, Kind.listens] at hlistens
    | haltRest =>
      exact .inl ⟨_, _, ht.pending rfl, .tail _ hm⟩

section Tenant

variable (h : system.Tenant server sub)

include h

theorem Tenant.halting_exec (hhalting : (exec env ok system.core others task).Halting sub) :
    ((system.core.exec env ok task).1.port server).closed = true ∨
      started ((system.core.exec env ok task).1.port sub) 0 = true := by
  have hsrv := (hpl.parents sub hlt server hsub).1
  rcases halting_before hpl ht hlt hsub env ok hhalting with
    hb | ⟨id, rfl⟩ | ⟨-, hcl⟩
  · rcases h.halting hb with hcl | hstarted
    · exact .inl (closed_exec env ok task hsrv hcl)
    · exact .inr (started_after hpl ht hlt hsub env ok hstarted)
  · refine .inr (started_after hpl ht hlt hsub env ok ?_)
    exact h.registered id (.inr (ht.pending rfl))
  · exact .inl hcl

theorem Tenant.registered_exec (id : String)
    (hreg : (exec env ok system.core others task).core.sw.handleOf id = some sub ∨
      .close id sub ∈ (exec env ok system.core others task).tasks) :
    started ((system.core.exec env ok task).1.port sub) 0 = true := by
  have ha := started_after hpl ht hlt hsub env ok
  rcases hreg with he | hclose
  · have heff := (effect_exec system.core env ok task).sw
    rcases heff.handleOf hpl.typed.allocated he with
      hold | ⟨req, rfl, -⟩ | ⟨parent, attrs, rfl, -⟩
    · exact ha (h.registered id (.inl hold))
    · obtain ⟨hval, hid⟩ := hpl.typed.taken ht
      obtain ⟨anonID, hk⟩ := hsub
      have hinv := hpl.typed.subports sub hlt server anonID hk
      simp [hid, hval] at hinv
    · simp only [System.exec, Core.exec, Core.enrol] at he ha ⊢
      split at he
      · exact h.registered id (.inl he)
      · rw [Core.port_write_self]
        exact (start_single (hpl.parents sub hlt server hsub).2.2).2
  · rcases List.mem_append.mp hclose with hold | hnew
    · exact ha (h.registered id (.inr (ht.mem hold)))
    have hspawn := spawned_exec hnew
    cases hspawn with
    | close he => exact ha (h.registered id (.inl he))

/-- What is under way after a section was under way before it, unless the
server's `Close` has just found the subport in the table. -/
theorem Tenant.active_before (hactive : (exec env ok system.core others task).Active sub) :
    system.Active sub ∨ system.Listed server sub := by
  rcases hactive with hadding | hexit | ⟨hrun, hstarted | hhalting⟩
  · exact .inl (.inl (adding_before ht hlt env ok hadding))
  · rcases List.mem_append.mp hexit with hold | hnew
    · exact .inl (.inr (.inl (ht.mem hold)))
    obtain ⟨hb, -, ⟨rest, next, rfl⟩ | ⟨-, hstarted⟩⟩ := exit_new hpl hlt hsub env ok hnew
    · exact .inl (.inr (.inr ⟨hb, .inr ⟨_, _, ht.pending rfl, .head _⟩⟩))
    · exact .inl (.inr (.inr ⟨hb, .inl hstarted⟩))
  · have hb := running_before hpl ht hlt hsub env ok hrun
    cases (hpl.pumpStep ht env ok hlt hsub).2 with
    | same _ hs => exact .inl (.inr (.inr ⟨hb, .inl (hs.symm.trans hstarted)⟩))
    | stops _ _ hstop _ =>
      dsimp only [System.exec] at hrun
      simp [hstop] at hrun
    | starts htask _ _ _ =>
      subst htask
      exact .inl (.inl ⟨_, ht.pending rfl, beq_self_eq_true sub⟩)
  · have hb := running_before hpl ht hlt hsub env ok hrun
    rcases halting_before hpl ht hlt hsub env ok hhalting with
      hold | ⟨id, rfl⟩ | ⟨hlist, -⟩
    · exact .inl (.inr (.inr ⟨hb, .inr hold⟩))
    · exact .inl (.inr (.inr ⟨hb, .inl (h.registered id (.inr (ht.pending rfl)))⟩))
    · exact .inr hlist

theorem Tenant.closed_of_exited (htask : task = .exit sub)
    (hactive : (exec env ok system.core others task).Active sub) :
    (system.core.port server).closed = true := by
  subst htask
  have hstop := h.stopped (ht.pending rfl)
  rcases hactive with hadding | hexit | ⟨ha, -⟩
  · exact (h.unstarted (adding_before ht hlt env ok hadding)).2 hstop
  · exfalso
    rcases List.mem_append.mp hexit with hold | hnew
    · have hcount := h.exits
      have hsucc : system.tasks.count (Task.exit sub) = others.count (Task.exit sub) + 1 :=
        ht.countP_succ rfl (beq_self_eq_true _)
      have hpos : 0 < others.count (Task.exit sub) := List.count_pos_iff.mpr hold
      omega
    · obtain ⟨hb, -, -⟩ := exit_new hpl hlt hsub env ok hnew
      simp [hstop] at hb
  · simp [running_before hpl ht hlt hsub env ok ha] at hstop

theorem Tenant.closed_of_forgotten (htask : task = .forget server sub)
    (hactive : (exec env ok system.core others task).Active sub) :
    (system.core.port server).closed = true := by
  subst htask
  obtain ⟨hunstarted, hcl⟩ := h.unstarted ⟨_, ht.pending rfl, beq_self_eq_true sub⟩
  rcases hactive with ⟨other, ho, hadds⟩ | hexit | ⟨-, hstarted | hhalting⟩
  · exfalso
    rcases List.mem_append.mp ho with hold | hnew
    · simp [h.sole ht (beq_self_eq_true sub) hold] at hadds
    · obtain ⟨⟨_, _, htask⟩, -⟩ := adds_new hlt env ok hnew hadds
      cases htask
  · rcases List.mem_append.mp hexit with hold | hnew
    · exact hcl (h.stopped (ht.mem hold))
    obtain ⟨-, -, ⟨_, _, htask⟩ | ⟨htask, -⟩⟩ := exit_new hpl hlt hsub env ok hnew
    · cases htask
    · cases htask
  · exfalso
    cases (hpl.pumpStep ht env ok hlt hsub).2 with
    | same _ hs =>
      have hb := hs.symm.trans hstarted
      simp [hunstarted] at hb
    | stops hcause _ _ _ =>
      rcases hcause with ⟨_, _, htask⟩ | ⟨htask, -⟩
      · cases htask
      · cases htask
    | starts htask _ _ _ => cases htask
  · rcases halting_before hpl ht hlt hsub env ok hhalting with
      hold | ⟨_, htask⟩ | ⟨-, ha⟩
    · rcases h.halting hold with hshut | hstarted
      · exact hshut
      · simp [hunstarted] at hstarted
    · cases htask
    · cases hopen : (system.core.port server).closed with
      | true => rfl
      | false =>
        obtain ⟨hsrv, hmode, -⟩ := hpl.parents sub hlt server hsub
        rcases closed_by env ok _ hsrv (by simp [hmode]) hopen ha with htask | ⟨_, htask⟩
        · cases htask
        · cases htask

end Tenant

theorem named_dropped (htenants : ∀ sub < system.core.next, ∀ server,
      system.core.Sub server sub → system.Tenant server sub)
    {other : Nat} (ho : other < system.core.next) (hkin : system.core.Sub server other)
    (hdrops : task = .exit other ∨ task = .forget server other)
    (hid : (system.core.port sub).id = (system.core.port other).id)
    (hactive : (exec env ok system.core others task).Active sub)
    (hn : system.Listed server sub ∨ system.Struck server sub) :
    (system.core.port server).closed = true := by
  have hactor : system.Active other := by
    rcases hdrops with rfl | rfl
    · exact .inr (.inl (ht.pending rfl))
    · exact .inl ⟨_, ht.pending rfl, beq_self_eq_true other⟩
  rcases hn with hlist | hstruck
  · rcases (htenants other ho server hkin).named hactor with hs | hgone
    · rw [Listed, ← hid, hlist] at hs
      cases hs
      have htenant := htenants sub hlt server hsub
      rcases hdrops with htask | htask
      · exact htenant.closed_of_exited hpl ht hlt hsub env ok htask hactive
      · exact htenant.closed_of_forgotten hpl ht hlt hsub env ok htask hactive
    · exact hgone.1
  · exact hstruck.1

theorem Tenancy.named_exec (htenants : ∀ sub < system.core.next, ∀ server,
      system.core.Sub server sub → system.Tenant server sub)
    (hactive : (exec env ok system.core others task).Active sub) :
    (exec env ok system.core others task).Listed server sub ∨
      (exec env ok system.core others task).Struck server sub := by
  have hsrv := (hpl.parents sub hlt server hsub).1
  have htenant := htenants sub hlt server hsub
  have hn : system.Listed server sub ∨ system.Struck server sub := by
    rcases htenant.active_before hpl ht hlt hsub env ok hactive with hb | hlist
    · exact htenant.named hb
    · exact .inl hlist
  have hid := (hpl.typed.keeps env ok task).id sub hlt
  have hcl := closed_exec env ok task hsrv
  unfold Listed Struck
  dsimp only [System.exec]
  rw [hid]
  cases tableStep_exec env ok task hsrv with
  | same hsubs _ =>
    rw [hsubs]
    exact hn.imp_right fun hstruck => ⟨hcl hstruck.1, hstruck.2⟩
  | @drops other parent anonID hdrops hk hsubs _ =>
    have hkin : other < system.core.next ∧ system.core.Sub server other := by
      rcases hdrops with ⟨rfl, rfl⟩ | rfl
      · exact ⟨hpl.typed.live other (ht.refers (.head _)), anonID, hk⟩
      · exact hpl.taken ht
    rw [hsubs, GoMap.get?_erase]
    by_cases hs : (system.core.port sub).id = (system.core.port other).id
    · rw [if_pos hs]
      refine .inr ⟨hcl ?_, rfl⟩
      exact named_dropped hpl ht hlt hsub env ok htenants hkin.1 hkin.2
        (hdrops.imp_left And.left) hs hactive hn
    · rw [if_neg hs]
      exact hn.imp_right fun hstruck => ⟨hcl hstruck.1, hstruck.2⟩
  | @keeps peer htask _ hopen hfree hsubs _ =>
    rw [hsubs, GoMap.get?_set]
    split
    · rename_i hname
      -- The name was free, so nothing was under way for the subport.
      exfalso
      rcases hn with hlist | hstruck
      · simp [Listed, hname, hfree] at hlist
      · rw [Struck, hopen] at hstruck
        cases hstruck.1
    · exact hn.imp_right fun hstruck => ⟨hcl hstruck.1, hstruck.2⟩

/-- Closing the server stops the subports in its table, and each is stopped
before `Close` is done. -/
theorem Tenant.swept_exec (h : system.Tenant server sub)
    (hcl : ((exec env ok system.core others task).core.port server).closed = true)
    (hlist : (exec env ok system.core others task).Listed server sub)
    (hrun : ((exec env ok system.core others task).core.port sub).running 0 = true) :
    (exec env ok system.core others task).Halting sub := by
  obtain ⟨hsrv, hmode, -⟩ := hpl.parents sub hlt server hsub
  have hid := (hpl.typed.keeps env ok task).id sub hlt
  have hb := running_before hpl ht hlt hsub env ok hrun
  have hwas : system.Listed server sub := by
    unfold Listed at hlist ⊢
    dsimp only [System.exec] at hlist
    rw [hid] at hlist
    cases tableStep_exec env ok task hsrv with
    | same hsubs _ =>
      rw [hsubs] at hlist
      exact hlist
    | drops _ _ hsubs _ =>
      rw [hsubs, GoMap.get?_erase] at hlist
      split at hlist
      · cases hlist
      · exact hlist
    | keeps _ _ _ _ hsubs _ =>
      rw [hsubs, GoMap.get?_set] at hlist
      split at hlist
      · cases hlist
        exact absurd hlt (Nat.lt_irrefl _)
      · exact hlist
  cases hopen : (system.core.port server).closed with
  | true =>
    obtain ⟨pumps, next, hpend, hm⟩ := h.swept hopen hwas hb
    rcases ht.stays hpend with rfl | hstays
    · cases pumps with
      | nil => cases hm
      | cons pump rest =>
        have hrest : Task.halt rest next ∈
            (system.core.exec env ok (.halt (pump :: rest) next)).2 := by
          simp only [Core.exec, Core.halt]
          split <;> simp
        rcases List.mem_cons.mp hm with rfl | hlater
        · have hstop := halt_stops hb rest next
          rw [show ((system.core.halt (⟨sub, 0⟩ :: rest) next).1.port sub).running 0 = true
            from hrun] at hstop
          cases hstop
        · exact ⟨rest, next, List.mem_append_right _ hrest, hlater⟩
    · exact ⟨pumps, next, List.mem_append_left _ hstays, hm⟩
  | false =>
    rcases closed_by env ok task hsrv (by simp [hmode]) hopen hcl with rfl | ⟨id, rfl⟩
    · exact ⟨_, _, List.mem_append_right _ (.head _),
        close_pumps env.range_perm hmode hopen hwas⟩
    · exact ⟨_, _, List.mem_append_right _ (.head _),
        close_pumps env.range_perm hmode hopen hwas⟩

end Execution

/-! ## New subports -/

section Arrival

variable {system : System} {others : List Task} {server : Nat} {peer : String}
  (hpl : system.Placed) (ht : system.Takes (.connect server peer) others)
  (env : Env) (ok : Bool)
  (hmode : (system.core.port server).kind = .streamServer .multiplex)
  (hopen : (system.core.port server).closed = false)
  (hfree : (system.core.port server).subs.get? ((system.core.port server).subName peer).1 =
    none)

include hpl ht

theorem Placed.unnamed {task : Task} (hm : task ∈ others) :
    system.core.next ∉ task.handles ∧ task.adds system.core.next = false := by
  have hpend := ht.mem hm
  have hhandles : system.core.next ∉ task.handles := fun hn =>
    absurd (hpl.typed.live _ (.inr ⟨task, hpend, hn⟩)) (Nat.lt_irrefl _)
  refine ⟨hhandles, ?_⟩
  cases task with
  | enrol parent sub attrs =>
    refine beq_false_of_ne ?_
    rintro rfl
    exact hhandles (.head _)
  | forget parent sub =>
    refine beq_false_of_ne ?_
    rintro rfl
    exact absurd (hpl.tasks _ hpend).1 (Nat.lt_irrefl _)
  | _ => rfl

include hmode hopen hfree

omit ht in
theorem Placed.unentered (id : String) :
    (System.exec env ok system.core others (.connect server peer)).core.sw.handleOf id ≠
      some system.core.next := by
  intro he
  have hswitch : (system.core.exec env ok (.connect server peer)).1.sw = system.core.sw := by
    rw [exec_connect_sub env ok hmode hopen hfree]
    rfl
  dsimp only [System.exec] at he
  rw [hswitch] at he
  exact absurd (hpl.typed.live _ (.inl (.entry he))) (Nat.lt_irrefl _)

theorem tenant_new :
    (exec env ok system.core others (.connect server peer)).Tenant server
      system.core.next := by
  have hexec := exec_connect_sub env ok hmode hopen hfree
  have hsrv := hpl.typed.live server (.inl (.opened hopen))
  have hp : ((system.core.exec env ok (.connect server peer)).1.port system.core.next) =
      Transport.install
        { id := ((system.core.port server).subName peer).1
          kind := .subPort server ((system.core.port server).subName peer).2 } false := by
    rw [hexec]
    exact port_write_alloc_self ..
  have hbooks : ((system.core.exec env ok (.connect server peer)).1.port server) =
      (system.core.port server).keepSub ((system.core.port server).subName peer).1
        ((system.core.port server).subName peer).2 system.core.next := by
    rw [hexec]
    dsimp only
    rw [port_alloc_of_ne (system.core.write server _) _ (Nat.ne_of_lt hsrv),
      port_write_self]
  have hspawn : (system.core.exec env ok (.connect server peer)).2 =
      [.enrol server system.core.next (system.core.port server).attrs] := by
    rw [hexec]
  have hnohalt : ¬ (exec env ok system.core others (.connect server peer)).Halting
      system.core.next := by
    rintro ⟨pumps, next, hpend, hm⟩
    rcases List.mem_append.mp hpend with hold | hnew
    · refine (hpl.unnamed ht hold).1 (List.mem_append_left _ ?_)
      exact List.mem_map.mpr ⟨_, hm, rfl⟩
    · rw [hspawn] at hnew
      simp at hnew
  refine ⟨?_, ?_, ?_, fun hhalting => absurd hhalting hnohalt, ?_, ?_, ?_⟩
  · dsimp only [System.exec]
    rw [hp, hspawn, List.count_append]
    have hnone : Task.exit system.core.next ∉ others := fun hm =>
      (hpl.unnamed ht hm).1 (.head _)
    rw [List.count_eq_zero.mpr hnone]
    simp [Transport.running, Transport.install]
  · dsimp only [System.exec]
    rw [hspawn, List.countP_append]
    have hnone : others.countP (Task.adds system.core.next) = 0 := by
      refine List.countP_eq_zero.mpr ?_
      intro task hm hadds
      simp [(hpl.unnamed ht hm).2] at hadds
    simp [hnone, Task.adds]
  · intro _
    dsimp only [System.exec]
    rw [hp]
    refine ⟨rfl, fun habsurd => ?_⟩
    cases habsurd
  · rintro id (he | hclose)
    · exact absurd he (hpl.unentered env ok hmode hopen hfree id)
    · rcases List.mem_append.mp hclose with hold | hnew
      · exact absurd (.head _) (hpl.unnamed ht hold).1
      · rw [hspawn] at hnew
        simp at hnew
  · intro _
    left
    unfold Listed
    dsimp only [System.exec]
    rw [hp, hbooks]
    exact GoMap.get?_set_self _ _ _
  · intro hcl
    dsimp only [System.exec] at hcl
    rw [hbooks] at hcl
    change (system.core.port server).closed = true at hcl
    simp [hopen] at hcl

end Arrival

/-! ## Every subport of every reachable state -/

theorem tenancy_new (instanceID : UInt64) : (new instanceID).Tenancy where
  placed := placed_new instanceID
  tenants := by
    intro sub hlt
    exact absurd hlt (Nat.not_lt_zero sub)

theorem Tenancy.exec {system : System} (h : system.Tenancy) {env : Env} {ok : Bool}
    {task : Task} {others : List Task} (ht : system.Takes task others) :
    (exec env ok system.core others task).Tenancy where
  placed := h.placed.exec ht
  tenants := by
    intro sub hlt server hsub
    by_cases hold : sub < system.core.next
    · have hkin := ((h.placed.typed.keeps env ok task).sub hold).mp hsub
      have htenant := h.tenants sub hold server hkin
      exact ⟨htenant.exits_exec h.placed ht hold hkin env ok,
        htenant.adds_exec ht hold env ok,
        htenant.unstarted_exec h.placed ht hold hkin env ok,
        htenant.halting_exec h.placed ht hold hkin env ok,
        htenant.registered_exec h.placed ht hold hkin env ok,
        Tenancy.named_exec h.placed ht hold hkin env ok h.tenants,
        htenant.swept_exec h.placed ht hold hkin env ok⟩
    · obtain ⟨rfl, peer, htask, hsrv, hmode, hopen, hfree⟩ :=
        (sub_exec h.placed.typed hlt hsub).resolve_left fun hb => hold hb.1
      subst htask
      exact tenant_new h.placed ht env ok hmode hopen hfree

theorem Tenancy.traffic {system : System} (h : system.Tenancy) {sw : Switch}
    {shut : Ptr → Prop} (hstand : Switch.Standing shut system.core.sw sw) :
    Tenancy ⟨{ system.core with sw := sw }, system.tasks⟩ where
  placed := h.placed.traffic hstand
  tenants := by
    intro sub hlt server hsub
    have htenant := h.tenants sub hlt server hsub
    refine ⟨htenant.exits, htenant.adds, htenant.unstarted, htenant.halting, ?_,
      htenant.named, htenant.swept⟩
    intro id hreg
    rw [hstand.handleOf] at hreg
    exact htenant.registered id hreg

end System

end GvSwitch.Manager
