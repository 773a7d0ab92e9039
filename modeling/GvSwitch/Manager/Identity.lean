import GvSwitch.Foundation.Text
import GvSwitch.Manager.Entries
import GvSwitch.Manager.Placement

/-!
# Names tell transports apart

A subport's name is its server's identifier, `@` and the client.  Identifiers of
ports contain no `@`, so a name determines the identifier of the server, and the
server itself as long as no identifier is used twice.
-/

namespace GvSwitch.Manager

open Foundation SwitchCore Ports

/-! ## Reading a name -/

theorem not_mem_of_validateIdentifier {id : String} (h : validateIdentifier id = true) :
    '@' ∉ id.toList := by
  intro hm
  rw [validateIdentifier, Bool.and_eq_true, List.all_eq_true] at h
  have hbad := h.2 '@' hm
  revert hbad
  decide

theorem subName_injective {server other peer client : String}
    (hsrv : validateIdentifier server = true) (ho : validateIdentifier other = true)
    (h : server ++ "@" ++ peer = other ++ "@" ++ client) : server = other ∧ peer = client := by
  have hlist := congrArg String.toList h
  simp only [String.toList_append, List.append_assoc] at hlist
  obtain ⟨hname, hrest⟩ := append_cons_injective (not_mem_of_validateIdentifier hsrv)
    (not_mem_of_validateIdentifier ho) hlist
  exact ⟨String.toList_inj.mp hname, String.toList_inj.mp hrest⟩

variable {system : System}

namespace System

/-! ## Identifiers used once -/

def Unreused (system : System) (label : Env × Label) : Prop :=
  ∀ req, label.2.task system = some (.build req) → ∀ handle < system.core.next,
    (system.core.port handle).id ≠ req.identifier

instance Unreused.decidable (system : System) (label : Env × Label) :
    Decidable (system.Unreused label) :=
  decidable_of_iff ((label.2.task system).all fun task =>
    match task with
    | .build req => decide (∀ handle < system.core.next,
        (system.core.port handle).id ≠ req.identifier)
    | _ => true) (by unfold Unreused; cases label.2.task system <;> grind)

def Standalone (core : Core) (handle : Nat) : Prop := ∀ server, ¬ core.Sub server handle

theorem standalone_of_kind {core : Core} {handle : Nat} {mode : ReplacingMode}
    (h : (core.port handle).kind = .streamServer mode) : Standalone core handle := by
  rintro server ⟨anonID, hk⟩
  simp [h] at hk

structure Identified (system : System) : Prop where
  placed : system.Placed
  valid : ∀ handle < system.core.next, Standalone system.core handle →
    validateIdentifier (system.core.port handle).id = true
  distinct : ∀ handle < system.core.next, ∀ other < system.core.next,
    Standalone system.core handle → Standalone system.core other →
      (system.core.port handle).id = (system.core.port other).id → handle = other
  names : ∀ sub < system.core.next, ∀ server, system.core.Sub server sub →
    IsSub (system.core.port server).id (system.core.port sub).id

theorem Identified.server_eq (h : system.Identified) {sub server other : Nat}
    (hsub : sub < system.core.next) (hkin : system.core.Sub server sub)
    (ho : other < system.core.next) (hp : Standalone system.core other)
    (hname : IsSub (system.core.port other).id (system.core.port sub).id) :
    server = other := by
  obtain ⟨hsrv, hmode, -⟩ := h.placed.parents sub hsub server hkin
  have hparent := standalone_of_kind hmode
  obtain ⟨peer, hpeer⟩ := h.names sub hsub server hkin
  obtain ⟨client, hclient⟩ := hname
  have hid := subName_injective (h.valid server hsrv hparent) (h.valid other ho hp)
    (hpeer.symm.trans hclient)
  exact h.distinct server hsrv other ho hparent hp hid.1

theorem identified_new (instanceID : UInt64) : (new instanceID).Identified where
  placed := placed_new instanceID
  valid := by
    intro handle hlt
    exact absurd hlt (Nat.not_lt_zero handle)
  distinct := by
    intro handle hlt
    exact absurd hlt (Nat.not_lt_zero handle)
  names := by
    intro sub hlt
    exact absurd hlt (Nat.not_lt_zero sub)

theorem standalone_exec (htyped : system.Typed) {env : Env} {ok : Bool} {task : Task}
    {handle : Nat} (hlt : handle < (system.core.exec env ok task).1.next)
    (hp : Standalone (system.core.exec env ok task).1 handle) :
    (handle < system.core.next ∧ Standalone system.core handle) ∨
      (handle = system.core.next ∧ ∃ req, task = .build req ∧
        ((system.core.exec env ok task).1.port handle).id = req.identifier) := by
  have hkeeps := htyped.keeps env ok task
  by_cases hold : handle < system.core.next
  · exact .inl ⟨hold, fun server hsub => hp server ((hkeeps.sub hold).mpr hsub)⟩
  cases Core.fresh_exec system.core env ok task with
  | none hs => omega
  | built htask _ htransport hnext ha _ =>
    have hnew : handle = system.core.next := by omega
    subst hnew
    refine .inr ⟨rfl, _, htask, ?_⟩
    rw [ha]
    exact (Core.transportFor_spec htransport).1
  | sub _ _ _ _ hnext ha _ _ =>
    have hnew : handle = system.core.next := by omega
    subst hnew
    exact absurd ⟨_, congrArg Transport.kind ha⟩ (hp _)

theorem Identified.exec (h : system.Identified) {env : Env} {ok : Bool} {task : Task}
    {others : List Task} (ht : system.Takes task others)
    (hfresh : ∀ req, task = .build req → ∀ handle < system.core.next,
      (system.core.port handle).id ≠ req.identifier) :
    (exec env ok system.core others task).Identified := by
  have hkeeps := h.placed.typed.keeps env ok task
  refine ⟨h.placed.exec ht, ?_, ?_, ?_⟩
  · intro handle hlt hp
    rcases standalone_exec h.placed.typed hlt hp with ⟨hold, hb⟩ | ⟨-, req, rfl, hid⟩
    · dsimp only [System.exec]
      rw [hkeeps.id handle hold]
      exact h.valid handle hold hb
    · dsimp only [System.exec]
      rw [hid]
      exact h.placed.typed.taken ht
  · intro handle hlt other ho hp hp' hid
    dsimp only [System.exec] at hid
    rcases standalone_exec h.placed.typed hlt hp with
      ⟨hold, hb⟩ | ⟨hnew, req, htask, hname⟩
    · rcases standalone_exec h.placed.typed ho hp' with
        ⟨hold', hb'⟩ | ⟨-, req, htask, hname⟩
      · rw [hkeeps.id handle hold, hkeeps.id other hold'] at hid
        exact h.distinct handle hold other hold' hb hb' hid
      · rw [hkeeps.id handle hold, hname] at hid
        exact absurd hid (hfresh req htask handle hold)
    · rcases standalone_exec h.placed.typed ho hp' with
        ⟨hold', hb'⟩ | ⟨hnew', -⟩
      · rw [hkeeps.id other hold', hname] at hid
        exact absurd hid.symm (hfresh req htask other hold')
      · exact hnew.trans hnew'.symm
  · intro sub hlt server hsub
    dsimp only [System.exec]
    rcases sub_exec h.placed.typed hlt hsub with
      ⟨hold, hb⟩ | ⟨rfl, peer, rfl, hsrv, hmode, hopen, hfree⟩
    · have hsrv := (h.placed.parents sub hold server hb).1
      rw [hkeeps.id sub hold, hkeeps.id server hsrv]
      exact h.names sub hold server hb
    · rw [hkeeps.id server hsrv, Core.exec_connect_sub env ok hmode hopen hfree,
        Core.port_write_alloc_self]
      exact Core.isSub_subName _ _

theorem Identified.traffic (h : system.Identified) {sw : Switch} {shut : Ptr → Prop}
    (hstand : Switch.Standing shut system.core.sw sw) :
    Identified ⟨{ system.core with sw := sw }, system.tasks⟩ where
  placed := h.placed.traffic hstand
  valid := h.valid
  distinct := h.distinct
  names := h.names

end System

end GvSwitch.Manager
