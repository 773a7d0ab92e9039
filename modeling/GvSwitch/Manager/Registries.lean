import GvSwitch.Foundation.Custody
import GvSwitch.Manager.Gateways
import GvSwitch.Manager.Rewriting

/-!
# The registries agree

A port that is registered in the switch is in the custody of one record or of
one call: of `CreatePort` or `CreateGateway` until the record is stored, then
of the record, and of the call that deleted the record until `RemovePort`.  So
no overlap of calls separates a record from its port.  Multiplex servers
register subports of their own and are left out.
-/

namespace GvSwitch.Manager

open Foundation SwitchCore Ports Manager.Core Switch GoMap

/-! ## Claims -/

/-- The registration that a pending task answers for. -/
def Task.claim : Task → Option (String × Option Nat)
  | .store req handle => some (req.identifier, some handle)
  | .remove id => some (id, none)
  | _ => none

def GatewayTask.claim : GatewayTask → Option (String × Option Nat)
  | .store req handle => some (gatewayPortID req.vlan, some handle)
  | _ => none

def PortRecord.claim (entry : String × PortRecord) : String × Option Nat :=
  (entry.1, some entry.2.port)

def GatewayRecord.claim (entry : Int × GatewayRecord) : String × Option Nat :=
  (gatewayPortID entry.1, some entry.2.gw)

def System.claims (system : System) : List (String × Option Nat) :=
  system.tasks.filterMap Task.claim ++ system.core.ports.entries.map PortRecord.claim

def Estate.gatewayClaims (estate : Estate) : List (String × Option Nat) :=
  estate.calls.filterMap GatewayTask.claim ++
    estate.gateways.entries.map GatewayRecord.claim

def Estate.claims (estate : Estate) : List (String × Option Nat) :=
  estate.system.claims ++ estate.gatewayClaims

/-! ## Ports that register nothing themselves -/

/-- Neither a multiplex server nor a subport of one. -/
def single : Kind → Bool
  | .streamServer .multiplex => false
  | .subPort _ _ => false
  | _ => true

variable {req : PortRequest}

variable {id : String}

namespace System

structure Plain (system : System) : Prop where
  kinds : ∀ handle, single (system.core.port handle).kind = true
  builds : ∀ req, .build req ∈ system.tasks → req.endpoint ≠ .streamServer .multiplex
  enrols : ∀ server sub attrs, .enrol server sub attrs ∉ system.tasks

variable {system : System} {env : Env} {ok : Bool} {task : Task} {others : List Task}

variable {handle : Nat}

theorem Plain.not_sub (h : system.Plain) {server : Nat} {anonID : Option Nat} :
    (system.core.port handle).kind ≠ .subPort server anonID := by
  intro hk
  have hsing := h.kinds handle
  rw [hk] at hsing
  cases hsing

theorem Plain.not_multiplex (h : system.Plain) :
    (system.core.port handle).kind ≠ .streamServer .multiplex := by
  intro hk
  have hsing := h.kinds handle
  rw [hk] at hsing
  cases hsing

theorem Plain.kinds_exec (h : system.Plain) (ht : system.Takes task others)
    (handle : Nat) : single ((system.core.exec env ok task).1.port handle).kind = true := by
  have hs (hold : handle ≠ system.core.next ∨
      (system.core.exec env ok task).1.next = system.core.next) :
      single ((system.core.exec env ok task).1.port handle).kind = true := by
    rw [(rewritten_exec system.core env ok task hold).kind]
    exact h.kinds handle
  have hfresh := fresh_exec system.core env ok task
  cases hfresh with
  | none hnext => exact hs (.inr hnext)
  | @built req attrs transport htask hattrs htransport hnext hp htasks =>
    by_cases hhandle : handle = system.core.next
    · rw [hhandle, hp]
      have hpend : .build req ∈ system.tasks := by
        rw [← htask]
        exact ht.pending (by rw [htask]; rfl)
      unfold transportFor at htransport
      split at htransport
      · cases htransport
        rfl
      · rename_i mode hendpoint
        cases htransport
        cases mode with
        | multiplex => exact absurd hendpoint (h.builds req hpend)
        | replace | occupy => rfl
      all_goals cases htransport
      all_goals rfl
    · exact hs (.inl hhandle)
  | sub _ hk => exact absurd hk h.not_multiplex

theorem Plain.exec (h : system.Plain) (ht : system.Takes task others)
    (hc : ∀ req, task = .createPort req → req.endpoint ≠ .streamServer .multiplex) :
    (exec env ok system.core others task).Plain where
  kinds := h.kinds_exec ht
  builds := by
    intro req hm
    rcases List.mem_append.mp hm with hold | hnew
    · exact h.builds req (ht.mem hold)
    have hspawn := spawned_exec hnew
    cases hspawn with
    | build _ _ => exact hc req rfl
  enrols := by
    intro server sub attrs hm
    rcases List.mem_append.mp hm with hold | hnew
    · exact h.enrols server sub attrs (ht.mem hold)
    have hfresh := fresh_exec system.core env ok task
    have hspawn := spawned_exec hnew
    cases hspawn with
    | enrol hnext =>
      cases hfresh with
      | none hs => omega
      | built htask => cases htask
      | sub _ hk => exact absurd hk h.not_multiplex

/-! ## Custody over a section of a port's task -/

theorem claims_exec :
    (exec env ok system.core others task).claims =
      others.filterMap Task.claim ++
        ((system.core.exec env ok task).2.filterMap Task.claim ++
          (system.core.exec env ok task).1.ports.entries.map PortRecord.claim) := by
  simp only [claims, System.exec, List.filterMap_append, List.append_assoc]

theorem Takes.claims (ht : system.Takes task others) (hclaim : task.claim = none) :
    (others.filterMap Task.claim).Perm (system.tasks.filterMap Task.claim) := by
  rcases ht with hperm | ⟨-, rfl⟩
  · have hmap := hperm.filterMap Task.claim
    rwa [List.filterMap_cons_none hclaim] at hmap
  · exact .refl _

variable {claim : String × Option Nat}

theorem Takes.claims_cons (ht : system.Takes task others) (hclaim : task.claim = some claim) :
    (system.tasks.filterMap Task.claim).Perm (claim :: others.filterMap Task.claim) := by
  rcases ht with hperm | ⟨hext, -⟩
  · have hmap := hperm.filterMap Task.claim
    rw [List.filterMap_cons_some hclaim] at hmap
    exact hmap.symm
  cases task with
  | store req handle | remove id => cases hext
  | _ => cases hclaim

/-- The sections that register a port, take one out, or touch a record. -/
def moves : Task → Bool
  | .register _ _ | .store _ _ | .delete _ _ | .remove _ | .enrol _ _ _ => true
  | _ => false

theorem transfer_still (h : system.Plain) (ht : system.Takes task others)
    (hstill : moves task = false) :
    Transfer system.core.sw.handleOf system.claims
      (system.core.exec env ok task).1.sw.handleOf
      (exec env ok system.core others task).claims := by
  have heff := effect_exec system.core env ok task
  have hnone : task.claim = none := by
    cases task with
    | store req handle | remove id => cases hstill
    | _ => rfl
  have hports : (system.core.exec env ok task).1.ports = system.core.ports := by
    have hports := heff.ports
    cases hports with
    | same hs => exact hs
    | stores htask | deletes htask =>
      rw [htask] at hstill
      cases hstill
  have hspawn : (system.core.exec env ok task).2.filterMap Task.claim = [] := by
    refine List.filterMap_eq_nil_iff.mpr fun next hnext => ?_
    have hspawn := spawned_exec hnext
    cases hspawn with
    | store | remove _ => cases hstill
    | removeSub hk => exact absurd hk h.not_sub
    | _ => rfl
  refine .passes (funext fun id => ?_) ?_
  · have hswitch := heff.sw
    cases hswitch with
    | standing hstand => exact hstand.handleOf id
    | registers htask | enrols htask | removes htask =>
      rw [htask] at hstill
      cases hstill
    | writes _ hupd | copies _ hupd => exact handleOf_updatePortAttrs hupd id
  · rw [claims_exec, hports, hspawn, List.nil_append]
    exact (ht.claims hnone).append_right _

theorem transfer_register (halloc : system.core.sw.Allocated)
    (ht : system.Takes (.register req handle) others) :
    Transfer system.core.sw.handleOf system.claims
      (system.core.exec env ok (.register req handle)).1.sw.handleOf
      (exec env ok system.core others (.register req handle)).claims := by
  have hothers := ht.claims rfl
  rw [claims_exec]
  simp only [Core.exec, Core.register]
  split
  · exact .passes rfl (hothers.append_right _)
  split
  · exact .passes rfl (hothers.append_right _)
  rename_i sw hadd
  have ha := update_addPort halloc hadd
  exact .acquires (handleOf_none_of_addPort hadd) ha
    (List.perm_middle.trans ((hothers.append_right _).cons _))

theorem record_none_of_claim {rest : List (String × Option Nat)}
    (hnodup : (system.claims.map Prod.fst).Nodup)
    (hclaims : (system.tasks.filterMap Task.claim).Perm (claim :: rest)) :
    system.core.ports.get? claim.1 = none := by
  cases hr : system.core.ports.get? claim.1 with
  | none => rfl
  | some record =>
    rw [claims, List.map_append] at hnodup
    have htask : claim.1 ∈ (system.tasks.filterMap Task.claim).map Prod.fst :=
      List.mem_map_of_mem (hclaims.mem_iff.mpr (.head _))
    have he : claim.1 ∈ (system.core.ports.entries.map PortRecord.claim).map Prod.fst := by
      have hm := (GoMap.get?_eq_some_iff _ _ _).mp hr
      exact List.mem_map.mpr ⟨_, List.mem_map_of_mem hm, rfl⟩
    exact absurd rfl ((List.nodup_append.mp hnodup).2.2 _ htask _ he)

theorem transfer_store (hnodup : (system.claims.map Prod.fst).Nodup)
    (ht : system.Takes (.store req handle) others) :
    Transfer system.core.sw.handleOf system.claims
      (system.core.exec env ok (.store req handle)).1.sw.handleOf
      (exec env ok system.core others (.store req handle)).claims := by
  have hclaims := ht.claims_cons rfl
  have hfree := record_none_of_claim hnodup hclaims
  refine .passes rfl ?_
  rw [claims_exec]
  simp only [Core.exec, GoMap.entries_set_of_get?_none hfree]
  exact List.perm_middle.trans (hclaims.symm.append_right _)

theorem transfer_remove (ht : system.Takes (.remove id) others)
    (hreg : (system.core.sw.handleOf id).isSome = true) :
    Transfer system.core.sw.handleOf system.claims
      (system.core.exec env ok (.remove id)).1.sw.handleOf
      (exec env ok system.core others (.remove id)).claims := by
  have hclaims := ht.claims_cons rfl
  rw [claims_exec]
  simp only [Core.exec, Core.remove]
  split
  · rename_i hnone
    simp [handleOf, hnone] at hreg
  · refine .releases (hclaims.append_right _) ?_ (.refl _)
    funext other
    rw [handleOf_unregister, Function.update_apply]

theorem transfer_exec (h : system.Plain) (halloc : system.core.sw.Allocated)
    {frame : List (String × Option Nat)}
    (hcustody : Custody system.core.sw.handleOf (system.claims ++ frame))
    (ht : system.Takes task others) :
    Transfer system.core.sw.handleOf system.claims
      (system.core.exec env ok task).1.sw.handleOf
      (exec env ok system.core others task).claims := by
  cases task with
  | register req handle => exact transfer_register halloc ht
  | store req handle =>
    have hnodup := hcustody.nodup
    rw [List.map_append] at hnodup
    exact transfer_store (List.nodup_append.mp hnodup).1 ht
  | delete id cause =>
    have hothers := ht.claims rfl
    rw [claims_exec]
    simp only [Core.exec, Core.delete]
    split
    · exact .passes rfl (hothers.append_right _)
    rename_i record hr
    have hentries := (entries_perm_erase hr).map PortRecord.claim
    refine .waives rfl ((hothers.symm.append hentries).trans List.perm_middle) ?_
    exact List.perm_middle
  | remove id =>
    refine transfer_remove ht ((hcustody.registered id).mpr ?_)
    have hclaim := (ht.claims_cons rfl).mem_iff.mpr (.head _)
    exact List.mem_map_of_mem (List.mem_append_left _ (List.mem_append_left _ hclaim))
  | enrol server sub attrs =>
    exact absurd (ht.pending rfl) (h.enrols server sub attrs)
  | _ => exact transfer_still h ht rfl

end System

namespace Estate

/-! ## Custody over a section of a gateway call -/

variable {estate : Estate} {env : Env} {ok : Bool} {task : GatewayTask}
  {others : List GatewayTask}

variable {next : GatewayTask} {req : GatewayRequest} {handle : Nat} {vlan : Int}
variable {core : Core}

theorem claims_follow (hclaim : next.claim = some claim) :
    (estate.follow next).claims.Perm (claim :: estate.claims) := by
  simp only [claims, gatewayClaims, follow, List.filterMap_append,
    List.filterMap_cons_some hclaim, List.filterMap_nil, List.append_assoc,
    List.singleton_append]
  rw [← List.append_assoc, ← List.append_assoc]
  exact List.perm_middle

theorem claims_follow_none (hclaim : next.claim = none) :
    (estate.follow next).claims = estate.claims := by
  simp only [claims, gatewayClaims, follow, List.filterMap_append,
    List.filterMap_cons_none hclaim, List.filterMap_nil, List.append_nil]

theorem claims_removePort (id : String) :
    (estate.removePort id).claims.Perm ((id, none) :: estate.claims) := by
  have hsystem : (estate.removePort id).system.claims.Perm
      ((id, none) :: estate.system.claims) := by
    simp only [System.claims, removePort, List.filterMap_append, List.append_assoc]
    exact List.perm_middle
  exact hsystem.append_right _

theorem claims_set (hfree : estate.gateways.get? req.vlan = none) :
    Estate.claims { estate with gateways := estate.gateways.set req.vlan ⟨req, handle⟩ }
      |>.Perm ((gatewayPortID req.vlan, some handle) :: estate.claims) := by
  simp only [claims, gatewayClaims, entries_set_of_get?_none hfree]
  rw [← List.append_assoc, ← List.append_assoc]
  exact List.perm_middle

theorem claims_erase {record : GatewayRecord} (hr : estate.gateways.get? vlan = some record) :
    estate.claims.Perm ((gatewayPortID vlan, some record.gw) ::
      Estate.claims { estate with gateways := estate.gateways.erase vlan }) := by
  have hentries := (entries_perm_erase hr).map GatewayRecord.claim
  simp only [claims, gatewayClaims]
  rw [← List.append_assoc, ← List.append_assoc]
  exact (hentries.append_left _).trans List.perm_middle

theorem Takes.claims (ht : estate.Takes task others) (hclaim : task.claim = none) :
    (Estate.claims { estate with calls := others }).Perm estate.claims := by
  rcases ht with hperm | ⟨-, rfl⟩
  · have hmap := hperm.filterMap GatewayTask.claim
    rw [List.filterMap_cons_none hclaim] at hmap
    exact (hmap.append_right _).append_left _
  · exact .refl _

theorem Takes.claims_cons (ht : estate.Takes task others)
    (hinternal : task.external = false) (hclaim : task.claim = some claim) :
    estate.claims.Perm (claim :: Estate.claims { estate with calls := others }) := by
  have hmap := (ht.pending hinternal).filterMap GatewayTask.claim
  rw [List.filterMap_cons_some hclaim] at hmap
  exact ((hmap.symm.append_right _).append_left _).trans List.perm_middle

theorem transfer_register (halloc : estate.core.sw.Allocated)
    (hid : (estate.core.port handle).id = gatewayPortID req.vlan)
    (ht : estate.Takes (.register req handle) others) :
    Transfer estate.core.sw.handleOf estate.claims
      ({ estate with calls := others }.register req handle).core.sw.handleOf
      ({ estate with calls := others }.register req handle).claims := by
  have hothers := ht.claims rfl
  unfold register
  split
  · refine .passes rfl ?_
    rw [claims_follow_none rfl]
    exact hothers
  rename_i sw hadd
  have ha : sw.handleOf = Function.update estate.core.sw.handleOf
      (estate.core.port handle).id (some handle) := update_addPort halloc hadd
  rw [hid] at ha
  have hfree : estate.core.sw.handleOf (gatewayPortID req.vlan) = none := by
    rw [← hid]
    exact handleOf_none_of_addPort hadd
  exact .acquires hfree ha ((claims_follow rfl).trans (hothers.cons _))

theorem transfer_store (ht : estate.Takes (.store req handle) others) :
    Transfer estate.core.sw.handleOf estate.claims
      ({ estate with calls := others }.store req handle).core.sw.handleOf
      ({ estate with calls := others }.store req handle).claims := by
  have hclaims := ht.claims_cons rfl rfl
  unfold store
  split
  · exact .waives rfl hclaims (claims_removePort _)
  · rename_i hfree
    exact .passes rfl ((claims_set hfree).trans hclaims.symm)

theorem transfer_deleteGateway
    (hid : ∀ record, estate.gateways.get? vlan = some record →
      (estate.core.port record.gw).id = gatewayPortID vlan)
    (ht : estate.Takes (.deleteGateway vlan) others) :
    Transfer estate.core.sw.handleOf estate.claims
      ({ estate with calls := others }.deleteGateway vlan).core.sw.handleOf
      ({ estate with calls := others }.deleteGateway vlan).claims := by
  have hothers := ht.claims rfl
  unfold deleteGateway
  split
  · exact .passes rfl hothers
  rename_i record hr
  have hclaims := hothers.symm.trans (claims_erase hr)
  refine .waives rfl hclaims ?_
  rw [← hid record hr]
  exact claims_removePort _

/-! ## The invariant -/

def built : GatewayTask → Option (GatewayRequest × Nat)
  | .register req handle | .store req handle => some (req, handle)
  | _ => none

def Serves (core : Core) (vlan : Int) (handle : Nat) : Prop :=
  handle < core.next ∧ (core.port handle).id = gatewayPortID vlan

structure Staffed (estate : Estate) : Prop where
  allocated : estate.core.sw.Allocated
  plain : estate.system.Plain
  records : ∀ vlan record, estate.gateways.get? vlan = some record →
    Serves estate.core vlan record.gw
  calls : ∀ task ∈ estate.calls, ∀ req handle, built task = some (req, handle) →
    Serves estate.core req.vlan handle

structure Agreed (estate : Estate) : Prop extends Staffed estate where
  custody : Custody estate.core.sw.handleOf estate.claims

theorem agreed_new (instanceID : UInt64) : (new instanceID).Agreed where
  allocated := by
    intro id ptr hp
    cases hp
  plain := ⟨fun _ => rfl, fun _ h => absurd h List.not_mem_nil,
    fun _ _ _ => List.not_mem_nil⟩
  custody := .empty
  records := by
    intro vlan record hr
    cases hr
  calls := fun _ h => absurd h List.not_mem_nil

theorem Agreed.system (h : estate.Agreed) {after : System}
    (hallocated : after.core.sw.Allocated) (hplain : after.Plain)
    (hcustody : Custody after.core.sw.handleOf (after.claims ++ estate.gatewayClaims))
    (hserves : ∀ vlan handle, Serves estate.core vlan handle →
      Serves after.core vlan handle) :
    Agreed { estate with system := after } where
  allocated := hallocated
  plain := hplain
  custody := hcustody
  records := fun vlan record hr => hserves _ _ (h.records vlan record hr)
  calls := fun task hm req handle hbuilt => hserves _ _ (h.calls task hm req handle hbuilt)

def SingleMode (estate : Estate) (label : Env × EstateLabel) : Prop :=
  ∀ inner req, label.2 = .port inner →
    inner.task estate.system = some (.createPort req) →
      req.endpoint ≠ .streamServer .multiplex

theorem Agreed.port (h : estate.Agreed) (env : Env) {label : Label}
    (hmode : ∀ req, label.task estate.system = some (.createPort req) →
      req.endpoint ≠ .streamServer .multiplex) :
    Agreed { estate with system := estate.system.step env label } := by
  refine System.step_keeps (motive := fun after => Agreed { estate with system := after })
    h ?_ ?_
  · intro sw shut hstand
    refine h.system (hstand.allocated h.allocated)
      ⟨h.plain.kinds, h.plain.builds, h.plain.enrols⟩ ?_ fun _ _ hserves => hserves
    rw [show handleOf _ = _ from funext hstand.handleOf]
    exact h.custody
  · intro task others ok htask ht
    have hevolves := evolves_exec h.allocated env ok task
    refine h.system ?_ (h.plain.exec ht ?_) ?_ ?_
    · exact (effect_exec estate.system.core env ok task).sw.allocated h.allocated
    · intro req hreq
      exact hmode req (htask.trans (congrArg some hreq))
    · exact h.custody.transfer
        ((System.transfer_exec h.plain h.allocated h.custody ht).frame _)
    intro vlan handle hserves
    exact ⟨Nat.lt_of_lt_of_le hserves.1 hevolves.next,
      (hevolves.id handle hserves.1).trans hserves.2⟩

/-! ## Sections of gateway calls -/

theorem Staffed.withCore (h : estate.Staffed) (hallocated : core.sw.Allocated)
    (hkinds : ∀ handle, single (core.port handle).kind = true)
    (hserves : ∀ vlan handle, Serves estate.core vlan handle → Serves core vlan handle) :
    (estate.withCore core).Staffed where
  allocated := hallocated
  plain := ⟨hkinds, h.plain.builds, h.plain.enrols⟩
  records := fun vlan record hr => hserves _ _ (h.records vlan record hr)
  calls := fun task hm req handle hbuilt =>
    hserves _ _ (h.calls task hm req handle hbuilt)

theorem Staffed.follow (h : estate.Staffed)
    (hnext : ∀ req handle, built next = some (req, handle) →
      Serves estate.core req.vlan handle) : (estate.follow next).Staffed where
  allocated := h.allocated
  plain := h.plain
  records := h.records
  calls := by
    intro task hm
    rcases List.mem_append.mp hm with hold | hnew
    · exact h.calls task hold
    · rw [List.mem_singleton.mp hnew]
      exact hnext

theorem Staffed.follow_none (h : estate.Staffed) (hnone : built next = none) :
    (estate.follow next).Staffed := by
  refine h.follow fun req handle hbuilt => ?_
  simp [hnone] at hbuilt

theorem Staffed.removePort (h : estate.Staffed) (id : String) :
    (estate.removePort id).Staffed where
  allocated := h.allocated
  plain := by
    refine ⟨h.plain.kinds, fun req hm => ?_, fun server sub attrs hm => ?_⟩
    · exact h.plain.builds req (by simpa [Estate.removePort] using hm)
    · exact h.plain.enrols server sub attrs (by simpa [Estate.removePort] using hm)
  records := h.records
  calls := h.calls

theorem serves_alloc (h : Serves core vlan handle) (transport : Transport) :
    Serves (core.alloc transport) vlan handle := by
  refine ⟨Nat.lt_succ_of_lt h.1, ?_⟩
  rw [port_alloc_of_ne core transport (Nat.ne_of_lt h.1)]
  exact h.2

theorem fades_close (core : Core) (target : Nat) (order : List String → List String)
    (handle : Nat) : (core.port handle).Fades (fun _ => False)
      ((core.write target ((core.port target).close target order).1).port handle) :=
  fades_write (Transport.fades_close _ _ _) handle

theorem serves_close (h : Serves core vlan handle) (target : Nat)
    (order : List String → List String) :
    Serves (core.write target ((core.port target).close target order).1) vlan handle := by
  refine ⟨h.1, ?_⟩
  rw [(fades_close core target order handle).id]
  exact h.2

theorem single_alloc (h : ∀ handle, single (core.port handle).kind = true)
    {transport : Transport} (hnew : single transport.kind = true) (handle : Nat) :
    single ((core.alloc transport).port handle).kind = true := by
  by_cases hhandle : handle = core.next
  · rw [hhandle, port_alloc_self]
    exact hnew
  · rw [port_alloc_of_ne core transport hhandle]
    exact h handle

theorem single_close (h : ∀ handle, single (core.port handle).kind = true) (target : Nat)
    (order : List String → List String) (handle : Nat) :
    single ((core.write target ((core.port target).close target order).1).port
      handle).kind = true := by
  rw [(fades_close core target order handle).kind]
  exact h handle

theorem Agreed.transfer (h : estate.Agreed) (ht : estate.Takes task others) :
    Transfer estate.core.sw.handleOf estate.claims
      ({ estate with calls := others }.exec env ok task).core.sw.handleOf
      ({ estate with calls := others }.exec env ok task).claims := by
  cases task with
  | createGateway req =>
    have hothers := ht.claims rfl
    simp only [exec, createGateway]
    split
    · refine .passes rfl ?_
      rw [claims_follow_none rfl]
      exact hothers
    · exact .passes rfl hothers
  | build req =>
    have hothers := ht.claims rfl
    simp only [exec, build]
    split
    · exact .passes rfl hothers
    split
    · refine .passes rfl ?_
      rw [claims_follow_none rfl]
      exact hothers
    · exact .passes rfl hothers
  | register req handle =>
    have hm := (ht.pending rfl).mem_iff.mp (.head _)
    exact transfer_register h.allocated (h.calls _ hm req handle rfl).2 ht
  | discard handle => exact .passes rfl (ht.claims rfl)
  | store req handle => exact transfer_store ht
  | deleteGateway vlan =>
    exact transfer_deleteGateway (fun record hr => (h.records vlan record hr).2) ht

theorem Staffed.exec (h : estate.Staffed) (ht : estate.Takes task others) :
    ({ estate with calls := others }.exec env ok task).Staffed := by
  have hbase : Staffed { estate with calls := others } :=
    ⟨h.allocated, h.plain, h.records, fun task hm => h.calls task (ht.mem hm)⟩
  cases task with
  | createGateway req =>
    simp only [Estate.exec, createGateway]
    split
    · exact hbase.follow_none rfl
    · exact hbase
  | build req =>
    simp only [Estate.exec, build]
    split
    · exact hbase
    split
    · have hcore : Staffed (Estate.withCore { estate with calls := others }
          (estate.core.alloc (gatewayPort req))) :=
        hbase.withCore h.allocated (fun handle => single_alloc h.plain.kinds rfl handle)
          fun _ _ hserves => serves_alloc hserves _
      refine hcore.follow ?_
      rintro _ _ ⟨⟩
      exact ⟨Nat.lt_succ_self _,
        congrArg Transport.id (port_alloc_self estate.core (gatewayPort req))⟩
    · exact hbase
  | register req handle =>
    have hm := (ht.pending rfl).mem_iff.mp (.head _)
    simp only [Estate.exec, register]
    split
    · exact hbase.follow_none rfl
    rename_i sw hadd
    have hcore : Staffed (Estate.withCore { estate with calls := others }
        { estate.core with sw := sw }) :=
      hbase.withCore (h.allocated.addPort hadd) h.plain.kinds fun _ _ hserves => hserves
    refine hcore.follow ?_
    rintro _ _ ⟨⟩
    exact h.calls _ hm req handle rfl
  | discard handle =>
    exact hbase.withCore h.allocated (single_close h.plain.kinds _ _)
      fun _ _ hserves => serves_close hserves _ _
  | store req handle =>
    have hm := (ht.pending rfl).mem_iff.mp (.head _)
    simp only [Estate.exec, store]
    split
    · exact hbase.removePort _
    refine ⟨h.allocated, h.plain, fun vlan record hr => ?_, hbase.calls⟩
    dsimp only at hr
    rw [get?_set] at hr
    split at hr
    · rename_i hv
      cases hr
      rw [hv]
      exact h.calls _ hm req handle rfl
    · exact h.records vlan record hr
  | deleteGateway vlan =>
    simp only [Estate.exec, deleteGateway]
    split
    · exact hbase
    have herased : Staffed
        { estate with gateways := estate.gateways.erase vlan, calls := others } := by
      refine ⟨h.allocated, h.plain, fun other record hr => ?_, hbase.calls⟩
      dsimp only at hr
      rw [get?_erase] at hr
      split at hr
      · cases hr
      · exact h.records other record hr
    exact herased.removePort _

theorem Agreed.step (h : estate.Agreed) {label : Env × EstateLabel} {after : Estate}
    (hmode : estate.SingleMode label) (hstep : Step estate label after) : after.Agreed := by
  subst hstep
  rcases step_cases label.1 estate label.2 with
    hs | ⟨inner, hlabel, hstep⟩ | ⟨task, others, ok, ht, hstep⟩
  · rw [hs]
    exact h
  · rw [hstep]
    exact h.port label.1 fun req htask => hmode inner req hlabel htask
  · rw [hstep]
    exact ⟨h.toStaffed.exec ht, h.custody.transfer (h.transfer ht)⟩

theorem agreed_of_reachable (h : Reachable Initial (Guarded SingleMode Step) estate) :
    estate.Agreed := by
  refine h.induct ?_ ?_
  · rintro _ ⟨instanceID, rfl⟩
    exact agreed_new instanceID
  · intro estate label after _ hagreed hstep
    exact hagreed.step hstep.1 hstep.2

/-! ## Agreement -/

/-- No call is between registering a port and storing its record, or between
deleting a record and taking the port out. -/
def Settled (estate : Estate) : Prop :=
  (∀ req handle, .store req handle ∉ estate.system.tasks) ∧
    (∀ id, .remove id ∉ estate.system.tasks) ∧
    ∀ req handle, .store req handle ∉ estate.calls

theorem Settled.claims (h : estate.Settled) :
    estate.claims = estate.core.ports.entries.map PortRecord.claim ++
      estate.gateways.entries.map GatewayRecord.claim := by
  have htasks : estate.system.tasks.filterMap Task.claim = [] := by
    refine List.filterMap_eq_nil_iff.mpr fun task hm => ?_
    cases task with
    | store req handle => exact absurd hm (h.1 req handle)
    | remove id => exact absurd hm (h.2.1 id)
    | _ => rfl
  have hcalls : estate.calls.filterMap GatewayTask.claim = [] := by
    refine List.filterMap_eq_nil_iff.mpr fun task hm => ?_
    cases task with
    | store req handle => exact absurd hm (h.2.2 req handle)
    | _ => rfl
  simp only [Estate.claims, gatewayClaims, System.claims, htasks, hcalls, List.nil_append]
  rfl

theorem port_claimed :
    id ∈ (estate.core.ports.entries.map PortRecord.claim).map Prod.fst ↔
      ∃ record, estate.core.ports.get? id = some record := by
  rw [← GoMap.mem_keys_iff, GoMap.keys, List.map_map]
  rfl

theorem gateway_claimed :
    id ∈ (estate.gateways.entries.map GatewayRecord.claim).map Prod.fst ↔
      ∃ vlan record, estate.gateways.get? vlan = some record ∧ gatewayPortID vlan = id := by
  simp only [List.map_map, List.mem_map, Prod.exists, get?_eq_some_iff]
  rfl

theorem registries_agree (h : Reachable Initial (Guarded SingleMode Step) estate) :
    (∀ id record, estate.core.ports.get? id = some record →
      estate.core.sw.handleOf id = some record.port) ∧
    (∀ vlan record, estate.gateways.get? vlan = some record →
      (estate.core.port record.gw).id = gatewayPortID vlan ∧
        estate.core.sw.handleOf (gatewayPortID vlan) = some record.gw) ∧
    (estate.Settled → ∀ id, (∃ ptr, estate.core.sw.ports.get? id = some ptr) ↔
      (∃ record, estate.core.ports.get? id = some record) ∨
        ∃ vlan record, estate.gateways.get? vlan = some record ∧ gatewayPortID vlan = id) := by
  have hagreed := agreed_of_reachable h
  refine ⟨fun id record hr => ?_, fun vlan record hr => ⟨?_, ?_⟩, ?_⟩
  · have he := (get?_eq_some_iff _ _ _).mp hr
    exact hagreed.custody.object id record.port (List.mem_append_left _
      (List.mem_append_right _ (List.mem_map_of_mem he)))
  · exact (hagreed.records vlan record hr).2
  · have he := (get?_eq_some_iff _ _ _).mp hr
    exact hagreed.custody.object _ record.gw (List.mem_append_right _
      (List.mem_append_right _ (List.mem_map_of_mem he)))
  · intro hsettled id
    have hreg := hagreed.custody.registered id
    rw [hsettled.claims, List.map_append, List.mem_append] at hreg
    rw [← port_claimed, ← gateway_claimed, ← hreg, handleOf, Option.isSome_map,
      Option.isSome_iff_exists]

def singleMode (estate : Estate) : EstateLabel → Bool
  | .port inner =>
    match inner.task estate.system with
    | some (.createPort req) => req.endpoint ≠ .streamServer .multiplex
    | _ => true
  | _ => true

theorem singleMode_iff {label : Env × EstateLabel} :
    estate.singleMode label.2 = true ↔ estate.SingleMode label := by
  constructor
  · intro hcheck inner req hlabel htask
    simpa [singleMode, hlabel, htask] using hcheck
  intro hmode
  unfold singleMode
  split
  · rename_i inner hlabel
    split
    · rename_i req htask
      exact decide_eq_true (hmode inner req hlabel htask)
    · rfl
  · rfl

instance (label : Env × EstateLabel) : Decidable (estate.SingleMode label) :=
  decidable_of_iff _ singleMode_iff

/-- A user port takes the name of a gateway while the gateway is being built, and
the manager creates another gateway and deletes a port. -/
def overlap : List (Env × EstateLabel) :=
  [.port (.begin (.createPort { identifier := "gw-vlan5", endpoint := .client })),
    .begin (.createGateway { vlan := 5 }), .run 0 true,
    .port (.run 0 true), .port (.run 0 true), .run 0 true, .run 0 true,
    .begin (.createGateway { vlan := 6 }), .run 0 true, .run 0 true, .port (.run 0 true),
    .run 0 true].map (steadyEnv 0, ·)

theorem registries_agree_overlap :
    ∃ estate, Reachable Initial (Guarded SingleMode Step) estate ∧ estate.Settled ∧
      (estate.core.ports.get? "gw-vlan5").isSome = true ∧
      (estate.gateways.get? 6).isSome = true ∧
      ∀ id, (∃ ptr, estate.core.sw.ports.get? id = some ptr) ↔
        (∃ record, estate.core.ports.get? id = some record) ∨
          ∃ vlan record, estate.gateways.get? vlan = some record ∧
            gatewayPortID vlan = id := by
  have hrun : (replay (fun estate label => some (estate.step label.1 label.2)) SingleMode
      (new 1) overlap).map (fun estate => (estate.system.tasks.isEmpty, estate.calls.isEmpty,
        (estate.core.ports.get? "gw-vlan5").isSome, (estate.gateways.get? 6).isSome)) =
      some (true, true, true, true) := by decide
  obtain ⟨estate, hreplay, hfacts⟩ := Option.map_eq_some_iff.mp hrun
  simp only [Prod.mk.injEq, List.isEmpty_iff] at hfacts
  obtain ⟨htasks, hcalls, hp, hgateway⟩ := hfacts
  have hreach : Reachable Initial (Guarded SingleMode Step) estate := by
    refine (Reachable.replay (.start ⟨1, rfl⟩) hreplay).mono fun _ _ _ hstep => ?_
    exact ⟨hstep.1, Option.some.inj hstep.2⟩
  have hsettled : estate.Settled := by
    rw [Settled, htasks, hcalls]
    exact ⟨fun _ _ => List.not_mem_nil, fun _ => List.not_mem_nil,
      fun _ _ => List.not_mem_nil⟩
  exact ⟨estate, hreach, hsettled, hp, hgateway, (registries_agree hreach).2.2 hsettled⟩

end Estate

end GvSwitch.Manager
