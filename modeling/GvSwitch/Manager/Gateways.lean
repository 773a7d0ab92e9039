import GvSwitch.Manager.References

/-!
# The manager's gateways

A gateway is a switchport that the manager keeps in a map of its own, one per
VLAN.  Its calls overlap with everything the ports do, so the state here is a
system of ports together with the gateway map and the gateway calls, each
stopped before its next section under a lock.
-/

namespace GvSwitch.Manager

open Foundation SwitchCore Ports

/-! ## Requests -/

/-- What `net.ParseIP` and `To4` make of an address. -/
inductive AddressText where
  | malformed
  | ipv4
  | ipv6
  deriving DecidableEq, Repr

structure GatewayV4 where
  address : AddressText
  prefixLen : Int
  deriving DecidableEq, Repr

structure GatewayV6 where
  address : AddressText
  prefixLen : Int
  linkLocal : Option AddressText := none
  deriving DecidableEq, Repr

/-- `mac` tells whether the text, if there is one, parses.  The routing policy
only reaches the gateway's own network stack. -/
structure GatewayRequest where
  vlan : Int
  mac : Option Bool := none
  isolated : Bool := false
  ipv4 : Option GatewayV4 := none
  ipv6 : Option GatewayV6 := none
  deriving DecidableEq, Repr

inductive GatewayError where
  | badVlan (vlan : Int)
  | badMAC
  | badIPv4
  | badIPv4PrefixLen (length : Int)
  | badIPv6
  | badIPv6PrefixLen (length : Int)
  | badLinkLocal
  deriving DecidableEq, Repr

def GatewayV4.check (side : GatewayV4) : Except GatewayError Unit :=
  if side.address ≠ .ipv4 then .error .badIPv4
  else if side.prefixLen < 1 ∨ side.prefixLen > 30 then
    .error (.badIPv4PrefixLen side.prefixLen)
  else .ok ()

def GatewayV6.check (side : GatewayV6) : Except GatewayError Unit :=
  if side.address ≠ .ipv6 then .error .badIPv6
  else if side.prefixLen < 1 ∨ side.prefixLen > 126 then
    .error (.badIPv6PrefixLen side.prefixLen)
  else if side.linkLocal = some .malformed then .error .badLinkLocal
  else .ok ()

/-- `CreateGateway` checks the VLAN before it looks for a duplicate and the
rest of the configuration after it. -/
def GatewayRequest.checkVlan (req : GatewayRequest) : Except GatewayError Unit :=
  if req.vlan < 0 ∨ req.vlan > 4094 then .error (.badVlan req.vlan) else .ok ()

def GatewayRequest.check (req : GatewayRequest) : Except GatewayError Unit := do
  if req.mac = some false then .error .badMAC
  req.ipv4.forM GatewayV4.check
  req.ipv6.forM GatewayV6.check

def gatewayPortID (vlan : Int) : String := "gw-vlan" ++ toString vlan

structure GatewayRecord where
  req : GatewayRequest
  gw : Nat
  deriving DecidableEq, Repr

/-! ## Calls -/

inductive GatewayTask where
  /-- `CreateGateway`: check the VLAN and look for a duplicate. -/
  | createGateway (req : GatewayRequest)
  /-- `CreateGateway`: check the configuration and build the gateway. -/
  | build (req : GatewayRequest)
  /-- `CreateGateway`: `AddPort`. -/
  | register (req : GatewayRequest) (handle : Nat)
  /-- `CreateGateway`: `gw.Close()` after `AddPort` failed. -/
  | discard (handle : Nat)
  /-- `CreateGateway`: look for a duplicate again and store the record. -/
  | store (req : GatewayRequest) (handle : Nat)
  /-- `DeleteGateway`. -/
  | deleteGateway (vlan : Int)
  deriving DecidableEq, Repr

def GatewayTask.external : GatewayTask → Bool
  | .createGateway _ => true
  | .deleteGateway _ => true
  | _ => false

/-- `system` holds the ports and the calls about them; a `RemovePort` that a
gateway call makes is pending there. -/
structure Estate where
  system : System
  gateways : GoMap Int GatewayRecord
  calls : List GatewayTask

namespace Estate

def core (estate : Estate) : Core := estate.system.core

def withCore (estate : Estate) (core : Core) : Estate :=
  { estate with system := ⟨core, estate.system.tasks⟩ }

def follow (estate : Estate) (next : GatewayTask) : Estate :=
  { estate with calls := estate.calls ++ [next] }

def removePort (estate : Estate) (id : String) : Estate :=
  { estate with system := ⟨estate.core, estate.system.tasks ++ [.remove id]⟩ }

def createGateway (estate : Estate) (req : GatewayRequest) : Estate :=
  match req.checkVlan, estate.gateways.get? req.vlan with
  | .ok _, none => estate.follow (.build req)
  | _, _ => estate

def gatewayPort (req : GatewayRequest) : Transport :=
  { id := gatewayPortID req.vlan, kind := .client }

/-- `ok` tells whether `gateway.New` succeeded. -/
def build (estate : Estate) (req : GatewayRequest) (ok : Bool) : Estate :=
  match req.check with
  | .error _ => estate
  | .ok _ =>
    if ok then
      (estate.withCore (estate.core.alloc (gatewayPort req))).follow
        (.register req estate.core.next)
    else estate

def register (estate : Estate) (req : GatewayRequest) (handle : Nat) : Estate :=
  match estate.core.sw.addPort ⟨(estate.core.port handle).id, handle⟩
      { vlan := req.vlan, isolated := req.isolated } with
  | .error _ => estate.follow (.discard handle)
  | .ok sw =>
    (estate.withCore { estate.core with sw := sw }).follow (.store req handle)

/-- A gateway has no pump to stop. -/
def discard (estate : Estate) (env : Env) (handle : Nat) : Estate :=
  estate.withCore
    (estate.core.write handle ((estate.core.port handle).close handle env.range).1)

def store (estate : Estate) (req : GatewayRequest) (handle : Nat) : Estate :=
  match estate.gateways.get? req.vlan with
  | some _ => estate.removePort (gatewayPortID req.vlan)
  | none => { estate with gateways := estate.gateways.set req.vlan ⟨req, handle⟩ }

def deleteGateway (estate : Estate) (vlan : Int) : Estate :=
  match estate.gateways.get? vlan with
  | none => estate
  | some record =>
    { estate with gateways := estate.gateways.erase vlan }.removePort
      (estate.core.port record.gw).id

def exec (estate : Estate) (env : Env) (ok : Bool) : GatewayTask → Estate
  | .createGateway req => estate.createGateway req
  | .build req => estate.build req ok
  | .register req handle => estate.register req handle
  | .discard handle => estate.discard env handle
  | .store req handle => estate.store req handle
  | .deleteGateway vlan => estate.deleteGateway vlan

end Estate

/-! ## Runs -/

inductive EstateLabel where
  | port (label : Label)
  | begin (task : GatewayTask)
  | run (index : Nat) (ok : Bool)

namespace Estate

def new (instanceID : UInt64) : Estate := ⟨.new instanceID, .empty, []⟩

def step (env : Env) (estate : Estate) : EstateLabel → Estate
  | .port label => { estate with system := estate.system.step env label }
  | .begin task => if task.external then estate.exec env true task else estate
  | .run index ok =>
    match estate.calls[index]? with
    | none => estate
    | some task => { estate with calls := estate.calls.eraseIdx index }.exec env ok task

def Initial (estate : Estate) : Prop := ∃ instanceID, estate = new instanceID

def Step (estate : Estate) (label : Env × EstateLabel) (after : Estate) : Prop :=
  estate.step label.1 label.2 = after

def Takes (estate : Estate) (task : GatewayTask) (others : List GatewayTask) : Prop :=
  (task :: others).Perm estate.calls ∨ (task.external = true ∧ others = estate.calls)

/-- A step is one of the ports, executes a section of a gateway call, or changes
nothing. -/
theorem step_cases (env : Env) (estate : Estate) (label : EstateLabel) :
    estate.step env label = estate ∨
      (∃ inner, label = .port inner ∧
        estate.step env label = { estate with system := estate.system.step env inner }) ∨
      ∃ task others ok, estate.Takes task others ∧
        estate.step env label = { estate with calls := others }.exec env ok task := by
  cases label with
  | port inner => exact .inr (.inl ⟨inner, rfl, rfl⟩)
  | begin task =>
    simp only [step]
    split
    · rename_i hext
      exact .inr (.inr ⟨task, estate.calls, true, .inr ⟨hext, rfl⟩, rfl⟩)
    · exact .inl rfl
  | run index ok =>
    simp only [step]
    split
    · exact .inl rfl
    rename_i task htask
    refine .inr (.inr ⟨task, _, ok, .inl ?_, rfl⟩)
    obtain ⟨hlt, rfl⟩ := List.getElem?_eq_some_iff.mp htask
    exact List.getElem_cons_eraseIdx_perm hlt

theorem Takes.mem {estate : Estate} {task other : GatewayTask} {others : List GatewayTask}
    (h : estate.Takes task others) (ho : other ∈ others) : other ∈ estate.calls := by
  rcases h with hperm | ⟨-, rfl⟩
  · exact hperm.mem_iff.mp (List.mem_cons_of_mem task ho)
  · exact ho

theorem Takes.pending {estate : Estate} {task : GatewayTask} {others : List GatewayTask}
    (h : estate.Takes task others) (hinternal : task.external = false) :
    (task :: others).Perm estate.calls := by
  rcases h with hperm | ⟨hext, -⟩
  · exact hperm
  · simp [hext] at hinternal

end Estate

end GvSwitch.Manager
