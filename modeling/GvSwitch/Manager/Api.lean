import GvSwitch.SwitchCore.Port

/-!
# The control plane's requests

`PortRequest` creates a switchport and `PortPatch` changes its policy.  MAC
texts are parsed by the standard library; the model carries the outcome, with
`none` for a text that does not parse.
-/

namespace GvSwitch.Manager

open Foundation SwitchCore

/-! ## Identifiers -/

def identifierChar (character : Char) : Bool :=
  ('A' ≤ character && character ≤ 'Z') || ('a' ≤ character && character ≤ 'z') ||
    ('0' ≤ character && character ≤ '9') || character == '.' || character == '_' ||
    character == '-'

def validateIdentifier (id : String) : Bool :=
  !id.toList.isEmpty && id.toList.all identifierChar

theorem validateIdentifier_sub (server peer : String) :
    validateIdentifier (server ++ "@" ++ peer) = false := by
  have hm : '@' ∈ (server ++ "@" ++ peer).toList := by
    simp
  have hbad : identifierChar '@' = false := by decide
  have hall : (server ++ "@" ++ peer).toList.all identifierChar = false := by
    rw [List.all_eq_false]
    exact ⟨'@', hm, by simp [hbad]⟩
  rw [validateIdentifier, hall, Bool.and_false]

/-! ## Creating a port -/

inductive ReplacingMode where
  | replace
  | occupy
  | multiplex
  deriving DecidableEq, Repr

/-- Which constructor the mode and the transport select: a dialled connection
or a tap device, a listening stream socket, a bound datagram socket, a
vhost-user port that dials (`none`) or listens, or an AF_XDP socket. -/
inductive Endpoint where
  | client
  | streamServer (mode : ReplacingMode)
  | dgramServer (mode : ReplacingMode)
  | vhostUser (mode : Option ReplacingMode)
  | afxdp
  deriving DecidableEq, Repr

structure PortRequest where
  identifier : String
  vlan : Option Int := none
  isolated : Bool := false
  portSecurity : Option (Option Bytes) := none
  enabled : Option Bool := none
  autoRemove : Option Bool := none
  endpoint : Endpoint
  bpduGuard : Bool := false
  loopDetect : Bool := false
  stormPPS : Nat := 0
  stp : Bool := false
  stpCost : UInt32 := 0
  stpPriority : UInt8 := 0
  deriving DecidableEq, Repr

inductive PatchError where
  | badPortSecurity
  | badPortSecurityMAC
  deriving DecidableEq, Repr

/-- `Attrs`: an omitted VLAN is the trunk. -/
def PortRequest.attrs (req : PortRequest) : Except PatchError PortAttrs :=
  let attrs : PortAttrs :=
    { isolated := req.isolated
      vlan := req.vlan.getD vlanTrunk
      disabled := !req.enabled.getD true
      bpduGuard := req.bpduGuard
      loopDetect := req.loopDetect
      stormPPS := req.stormPPS
      stp := req.stp
      stpCost := req.stpCost
      stpPriority := req.stpPriority }
  match req.portSecurity with
  | none => .ok attrs
  | some none => .error .badPortSecurityMAC
  | some (some mac) => .ok { attrs with securityMAC := some mac }

/-! ## Patching a port -/

/-- The raw `port_security` member: absent, not a string, null, or a text. -/
inductive SecurityPatch where
  | absent
  | malformed
  | null
  | text (mac : Option Bytes)
  deriving DecidableEq, Repr

structure PortPatch where
  vlan : Option Int := none
  isolated : Option Bool := none
  portSecurity : SecurityPatch := .absent
  enabled : Option Bool := none
  bpduGuard : Option Bool := none
  loopDetect : Option Bool := none
  stormPPS : Option Nat := none
  stp : Option Bool := none
  stpCost : Option UInt32 := none
  stpPriority : Option UInt8 := none
  deriving DecidableEq, Repr

def PortPatch.apply (patch : PortPatch) (attrs : PortAttrs) :
    Except PatchError PortAttrs :=
  let merged : PortAttrs :=
    { attrs with
      vlan := patch.vlan.getD attrs.vlan
      isolated := patch.isolated.getD attrs.isolated
      disabled := (patch.enabled.map not).getD attrs.disabled
      bpduGuard := patch.bpduGuard.getD attrs.bpduGuard
      loopDetect := patch.loopDetect.getD attrs.loopDetect
      stormPPS := patch.stormPPS.getD attrs.stormPPS
      stp := patch.stp.getD attrs.stp
      stpCost := patch.stpCost.getD attrs.stpCost
      stpPriority := patch.stpPriority.getD attrs.stpPriority }
  match patch.portSecurity with
  | .absent => .ok merged
  | .malformed => .error .badPortSecurity
  | .null => .ok { merged with securityMAC := none }
  | .text none => .error .badPortSecurityMAC
  | .text (some mac) => .ok { merged with securityMAC := some mac }

end GvSwitch.Manager
