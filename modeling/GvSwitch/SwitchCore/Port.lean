import GvSwitch.Foundation.Bytes

/-!
# Switchports and their policy attributes

`Port` is the transport side of a switchport: its identifier and the object
that frames are handed to.  `PortAttrs` is the policy an operator sets.  A
registered port always carries attributes that passed `PortAttrs.validate`, so
the registry stores `CheckedAttrs`.
-/

namespace GvSwitch.SwitchCore

open Foundation

def vlanUntaggedOnly : Int := 0

def vlanTrunk : Int := 4095

/-- The transport object behind a switchport; `handle` is its identity. -/
structure Port where
  id : String
  handle : Nat
  deriving DecidableEq, Repr

structure PortAttrs where
  securityMAC : Option Bytes := none
  isolated : Bool := false
  vlan : Int := 0
  disabled : Bool := false
  bpduGuard : Bool := false
  loopDetect : Bool := false
  stormPPS : Nat := 0
  stp : Bool := false
  stpCost : UInt32 := 0
  stpPriority : UInt8 := 0
  deriving DecidableEq, Repr

inductive AttrsError where
  | badSecurityMAC (length : Nat)
  | badVLAN (vlan : Int)
  deriving DecidableEq, Repr

def PortAttrs.validate (attrs : PortAttrs) : Except AttrsError Unit :=
  match attrs.securityMAC with
  | some mac =>
    if mac.length ≠ 6 then .error (.badSecurityMAC mac.length)
    else if attrs.vlan < 0 ∨ attrs.vlan > vlanTrunk then
      .error (.badVLAN attrs.vlan)
    else .ok ()
  | none =>
    if attrs.vlan < 0 ∨ attrs.vlan > vlanTrunk then
      .error (.badVLAN attrs.vlan)
    else .ok ()

structure CheckedAttrs extends PortAttrs where
  vlan_nonneg : 0 ≤ toPortAttrs.vlan
  vlan_le : toPortAttrs.vlan ≤ 4095
  mac_length : ∀ mac, toPortAttrs.securityMAC = some mac → mac.length = 6
  deriving DecidableEq

theorem PortAttrs.validate_ok {attrs : PortAttrs} (h : attrs.validate = .ok ()) :
    0 ≤ attrs.vlan ∧ attrs.vlan ≤ 4095 ∧
      ∀ mac, attrs.securityMAC = some mac → mac.length = 6 := by
  unfold PortAttrs.validate at h
  cases hmac : attrs.securityMAC with
  | none =>
    simp only [hmac] at h
    split at h
    · cases h
    rename_i hrange
    simp only [vlanTrunk] at hrange
    refine ⟨by omega, by omega, ?_⟩
    intro mac habsurd
    cases habsurd
  | some mac =>
    simp only [hmac] at h
    split at h
    · cases h
    rename_i hlen
    split at h
    · cases h
    rename_i hrange
    simp only [vlanTrunk] at hrange
    refine ⟨by omega, by omega, ?_⟩
    intro other ho
    cases ho
    exact not_not.mp hlen

def PortAttrs.check (attrs : PortAttrs) : Except AttrsError CheckedAttrs :=
  match h : attrs.validate with
  | .error reason => .error reason
  | .ok () =>
    have hok := PortAttrs.validate_ok h
    .ok ⟨attrs, hok.1, hok.2.1, hok.2.2⟩

def CheckedAttrs.disable (attrs : CheckedAttrs) : CheckedAttrs :=
  { attrs with disabled := true }

@[simp] theorem CheckedAttrs.disable_toPortAttrs (attrs : CheckedAttrs) :
    attrs.disable.toPortAttrs = { attrs.toPortAttrs with disabled := true } := rfl

theorem PortAttrs.check_toPortAttrs {attrs : PortAttrs} {checked : CheckedAttrs}
    (h : attrs.check = .ok checked) : checked.toPortAttrs = attrs := by
  unfold PortAttrs.check at h
  split at h
  · cases h
  · cases h
    rfl

structure PortCounters where
  rxFrames : Nat := 0
  rxBytes : Nat := 0
  rxDropped : Nat := 0
  txFrames : Nat := 0
  txBytes : Nat := 0
  txDropped : Nat := 0
  stormDropped : Nat := 0
  deriving DecidableEq, Repr

end GvSwitch.SwitchCore
