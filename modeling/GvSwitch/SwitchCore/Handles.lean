import GvSwitch.SwitchCore.Run

/-!
# The transport registered under an identifier

Only `AddPort` and `RemovePort` change which transport an identifier names.
-/

namespace GvSwitch.SwitchCore.Switch

open Foundation

def handleOf (sw : Switch) (id : String) : Option Nat :=
  (sw.ports.get? id).map fun ptr => (sw.entry ptr).port.handle

def Allocated (sw : Switch) : Prop :=
  ∀ id ptr, sw.ports.get? id = some ptr → ptr < sw.next

variable {after sw : Switch} {port : Port} {attrs : PortAttrs}

theorem handleOf_of_get? {id : String} {ptr : Ptr} (h : sw.ports.get? id = some ptr) :
    sw.handleOf id = some (sw.entry ptr).port.handle := by
  rw [handleOf, h]
  rfl

theorem Standing.allocated {shut : Ptr → Prop} {before : Switch}
    (h : Standing shut before after) (halloc : before.Allocated) : after.Allocated := by
  intro id ptr hp
  rw [h.ports] at hp
  rw [h.next]
  exact halloc id ptr hp

theorem Allocated.addPort (h : sw.Allocated)
    (hadd : sw.addPort port attrs = .ok after) : after.Allocated := by
  obtain ⟨checked, -, -, -, rfl⟩ := addPort_ok hadd
  intro id ptr hp
  rw [get?_register] at hp
  split at hp
  · cases hp
    exact Nat.lt_succ_self _
  · exact Nat.lt_succ_of_lt (h id ptr hp)

theorem Allocated.unregister (h : sw.Allocated) (removed : String) (target : Ptr) :
    (sw.unregister removed target).Allocated := by
  intro id ptr hp
  have hports : (sw.unregister removed target).ports = sw.ports.erase removed := rfl
  rw [hports, GoMap.get?_erase] at hp
  split at hp
  · cases hp
  · exact h id ptr hp

theorem Allocated.updatePortAttrs (h : sw.Allocated) {id : String}
    (hupd : sw.updatePortAttrs id attrs = .ok after) : after.Allocated := by
  obtain ⟨checked, ptr, fdb, -, -, rfl⟩ := updatePortAttrs_ok hupd
  exact h

theorem Standing.handleOf {shut : Ptr → Prop} {before : Switch}
    (h : Standing shut before after) (id : String) :
    after.handleOf id = before.handleOf id := by
  simp only [Switch.handleOf, h.ports, h.port]

theorem handleOf_addPort (halloc : sw.Allocated)
    (hadd : sw.addPort port attrs = .ok after) (id : String) :
    after.handleOf id = if id = port.id then some port.handle else sw.handleOf id := by
  obtain ⟨checked, -, -, -, rfl⟩ := addPort_ok hadd
  simp only [handleOf, get?_register, entry_register]
  split
  · simp
  cases hp : sw.ports.get? id with
  | none => rfl
  | some ptr =>
    have hne : ptr ≠ sw.next := Nat.ne_of_lt (halloc id ptr hp)
    simp [hne]

theorem update_addPort (halloc : sw.Allocated) (hadd : sw.addPort port attrs = .ok after) :
    after.handleOf = Function.update sw.handleOf port.id (some port.handle) := by
  funext id
  rw [handleOf_addPort halloc hadd, Function.update_apply]

theorem handleOf_none_of_addPort (hadd : sw.addPort port attrs = .ok after) :
    sw.handleOf port.id = none := by
  obtain ⟨checked, -, -, hfresh, -⟩ := addPort_ok hadd
  rw [handleOf, hfresh]
  rfl

theorem handleOf_unregister (sw : Switch) (removed id : String) (ptr : Ptr) :
    (sw.unregister removed ptr).handleOf id =
      if id = removed then none else sw.handleOf id := by
  have hp (other : Ptr) : ((sw.unregister removed ptr).entry other).port =
      (sw.entry other).port :=
    entry_modify_field (·.port) { sw with ports := sw.ports.erase removed }
      ptr other (fun entry => { entry with gone := true }) fun _ => rfl
  have hports : (sw.unregister removed ptr).ports = sw.ports.erase removed := rfl
  simp only [handleOf, hports, hp, GoMap.get?_erase]
  split
  · rfl
  · rfl

theorem handleOf_updatePortAttrs {updated : String}
    (hupd : sw.updatePortAttrs updated attrs = .ok after) (id : String) :
    after.handleOf id = sw.handleOf id := by
  obtain ⟨checked, ptr, fdb, -, -, rfl⟩ := updatePortAttrs_ok hupd
  have hp (other : Ptr) : ((sw.writeAttrs ptr checked).entry other).port =
      (sw.entry other).port :=
    writeAttrs_field (·.port) sw ptr other checked fun _ _ => rfl
  have hports : (sw.writeAttrs ptr checked).ports = sw.ports := rfl
  change (sw.writeAttrs ptr checked).handleOf id = sw.handleOf id
  simp only [handleOf, hports, hp]

end GvSwitch.SwitchCore.Switch
