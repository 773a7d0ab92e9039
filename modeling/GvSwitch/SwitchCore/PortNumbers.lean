import GvSwitch.SwitchCore.Bridge

/-!
# Port numbers and port identifiers

Every registration takes the next number of a 16-bit sequence, and numbers are
not given back.  The identifier in BPDUs holds the low eight bits of the number
behind the priority, so 256 registrations later an identifier comes up again
although the first port may still be there.
-/

namespace GvSwitch.SwitchCore

open Foundation PriorityVector Switch

theorem toNat_portID (priority : UInt8) (number : UInt16) :
    (portID priority number).toNat = priority.toNat * 256 + number.toNat % 256 := by
  have hlow : number.toNat % 256 < 2 ^ 8 := Nat.mod_lt _ (by decide)
  have hhigh := priority.toNat_lt
  have hmask : number.toNat &&& (0xff : UInt16).toNat = number.toNat % 256 :=
    Nat.and_two_pow_sub_one_eq_mod _ 8
  have hshift : priority.toNat <<< ((8 : UInt16).toNat % 16) % 2 ^ 16 =
      priority.toNat <<< 8 := by
    rw [show (8 : UInt16).toNat % 16 = 8 from rfl, Nat.shiftLeft_eq]
    omega
  unfold portID
  rw [UInt16.toNat_or, UInt16.toNat_and, UInt16.toNat_shiftLeft, UInt8.toNat_toUInt16,
    hmask, hshift, ← Nat.shiftLeft_add_eq_or_of_lt hlow, Nat.shiftLeft_eq]

variable {sw : Switch}

namespace Switch

/-! ## Numbers of registered ports -/

/-- The part of a port's number that goes into its identifier. -/
def shortNumber (sw : Switch) (ptr : Ptr) : Nat :=
  (sw.entry ptr).portNum.toNat % 256

def NumbersDiffer (sw : Switch) : Prop :=
  ∀ id other ptr target, sw.ports.get? id = some ptr →
    sw.ports.get? other = some target → id ≠ other →
      sw.shortNumber ptr ≠ sw.shortNumber target

def NumberFree (sw : Switch) : Event → Prop
  | .op (.addPort _ _) => ∀ id ptr, sw.ports.get? id = some ptr →
      sw.shortNumber ptr ≠ (sw.portNumSeq + 1).toNat % 256
  | _ => True

theorem stpPortID_ne {first second : StpPort}
    (h : sw.shortNumber first.entry ≠ sw.shortNumber second.entry) :
    sw.stpPortID first ≠ sw.stpPortID second := by
  intro heq
  have hnat := congrArg UInt16.toNat heq
  unfold stpPortID at hnat
  rw [toNat_portID, toNat_portID] at hnat
  unfold shortNumber at h
  omega

/-! ## Two ports on one segment -/

/-- Each of two ports has heard what the bridge sends through the other. -/
structure Facing (sw : Switch) (first second : StpPort) : Prop where
  first_heard : first.hasInfo = true
  second_heard : second.hasInfo = true
  first_info : first.info = sw.advertised second
  second_info : second.info = sw.advertised first

theorem Facing.designated {first second : StpPort} (h : sw.Facing first second)
    (hne : sw.stpPortID first ≠ sw.stpPortID second) :
    sw.designatedLocked first = !sw.designatedLocked second := by
  have hrank : (sw.advertised first).rank ≠ (sw.advertised second).rank :=
    fun heq => hne (congrArg PriorityVector.portID (PriorityVector.rank_injective heq))
  have hfst : sw.designatedLocked first =
      (sw.advertised first).better (sw.advertised second) := by
    rw [designatedLocked, h.first_heard, h.first_info]
    rfl
  have hsnd : sw.designatedLocked second =
      (sw.advertised second).better (sw.advertised first) := by
    rw [designatedLocked, h.second_heard, h.second_info]
    rfl
  rw [hfst, hsnd]
  rcases lt_or_gt_of_ne hrank with hlt | hgt
  · rw [(better_iff _ _).mpr hlt, (not_better_iff _ _).mpr hlt.le]
    rfl
  · rw [(better_iff _ _).mpr hgt, (not_better_iff _ _).mpr hgt.le]
    rfl

/-! ## Operations that keep the numbers -/

structure SameNumbers (before after : Switch) : Prop where
  ports : after.ports = before.ports
  portNum : ∀ ptr, (after.entry ptr).portNum = (before.entry ptr).portNum

variable {first second : Switch}

theorem Bridged.sameNumbers (h : Bridged first second) : SameNumbers first second :=
  ⟨h.ports, h.field (·.portNum) fun _ _ => rfl⟩

theorem SameNumbers.numbersDiffer (h : SameNumbers first second) (hdiffer : NumbersDiffer first) :
    NumbersDiffer second := by
  intro id other ptr target hp htgt hne
  rw [h.ports] at hp htgt
  unfold shortNumber
  rw [h.portNum, h.portNum]
  exact hdiffer id other ptr target hp htgt hne

/-! ## Every event -/

theorem NumbersDiffer.register (h : sw.NumbersDiffer) (hw : WellFormed sw) {port : Port}
    {attrs : CheckedAttrs} (hfree : sw.NumberFree (.op (.addPort port attrs.toPortAttrs))) :
    (sw.register port attrs).NumbersDiffer := by
  have hold {id : String} {ptr : Ptr} (hp : sw.ports.get? id = some ptr) :
      (sw.register port attrs).shortNumber ptr = sw.shortNumber ptr := by
    unfold shortNumber
    rw [entry_register, if_neg (Nat.ne_of_lt (hw.lt_next hp))]
  have hnew : (sw.register port attrs).shortNumber sw.next =
      (sw.portNumSeq + 1).toNat % 256 := by
    unfold shortNumber
    rw [entry_register, if_pos rfl]
  intro id other ptr target hp htgt hne
  rw [get?_register] at hp htgt
  split at hp
  · rename_i hid
    cases hp
    rw [if_neg fun ho => hne (hid.trans ho.symm)] at htgt
    rw [hnew, hold htgt]
    exact (hfree other target htgt).symm
  · split at htgt
    · cases htgt
      rw [hnew, hold hp]
      exact hfree id ptr hp
    · rw [hold hp, hold htgt]
      exact h id other ptr target hp htgt hne

theorem NumbersDiffer.effect (h : sw.NumbersDiffer) (hw : WellFormed sw) {env : Env}
    {event : Event} {after : Switch} (heff : BridgeEffect env sw event after)
    (hfree : sw.NumberFree event) : after.NumbersDiffer := by
  cases heff with
  | spares hspare => exact SameNumbers.numbersDiffer ⟨hspare.ports, hspare.portNum⟩ h
  | adds _ => exact h.register hw hfree
  | @removes id ptr _ =>
    intro name other first second hfst hsnd hne
    have hnumber (found : Ptr) :
        ((sw.unregister id ptr).portDown id).shortNumber found = sw.shortNumber found := by
      exact congrArg (·.toNat % 256) (entry_modify_field (·.portNum)
        { sw with ports := sw.ports.erase id } ptr found
        (fun entry => { entry with gone := true }) fun _ => rfl)
    have hkept {name : String} {found : Ptr}
        (hf : ((sw.unregister id ptr).portDown id).ports.get? name =
          some found) : sw.ports.get? name = some found := by
      have herased := GoMap.get?_erase sw.ports id name
      rw [show ((sw.unregister id ptr).portDown id).ports =
        sw.ports.erase id from rfl, herased] at hf
      split at hf
      · cases hf
      · exact hf
    rw [hnumber, hnumber]
    exact h name other first second (hkept hfst) (hkept hsnd) hne
  | @updates id ptr attrs fdb _ =>
    have hs : SameNumbers sw { sw.writeAttrs ptr attrs with fdb := fdb } :=
      ⟨rfl, fun other => writeAttrs_field (·.portNum) sw ptr other attrs fun _ _ => rfl⟩
    exact hs.numbersDiffer h
  | configures cfg => exact (bridged_setSTPConfig env sw cfg).sameNumbers.numbersDiffer h
  | resyncs => exact (bridged_runDeferred env sw).sameNumbers.numbersDiffer h
  | ticks dt => exact (bridged_stpTick env sw dt).sameNumbers.numbersDiffer h
  | hears _ hcnt =>
    exact (bridged_handleBPDU env _ _ _).sameNumbers.numbersDiffer
      (SameNumbers.numbersDiffer ⟨hcnt.ports, hcnt.portNum⟩ h)

/-- Registered ports have different identifiers, and of two that share a segment
exactly one is designated. -/
def Identified (sw : Switch) : Prop :=
  ∀ (id other : String) (first second : StpPort), id ≠ other →
    sw.ports.get? id = some first.entry →
    sw.ports.get? other = some second.entry →
      sw.stpPortID first ≠ sw.stpPortID second ∧
        (sw.Facing first second →
          sw.designatedLocked first = !sw.designatedLocked second)

theorem NumbersDiffer.identified (h : sw.NumbersDiffer) : sw.Identified := by
  intro id other first second hne hfst hsnd
  have hdiffer := stpPortID_ne (h id other _ _ hfst hsnd hne)
  exact ⟨hdiffer, fun hfacing => hfacing.designated hdiffer⟩

end Switch

/-! ## Whole runs -/

namespace World

def NumberFree (world : World) (label : Env × Event) : Prop :=
  world.sw.NumberFree label.2

/-- In every run in which a port is only added while no registered port has its
number modulo 256, port identifiers tell the registered ports apart. -/
theorem port_ids_identify {world : World}
    (h : Reachable Initial (Guarded NumberFree Step) world) : world.sw.Identified := by
  refine NumbersDiffer.identified (switch_invariant ?_ ?_ h)
  · intro instanceID id other ptr target hp
    cases hp
  · intro world hreach hdiffer env event hfree
    exact hdiffer.effect hreach.wellFormed (world.bridgeEffect env event) hfree

def twoPorts : World :=
  (start 7).run (steadyEnv 1) [.op (.addPort ⟨"a", 1⟩ {}), .op (.addPort ⟨"b", 2⟩ {})]

theorem port_ids_identify_twoPorts :
    twoPorts.sw.ports.get? "a" = some 0 ∧ twoPorts.sw.ports.get? "b" = some 1 ∧
      twoPorts.sw.Identified := by
  have hfst : Reachable Initial (Guarded NumberFree Step)
      ((start 7).run (steadyEnv 1) [.op (.addPort ⟨"a", 1⟩ {})]) :=
    .next (.start ⟨7, rfl⟩) (show Guarded NumberFree Step _
      (steadyEnv 1, .op (.addPort ⟨"a", 1⟩ {})) _ from ⟨nofun, rfl⟩)
  have hsnd : Reachable Initial (Guarded NumberFree Step) twoPorts := by
    refine .next hfst (show Guarded NumberFree Step _
      (steadyEnv 1, .op (.addPort ⟨"b", 2⟩ {})) _ from ⟨fun id ptr hp => ?_, rfl⟩)
    have hnumber : ∀ name ∈ ((start 7).run (steadyEnv 1)
        [.op (.addPort ⟨"a", 1⟩ {})]).sw.ports.keys,
        ∀ found ∈ ((start 7).run (steadyEnv 1)
          [.op (.addPort ⟨"a", 1⟩ {})]).sw.ports.get? name,
          ((start 7).run (steadyEnv 1)
            [.op (.addPort ⟨"a", 1⟩ {})]).sw.shortNumber found ≠ 2 := by decide
    exact hnumber id ((GoMap.mem_keys_iff _ _).mpr ⟨ptr, hp⟩) ptr hp
  exact ⟨by decide, by decide, port_ids_identify hsnd⟩

/-! ## A number that comes up again -/

/-- Ports are only added and removed, and never more than 255 are registered. -/
def Roomy (world : World) : Env × Event → Prop
  | (_, .op (.addPort _ _)) => world.sw.ports.keys.length < 255
  | (_, .op (.removePort _)) => True
  | _ => False

def defaultAttrs : CheckedAttrs := nullEntry.attrs

def addB : Event := .op (.addPort ⟨"b", 2⟩ {})

theorem step_addB {world : World} (hfresh : world.sw.ports.get? "b" = none) (env : Env) :
    (world.step env addB).1 =
      ⟨world.sw.register ⟨"b", 2⟩ defaultAttrs, world.refs⟩ := by
  have hadd : world.sw.addPort ⟨"b", 2⟩ {} =
      .ok (world.sw.register ⟨"b", 2⟩ defaultAttrs) := by
    unfold addPort
    rw [show PortAttrs.check {} = .ok defaultAttrs from rfl]
    dsimp only
    rw [if_neg (by decide), hfresh]
  simp only [step, addB, apply, hadd, settle]

/-- Port `a` is registered first, and `b` has been added and removed a number of
times since. -/
structure Churned (count : Nat) (world : World) : Prop where
  reachable : Reachable Initial (Guarded Roomy Step) world
  ports : world.sw.ports = GoMap.empty.set "a" 0
  number : (world.sw.entry 0).portNum = 1
  priority : (world.sw.entry 0).attrs.stpPriority = 0
  next : 0 < world.sw.next
  sequence : world.sw.portNumSeq = UInt16.ofNat (count + 1)

theorem churned_zero : Churned 0
    ((start 7).run (steadyEnv 1) [.op (.addPort ⟨"a", 1⟩ {})]) := by
  have hroomy : (start 7).sw.ports.keys.length < 255 := by decide
  refine ⟨.next (.start ⟨7, rfl⟩) (show Guarded Roomy Step _
    (steadyEnv 1, .op (.addPort ⟨"a", 1⟩ {})) _ from ⟨hroomy, rfl⟩), ?_, ?_, ?_, ?_, ?_⟩
  · rfl
  · decide
  · decide
  · decide
  · decide

section Churning

variable {count : Nat} {world : World} (h : Churned count world)

include h

theorem Churned.added : Reachable Initial (Guarded Roomy Step)
    ⟨world.sw.register ⟨"b", 2⟩ defaultAttrs, world.refs⟩ := by
  have hroomy : world.sw.ports.keys.length < 255 := by
    rw [h.ports]
    decide
  have hfresh : world.sw.ports.get? "b" = none := by
    rw [h.ports]
    decide
  exact .next h.reachable (show Guarded Roomy Step world (steadyEnv 1, addB) _ from
    ⟨hroomy, step_addB hfresh (steadyEnv 1)⟩)

theorem Churned.again : ∃ after, Churned (count + 1) after := by
  have he : (((world.sw.register ⟨"b", 2⟩ defaultAttrs).unregister "b"
      world.sw.next).portDown "b").entry 0 = world.sw.entry 0 := by
    have hne : 0 ≠ world.sw.next := Nat.ne_of_lt h.next
    refine (entry_modify_of_ne _ (fun entry => { entry with gone := true }) hne).trans ?_
    exact (entry_register _ _ _ _).trans (if_neg hne)
  have hstep : Guarded Roomy Step ⟨world.sw.register ⟨"b", 2⟩ defaultAttrs, world.refs⟩
      (steadyEnv 1, .op (.removePort "b"))
      ⟨((world.sw.register ⟨"b", 2⟩ defaultAttrs).unregister "b"
        world.sw.next).portDown "b", world.refs⟩ := by
    exact ⟨trivial, rfl⟩
  refine ⟨_, .next h.added hstep, ?_, ?_, ?_, Nat.succ_pos _, ?_⟩
  · have hports : (world.sw.ports.set "b" world.sw.next).erase "b" =
        GoMap.empty.set "a" 0 := by
      rw [h.ports]
      rfl
    exact hports
  · rw [he]
    exact h.number
  · rw [he]
    exact h.priority
  · have hnext : world.sw.portNumSeq + 1 = UInt16.ofNat (count + 1 + 1) := by
      rw [h.sequence, UInt16.ofNat_add (count + 1) 1]
      rfl
    exact hnext

end Churning

theorem exists_churned (count : Nat) : ∃ world, Churned count world := by
  induction count with
  | zero => exact ⟨_, churned_zero⟩
  | succ count ih =>
    obtain ⟨world, hworld⟩ := ih
    exact hworld.again

/-- With one more port registered at a time, the 257th registration has the
identifier of the first.  On a common segment neither port is designated. -/
theorem port_ids_collide :
    ∃ world : World, Reachable Initial (Guarded Roomy Step) world ∧
      ∃ first second : StpPort, world.sw.ports.get? "a" = some first.entry ∧
        world.sw.ports.get? "b" = some second.entry ∧
        world.sw.stpPortID first = world.sw.stpPortID second ∧
        world.sw.Facing first second ∧
        world.sw.designatedLocked first = false ∧
        world.sw.designatedLocked second = false := by
  obtain ⟨world, hworld⟩ := exists_churned 255
  let after := world.sw.register ⟨"b", 2⟩ defaultAttrs
  let firstHeard := after.advertised { entry := world.sw.next, role := .designated }
  let secondHeard := after.advertised { entry := 0, role := .designated }
  let first : StpPort :=
    { entry := 0, role := .designated, hasInfo := true, info := firstHeard }
  let second : StpPort :=
    { entry := world.sw.next, role := .designated, hasInfo := true, info := secondHeard }
  have hfst : after.stpPortID first = portID 128 1 := by
    have he : after.entry 0 = world.sw.entry 0 :=
      (entry_register _ _ _ _).trans (if_neg (Nat.ne_of_lt hworld.next))
    unfold stpPortID
    dsimp only [first]
    rw [he, hworld.number, hworld.priority]
    rfl
  have hsnd : after.stpPortID second = portID 128 257 := by
    have he : after.entry world.sw.next =
        { id := "b", port := ⟨"b", 2⟩, attrs := defaultAttrs,
          portNum := world.sw.portNumSeq + 1 } :=
      (entry_register _ _ _ _).trans (if_pos rfl)
    unfold stpPortID
    dsimp only [second]
    rw [he, hworld.sequence]
    rfl
  have hs : after.stpPortID first = after.stpPortID second := by
    rw [hfst, hsnd]
    decide
  have hfacing : after.Facing first second := ⟨rfl, rfl, rfl, rfl⟩
  have hadvertised : after.advertised first = after.advertised second := by
    unfold advertised
    rw [hs]
  have hloses (vector : PriorityVector) : vector.better vector = false :=
    (not_better_iff _ _).mpr le_rfl
  refine ⟨⟨after, world.refs⟩, hworld.added, first, second, ?_, ?_, hs, hfacing, ?_, ?_⟩
  · refine (get?_register _ _ _ _).trans ((if_neg (by decide)).trans ?_)
    rw [hworld.ports]
    rfl
  · exact (get?_register _ _ _ _).trans (if_pos rfl)
  · rw [designatedLocked, hfacing.first_heard, hfacing.first_info, hadvertised]
    exact hloses _
  · rw [designatedLocked, hfacing.second_heard, hfacing.second_info, hadvertised]
    exact hloses _

end World

end GvSwitch.SwitchCore
