import GvSwitch.Foundation.Forest
import GvSwitch.SwitchCore.Run
import GvSwitch.SwitchCore.StpRoles

/-!
# Spanning trees

A network of bridges whose ports are attached to segments.  In a stable state
the roles the bridges compute for themselves fit together: every segment has
one designated port, a connected part of the network agrees on its root, and
root and designated ports span it without a cycle.
-/

namespace GvSwitch.SwitchCore

open Foundation PriorityVector Switch

/-! ## One bridge -/

namespace Switch

/-- `recomputeLocked` finds nothing to change. -/
def Settled (sw : Switch) : Prop :=
  ∃ env, (recomputeLocked env sw).stp.rootID = sw.stp.rootID ∧
    (recomputeLocked env sw).stp.rootCost = sw.stp.rootCost ∧
    (recomputeLocked env sw).stp.rootPort = sw.stp.rootPort ∧
    ∀ id record, sw.stp.ports.get? id = some record →
      ((recomputeLocked env sw).stp.ports.get? id).map (·.role) = some record.role

structure Elected (sw : Switch) (root : Option String) : Prop where
  claims : root = none →
    sw.stp.rootID = sw.stp.bridgeID ∧ sw.stp.rootCost = 0
  follows : ∀ id, root = some id → ∃ vector, sw.Offers id vector ∧
    sw.stp.rootID = vector.rootID ∧ sw.stp.rootCost = vector.cost
  own : sw.stp.rootID ≤ sw.stp.bridgeID
  least : ∀ id vector, sw.Offers id vector → sw.stp.rootID ≤ vector.rootID
  role : ∀ id record, sw.stp.ports.get? id = some record →
    record.role = sw.computeRole root id record

theorem sameBridge_setRoot {sw : Switch} {best : PriorityVector × Option String}
    (hrootID : sw.stp.rootID = best.1.rootID) (hrootCost : sw.stp.rootCost = best.1.cost)
    (hrootPort : sw.stp.rootPort = best.2.getD "") : SameBridge (sw.setRoot best) sw :=
  ⟨rfl, rfl, hrootID, hrootCost, hrootPort, fun _ => rfl, fun _ => rfl⟩

theorem Settled.elected {sw : Switch} (h : sw.Settled)
    (hon : sw.stp.cfg.enabled = true) : ∃ root, sw.Elected root := by
  obtain ⟨env, hrootID, hrootCost, hrootPort, hroles⟩ := h
  obtain ⟨hbr, hroles'⟩ := recomputeLocked_spec env sw hon
  obtain ⟨hown, hleast, horigin⟩ := sw.foldl_selectStep
    (env.range sw.stp.ports.keys) (sw.ownClaim, none)
  generalize hbest : sw.selectRoot (env.range sw.stp.ports.keys) = best at hbr hroles'
  unfold selectRoot at hbest
  rw [hbest] at hown hleast horigin
  have hid : sw.stp.rootID = best.1.rootID := hrootID.symm.trans hbr.rootID
  have hcost : sw.stp.rootCost = best.1.cost := hrootCost.symm.trans hbr.rootCost
  have hp : sw.stp.rootPort = best.2.getD "" := hrootPort.symm.trans hbr.rootPort
  have hle (vector : PriorityVector) (hrank : best.1.rank ≤ vector.rank) :
      sw.stp.rootID ≤ vector.rootID := by
    rw [hid]
    exact rootID_le_of_not_better ((not_better_iff _ _).mpr hrank)
  refine ⟨best.2, ?_, ?_, hle _ hown, ?_, ?_⟩
  · intro hnone
    rcases horigin with rfl | ⟨id, vector, -, rfl⟩
    · exact ⟨hid, hcost⟩
    · cases hnone
  · intro id hroot
    rcases horigin with rfl | ⟨other, vector, hoffers, rfl⟩
    · cases hroot
    · cases hroot
      exact ⟨vector, hoffers, hid, hcost⟩
  · rintro id vector ⟨record, hr, hcand⟩
    have hm := (env.mem_range _ id).mpr ((GoMap.mem_keys_iff _ id).mpr ⟨record, hr⟩)
    exact hle vector (hleast id hm vector ⟨record, hr, hcand⟩)
  · intro id record hr
    obtain ⟨record', hr', hrole⟩ := hroles' id record hr
    have hkept := hroles id record hr
    rw [hr', Option.map_some, Option.some.injEq] at hkept
    rw [← hkept, hrole]
    exact ((sameBridge_setRoot hid hcost hp).computeRole ⟨rfl, rfl, rfl⟩ _ _).symm

theorem candidate_eq_some_iff {sw : Switch} {record : StpPort} {vector : PriorityVector} :
    sw.candidate record = some vector ↔
      record.hasInfo = true ∧ record.info.bridgeID ≠ sw.stp.bridgeID ∧
        vector = { record.info with
          cost := record.info.cost + sw.stpPortCost record } := by
  unfold candidate
  split
  · rename_i hskip
    simp only [Bool.or_eq_true, Bool.not_eq_true', beq_iff_eq] at hskip
    simp only [reduceCtorEq, false_iff]
    rintro ⟨hi, ho, -⟩
    rcases hskip with hnone | hs
    · simp [hi] at hnone
    · exact ho hs
  · rename_i huse
    simp only [Bool.or_eq_true, Bool.not_eq_true', beq_iff_eq, not_or,
      Bool.not_eq_false] at huse
    simp only [Option.some.injEq, huse.1, true_and]
    exact ⟨fun heq => ⟨huse.2, heq.symm⟩, fun h => h.2.symm⟩

theorem stpPortCost_pos (sw : Switch) (record : StpPort) :
    0 < (sw.stpPortCost record).toNat := by
  dsimp only [stpPortCost]
  split
  · rename_i hpos
    simpa [UInt32.lt_iff_toNat_lt] using hpos
  · decide

end Switch

/-! ## Networks -/

/-- Running bridges with their enrolled ports, each attached to a segment.  Path
costs do not reach 2^32 on any way through distinct bridges. -/
structure Network (Bridge Segment : Type) where
  sw : Bridge → Switch
  segment : Bridge × String → Segment
  enabled : ∀ bridge, (sw bridge).stp.cfg.enabled = true
  distinctBridges : Function.Injective fun bridge => (sw bridge).stp.bridgeID
  distinctPorts : ∀ bridge id id' record record',
    (sw bridge).stp.ports.get? id = some record →
      (sw bridge).stp.ports.get? id' = some record' →
        (sw bridge).stpPortID record = (sw bridge).stpPortID record' → id = id'
  bounded : ∀ path : List (Bridge × String), (path.map Prod.fst).Nodup →
    (∀ hop ∈ path, ((sw hop.1).stp.ports.get? hop.2).isSome = true) →
      (path.IsChain fun hop next => ∃ id record,
        (sw next.1).stp.ports.get? id = some record ∧
          segment (next.1, id) = segment hop) →
        (path.map fun hop => (((sw hop.1).stp.ports.get? hop.2).map fun record =>
          ((sw hop.1).stpPortCost record).toNat).getD 0).sum < 2 ^ 32

namespace Network

variable {Bridge Segment : Type} (net : Network Bridge Segment)

def Enrolled (port : Bridge × String) (record : StpPort) : Prop :=
  (net.sw port.1).stp.ports.get? port.2 = some record

def HasRole (port : Bridge × String) (role : Role) : Prop :=
  ∃ record, net.Enrolled port record ∧ record.role = role

/-- A vector that another designated port on the segment advertises. -/
def Heard (port : Bridge × String) (vector : PriorityVector) : Prop :=
  ∃ other record, other ≠ port ∧ net.segment other = net.segment port ∧
    net.Enrolled other record ∧ record.role = .designated ∧
      vector = (net.sw other.1).advertised record

/-- Every bridge has settled, and every port holds the least vector it hears. -/
structure Stable : Prop where
  settled : ∀ bridge, (net.sw bridge).Settled
  silent : ∀ port record, net.Enrolled port record → record.hasInfo = false →
    ∀ vector, ¬ net.Heard port vector
  heard : ∀ port record, net.Enrolled port record → record.hasInfo = true →
    net.Heard port record.info
  least : ∀ port record, net.Enrolled port record → record.hasInfo = true →
    ∀ vector, net.Heard port vector → vector.better record.info = false

def graph (kind : Bridge × String → Prop) : SimpleGraph (Bridge ⊕ Segment) where
  Adj
    | .inl bridge, .inr segment => ∃ id, kind (bridge, id) ∧ net.segment (bridge, id) = segment
    | .inr segment, .inl bridge => ∃ id, kind (bridge, id) ∧ net.segment (bridge, id) = segment
    | _, _ => False
  symm := ⟨by
    rintro (bridge | segment) (bridge' | segment') h
    · exact h
    · exact h
    · exact h
    · exact h⟩
  loopless := ⟨by
    rintro (bridge | segment) h
    · exact h
    · exact h⟩

def IsPort (port : Bridge × String) : Prop := ∃ record, net.Enrolled port record

def Active (port : Bridge × String) : Prop :=
  net.HasRole port .root ∨ net.HasRole port .designated

def attached : SimpleGraph (Bridge ⊕ Segment) := net.graph net.IsPort

def active : SimpleGraph (Bridge ⊕ Segment) := net.graph net.Active

/-! ## Designated ports -/

section Designated

variable {net} {port other : Bridge × String} {record record' : StpPort}

theorem Enrolled.unique (h : net.Enrolled port record) (h' : net.Enrolled port record') :
    record = record' := by
  unfold Enrolled at h h'
  rw [h] at h'
  exact Option.some.inj h'

theorem eq_of_advertised (h : net.Enrolled port record) (h' : net.Enrolled other record')
    (heq : (net.sw port.1).advertised record = (net.sw other.1).advertised record') :
    port = other := by
  simp only [Switch.advertised, PriorityVector.mk.injEq] at heq
  obtain ⟨-, -, hbr, hid⟩ := heq
  obtain ⟨bridge, id⟩ := port
  obtain ⟨bridge', id'⟩ := other
  obtain rfl : bridge = bridge' := net.distinctBridges hbr
  exact congrArg _ (net.distinctPorts bridge id id' record record' h h' hid)

theorem role_of_silent {root : Option String} (helected : (net.sw port.1).Elected root)
    (h : net.Enrolled port record) (hsilent : record.hasInfo = false) :
    record.role = .designated := by
  rw [helected.role _ _ h]
  unfold computeRole
  split
  · rename_i hroot
    obtain ⟨vector, ⟨found, hf, hcand⟩, -⟩ := helected.follows _ hroot
    obtain rfl := Enrolled.unique h hf
    obtain ⟨hi, -⟩ := candidate_eq_some_iff.mp hcand
    simp [hsilent] at hi
  · simp [designatedLocked, hsilent]

theorem better_of_designated {root : Option String}
    (helected : (net.sw port.1).Elected root) (h : net.Enrolled port record)
    (hrole : record.role = .designated) (hi : record.hasInfo = true) :
    ((net.sw port.1).advertised record).better record.info = true := by
  rw [helected.role _ _ h] at hrole
  unfold computeRole at hrole
  split at hrole
  · cases hrole
  split at hrole
  · rename_i hdes
    simpa [designatedLocked, hi] using hdes
  · cases hrole

namespace Stable

variable (h : net.Stable)

include h

theorem elected (bridge : Bridge) : ∃ root, (net.sw bridge).Elected root :=
  (h.settled bridge).elected (net.enabled bridge)

theorem exists_designated (hp : net.Enrolled port record) :
    ∃ owner, net.segment owner = net.segment port ∧ net.HasRole owner .designated := by
  obtain ⟨root, helected⟩ := h.elected port.1
  cases hi : record.hasInfo with
  | false => exact ⟨port, rfl, record, hp, role_of_silent helected hp hi⟩
  | true =>
    obtain ⟨owner, found, -, hseg, hf, hrole, -⟩ := h.heard port record hp hi
    exact ⟨owner, hseg, found, hf, hrole⟩

/-- Of two designated ports on a segment the worse one would hear the better. -/
private theorem not_better (hp : net.Enrolled port record) (ho : net.Enrolled other record')
    (hrole : record.role = .designated) (hrole' : record'.role = .designated)
    (hseg : net.segment other = net.segment port) (hne : other ≠ port) :
    ((net.sw other.1).advertised record').better
      ((net.sw port.1).advertised record) = false := by
  obtain ⟨root, helected⟩ := h.elected port.1
  have hheard : net.Heard port ((net.sw other.1).advertised record') :=
    ⟨other, record', hne, hseg, ho, hrole', rfl⟩
  cases hi : record.hasInfo with
  | false => exact absurd hheard (h.silent port record hp hi _)
  | true =>
    have hmine := better_of_designated helected hp hrole hi
    have hleast := h.least port record hp hi _ hheard
    rw [better_iff] at hmine
    rw [not_better_iff] at hleast ⊢
    exact hmine.le.trans hleast

theorem designated_unique (hp : net.HasRole port .designated)
    (ho : net.HasRole other .designated)
    (hseg : net.segment other = net.segment port) : other = port := by
  obtain ⟨record, hr, hrole⟩ := hp
  obtain ⟨record', hr', hrole'⟩ := ho
  by_contra hne
  have hfst := h.not_better hr hr' hrole hrole' hseg hne
  have hsnd := h.not_better hr' hr hrole' hrole hseg.symm (Ne.symm hne)
  rw [not_better_iff] at hfst hsnd
  exact hne (eq_of_advertised hr' hr (rank_injective (le_antisymm hsnd hfst)))

/-- A port that is not designated holds what the designated port advertises. -/
theorem info_eq {owner : Bridge × String} {found : StpPort} (hp : net.Enrolled port record)
    (howner : net.Enrolled owner found) (hrole : found.role = .designated)
    (hseg : net.segment owner = net.segment port) (hne : owner ≠ port) :
    record.hasInfo = true ∧ record.info = (net.sw owner.1).advertised found := by
  have hi : record.hasInfo = true := by
    by_contra hsilent
    exact h.silent port record hp (Bool.eq_false_iff.mpr hsilent) _
      ⟨owner, found, hne, hseg, howner, hrole, rfl⟩
  obtain ⟨speaker, spoken, -, hspeaker, hspoken, hspokenRole, heq⟩ :=
    h.heard port record hp hi
  obtain rfl : speaker = owner := h.designated_unique ⟨found, howner, hrole⟩
    ⟨spoken, hspoken, hspokenRole⟩ (hspeaker.trans hseg.symm)
  obtain rfl := Enrolled.unique howner hspoken
  exact ⟨hi, heq⟩

/-! ## Agreement on the root -/

theorem rootID_eq {owner : Bridge × String} (hp : net.Enrolled port record)
    (howner : net.HasRole owner .designated) (hseg : net.segment owner = net.segment port) :
    (net.sw port.1).stp.rootID = (net.sw owner.1).stp.rootID := by
  by_cases hne : owner = port
  · rw [hne]
  obtain ⟨found, hf, hrole⟩ := howner
  obtain ⟨hi, heq⟩ := h.info_eq hp hf hrole hseg hne
  obtain ⟨root, helected⟩ := h.elected port.1
  have hcand (ho : record.info.bridgeID ≠ (net.sw port.1).stp.bridgeID) :
      (net.sw port.1).stp.rootID ≤ (net.sw owner.1).stp.rootID := by
    have hoffers := helected.least port.2 _
      ⟨record, hp, candidate_eq_some_iff.mpr ⟨hi, ho, rfl⟩⟩
    rw [heq] at hoffers
    exact hoffers
  have hroleEq := helected.role _ _ hp
  unfold computeRole at hroleEq
  split at hroleEq
  · -- The root port takes its root from the designated port.
    rename_i hroot
    obtain ⟨vector, ⟨stored, hstored, hoffer⟩, hrootID, -⟩ := helected.follows _ hroot
    obtain rfl := Enrolled.unique hp hstored
    obtain ⟨-, -, rfl⟩ := candidate_eq_some_iff.mp hoffer
    rw [hrootID, heq]
    rfl
  · split at hroleEq
    · -- Two designated ports on one segment.
      exact absurd (h.designated_unique ⟨record, hp, hroleEq⟩ ⟨found, hf, hrole⟩ hseg) hne
    rename_i hnot
    have hworse : ((net.sw port.1).advertised record).better record.info = false := by
      simpa [designatedLocked, hi] using hnot
    have hle := rootID_le_of_not_better hworse
    rw [heq] at hle
    by_cases hself : record.info.bridgeID = (net.sw port.1).stp.bridgeID
    · rw [heq] at hself
      rw [net.distinctBridges hself]
    · exact UInt64.le_antisymm (hcand hself) hle

/-- The root port leads to the designated bridge of its segment. -/
theorem follows_owner {bridge : Bridge} {root : Option String} {id : String}
    (helected : (net.sw bridge).Elected root) (hroot : root = some id) :
    ∃ record owner, net.Enrolled (bridge, id) record ∧
      net.segment owner = net.segment (bridge, id) ∧ net.HasRole owner .designated ∧
        (net.sw bridge).stp.rootCost = (net.sw owner.1).stp.rootCost +
          (net.sw bridge).stpPortCost record := by
  obtain ⟨vector, ⟨record, hr, hcand⟩, -, hcost⟩ := helected.follows id hroot
  obtain ⟨hi, -, rfl⟩ := candidate_eq_some_iff.mp hcand
  obtain ⟨owner, found, -, hseg, hf, hrole, heq⟩ := h.heard (bridge, id) record hr hi
  refine ⟨record, owner, hr, hseg, ⟨found, hf, hrole⟩, ?_⟩
  rw [hcost, heq]
  rfl

end Stable

end Designated

/-! ## The tree -/

open Classical in
noncomputable def owner (segment : Segment) : Option (Bridge × String) :=
  if h : ∃ port, net.segment port = segment ∧ net.HasRole port .designated then
    some h.choose
  else none

variable {net}

variable {port : Bridge × String}

theorem owner_spec {segment : Segment} (h : net.owner segment = some port) :
    net.segment port = segment ∧ net.HasRole port .designated := by
  unfold owner at h
  split at h
  · rename_i hexists
    cases h
    exact hexists.choose_spec
  · cases h

theorem Stable.owner_eq (h : net.Stable)
    (hp : net.HasRole port .designated) : net.owner (net.segment port) = some port := by
  unfold owner
  have hexists : ∃ other, net.segment other = net.segment port ∧
      net.HasRole other .designated := ⟨port, rfl, hp⟩
  rw [dif_pos hexists, h.designated_unique hp hexists.choose_spec.2 hexists.choose_spec.1]

section Pointers

variable (net) (root : Bridge → Option String)

noncomputable def upstream (bridge : Bridge) : Option Bridge :=
  (root bridge).bind fun id => (net.owner (net.segment (bridge, id))).map Prod.fst

noncomputable def parent : Bridge ⊕ Segment → Option (Bridge ⊕ Segment)
  | .inl bridge => (root bridge).map fun id => .inr (net.segment (bridge, id))
  | .inr segment => (net.owner segment).map fun port => .inl port.1

/-- What a bridge, or the designated bridge of a segment, takes for the root. -/
noncomputable def believed : Bridge ⊕ Segment → Option UInt64
  | .inl bridge => some (net.sw bridge).stp.rootID
  | .inr segment => (net.owner segment).map fun port => (net.sw port.1).stp.rootID

def rootPortCost (bridge : Bridge) : ℕ :=
  ((root bridge).bind fun id => ((net.sw bridge).stp.ports.get? id).map fun record =>
    ((net.sw bridge).stpPortCost record).toNat).getD 0

end Pointers

section Tree

variable {root : Bridge → Option String} (h : net.Stable)
  (helected : ∀ bridge, (net.sw bridge).Elected (root bridge))

include helected

theorem root_of_role (hrole : net.HasRole port .root) : root port.1 = some port.2 := by
  obtain ⟨record, hr, hrole⟩ := hrole
  rw [(helected port.1).role _ _ hr] at hrole
  unfold computeRole at hrole
  split at hrole
  · assumption
  split at hrole
  · cases hrole
  · cases hrole

include h

theorem upstream_eq_some {bridge above : Bridge}
    (hup : net.upstream root bridge = some above) :
    ∃ id record owner, root bridge = some id ∧ net.Enrolled (bridge, id) record ∧
      net.segment owner = net.segment (bridge, id) ∧ net.HasRole owner .designated ∧
        owner.1 = above ∧ (net.sw bridge).stp.rootCost =
          (net.sw above).stp.rootCost + (net.sw bridge).stpPortCost record := by
  obtain ⟨id, hroot, hmap⟩ := Option.bind_eq_some_iff.mp hup
  obtain ⟨record, owner, hr, hseg, howner, hcost⟩ := h.follows_owner (helected bridge) hroot
  have howned := h.owner_eq howner
  rw [hseg] at howned
  rw [howned, Option.map_some, Option.some.injEq] at hmap
  exact ⟨id, record, owner, hroot, hr, hseg, howner, hmap, hmap ▸ hcost⟩

private theorem rootPortCost_eq {bridge : Bridge} (hup : net.upstream root bridge ≠ none) :
    ∃ id record, root bridge = some id ∧ net.Enrolled (bridge, id) record ∧
      net.rootPortCost root bridge = ((net.sw bridge).stpPortCost record).toNat := by
  obtain ⟨above, habove⟩ := Option.ne_none_iff_exists'.mp hup
  obtain ⟨id, record, -, hroot, hr, -⟩ := upstream_eq_some h helected habove
  refine ⟨id, record, hroot, hr, ?_⟩
  have hf : (net.sw bridge).stp.ports.get? id = some record := hr
  simp [rootPortCost, hroot, hf]

/-- Root ports along distinct bridges make up a path. -/
private theorem rootPortCost_sum_lt {path : List Bridge}
    (hch : path.IsChain fun bridge above => net.upstream root bridge = some above)
    (hsome : ∀ bridge ∈ path, net.upstream root bridge ≠ none) (hnodup : path.Nodup) :
    (path.map (net.rootPortCost root)).sum < 2 ^ 32 := by
  have hbounded := net.bounded (path.map fun bridge => (bridge, (root bridge).getD ""))
  rw [List.map_map, List.map_map, List.isChain_map] at hbounded
  have hcosts : path.map (net.rootPortCost root) = path.map ((fun hop : Bridge × String =>
      (((net.sw hop.1).stp.ports.get? hop.2).map fun record =>
        ((net.sw hop.1).stpPortCost record).toNat).getD 0) ∘
          fun bridge => (bridge, (root bridge).getD "")) := by
    refine List.map_congr_left fun bridge hm => ?_
    obtain ⟨id, record, hroot, hr, hcost⟩ := rootPortCost_eq h helected (hsome bridge hm)
    have hf : (net.sw bridge).stp.ports.get? id = some record := hr
    simp [hcost, hroot, hf]
  rw [hcosts]
  refine hbounded ?_ ?_ (hch.imp fun bridge above hup => ?_)
  · simpa [Function.comp_def] using hnodup
  · intro hop hhop
    obtain ⟨bridge, hm, rfl⟩ := List.mem_map.mp hhop
    obtain ⟨id, record, hroot, hr, -⟩ := rootPortCost_eq h helected (hsome bridge hm)
    have hf : (net.sw bridge).stp.ports.get? id = some record := hr
    simp [hroot, hf]
  · obtain ⟨id, -, owner, hroot, -, hseg, ⟨found, hf, -⟩, rfl, -⟩ :=
      upstream_eq_some h helected hup
    exact ⟨owner.2, found, hf, by rw [hroot]; exact hseg⟩

theorem exists_bridge_rank [Finite Bridge] :
    ∃ rank : Bridge → ℕ, ∀ bridge above, net.upstream root bridge = some above →
      rank above < rank bridge := by
  refine exists_rank (next_eq_none_of_periodic
    (fun bridge => (net.sw bridge).stp.rootCost.toNat) (net.rootPortCost root) (2 ^ 32)
    (fun bridge above hup => ?_) (fun bridge above hup => ?_)
    fun path hch hsome hnodup => rootPortCost_sum_lt h helected hch hsome hnodup)
  · obtain ⟨id, record, -, hroot, hr, -, -, -, hcost⟩ := upstream_eq_some h helected hup
    have hf : (net.sw bridge).stp.ports.get? id = some record := hr
    simp only [hcost, UInt32.toNat_add, rootPortCost, hroot, hf, Option.bind_some,
      Option.map_some, Option.getD_some]
    exact Nat.mod_modEq _ _
  · have hsome : net.upstream root bridge ≠ none := by simp [hup]
    obtain ⟨id, record, -, -, hcost⟩ := rootPortCost_eq h helected hsome
    rw [hcost]
    exact stpPortCost_pos _ _

theorem role_of_root {bridge : Bridge} {id : String} (hroot : root bridge = some id) :
    net.HasRole (bridge, id) .root := by
  obtain ⟨record, -, hr, -⟩ := h.follows_owner (helected bridge) hroot
  refine ⟨record, hr, ?_⟩
  rw [(helected bridge).role _ _ hr]
  simp [computeRole, hroot]

theorem parent_of_adj (vertex other : Bridge ⊕ Segment) (hadj : net.active.Adj vertex other) :
    net.parent root vertex = some other ∨ net.parent root other = some vertex := by
  have hp (port : Bridge × String) (hactive : net.Active port) :
      net.parent root (.inl port.1) = some (.inr (net.segment port)) ∨
        net.parent root (.inr (net.segment port)) = some (.inl port.1) := by
    rcases hactive with hroot | hdes
    · left
      simp [parent, root_of_role helected hroot]
    · right
      simp [parent, h.owner_eq hdes]
  rcases vertex with bridge | segment <;> rcases other with bridge' | segment'
  · exact absurd hadj id
  · obtain ⟨id, hactive, rfl⟩ := hadj
    exact hp (bridge, id) hactive
  · obtain ⟨id, hactive, rfl⟩ := hadj
    exact (hp (bridge', id) hactive).symm
  · exact absurd hadj id

theorem adj_of_parent (vertex above : Bridge ⊕ Segment)
    (hparent : net.parent root vertex = some above) : net.active.Adj vertex above := by
  rcases vertex with bridge | segment
  · obtain ⟨id, hroot, rfl⟩ := Option.map_eq_some_iff.mp hparent
    exact ⟨id, .inl (role_of_root h helected hroot), rfl⟩
  obtain ⟨port, howner, rfl⟩ := Option.map_eq_some_iff.mp hparent
  obtain ⟨hseg, hdes⟩ := owner_spec howner
  exact ⟨port.2, .inr hdes, hseg⟩

/-- Segments lie between their designated bridge and the bridges below. -/
theorem exists_parent_rank [Finite Bridge] :
    ∃ rank : Bridge ⊕ Segment → ℕ, ∀ vertex above,
      net.parent root vertex = some above → rank above < rank vertex := by
  obtain ⟨rank, hrank⟩ := exists_bridge_rank h helected
  refine ⟨Sum.elim (fun bridge => 2 * rank bridge) fun segment =>
    ((net.owner segment).map fun port => 2 * rank port.1 + 1).getD 0, ?_⟩
  rintro (bridge | segment) above hparent
  · obtain ⟨id, hroot, rfl⟩ := Option.map_eq_some_iff.mp hparent
    obtain ⟨-, owner, -, hseg, hdes, -⟩ := h.follows_owner (helected bridge) hroot
    have howner := h.owner_eq hdes
    rw [hseg] at howner
    have hlt := hrank bridge owner.1 (by simp [upstream, hroot, howner])
    simp only [Sum.elim_inl, Sum.elim_inr, howner, Option.map_some, Option.getD_some]
    omega
  · obtain ⟨port, howner, rfl⟩ := Option.map_eq_some_iff.mp hparent
    simp [howner]

/-! ## Components -/

omit h helected in
theorem active_le_attached : net.active ≤ net.attached := by
  have hp {port : Bridge × String} (hactive : net.Active port) : net.IsPort port := by
    rcases hactive with ⟨record, hr, -⟩ | ⟨record, hr, -⟩
    · exact ⟨record, hr⟩
    · exact ⟨record, hr⟩
  rintro (bridge | segment) (bridge' | segment') hadj
  · exact hadj
  · obtain ⟨id, hactive, hseg⟩ := hadj
    exact ⟨id, hp hactive, hseg⟩
  · obtain ⟨id, hactive, hseg⟩ := hadj
    exact ⟨id, hp hactive, hseg⟩
  · exact hadj

omit h helected in
/-- An equivalence that joins every port's bridge to its segment joins all that
is attached. -/
theorem related_of_attached {related : Bridge ⊕ Segment → Bridge ⊕ Segment → Prop}
    (hrelated : Equivalence related)
    (hp : ∀ port, net.IsPort port → related (.inl port.1) (.inr (net.segment port)))
    {vertex other : Bridge ⊕ Segment} (hreach : net.attached.Reachable vertex other) :
    related vertex other := by
  obtain ⟨walk⟩ := hreach
  induction walk with
  | nil => exact hrelated.refl _
  | @cons first second _ hadj _ ih =>
    refine hrelated.trans ?_ ih
    rcases first with bridge | segment <;> rcases second with bridge' | segment'
    · exact absurd hadj id
    · obtain ⟨id, hid, rfl⟩ := hadj
      exact hp _ hid
    · obtain ⟨id, hid, rfl⟩ := hadj
      exact hrelated.symm (hp _ hid)
    · exact absurd hadj id

omit helected in
theorem believed_eq {vertex other : Bridge ⊕ Segment}
    (hreach : net.attached.Reachable vertex other) :
    net.believed vertex = net.believed other := by
  refine related_of_attached (eq_equivalence.comap net.believed) ?_ hreach
  rintro port ⟨record, hr⟩
  obtain ⟨owner, hseg, hdes⟩ := h.exists_designated hr
  have howner := h.owner_eq hdes
  rw [hseg] at howner
  simp [Function.onFun, believed, howner, h.rootID_eq hr hdes hseg]

theorem exists_root_bridge [Finite Bridge] (bridge : Bridge) :
    ∃ top, net.active.Reachable (.inl bridge) (.inl top) ∧
      (net.sw top).stp.bridgeID = (net.sw bridge).stp.rootID := by
  obtain ⟨rank, hrank⟩ := exists_parent_rank h helected
  obtain ⟨top, htop, hreach⟩ := exists_top hrank (adj_of_parent h helected) (.inl bridge)
  have hbelieved := believed_eq h (hreach.mono active_le_attached)
  rcases top with top | segment
  · have hroot : root top = none := Option.map_eq_none_iff.mp htop
    simp only [believed, Option.some.injEq] at hbelieved
    exact ⟨top, hreach, by rw [hbelieved, ((helected top).claims hroot).1]⟩
  · have howner : net.owner segment = none := Option.map_eq_none_iff.mp htop
    simp [believed, howner] at hbelieved

theorem active_reachable [Finite Bridge] {vertex other : Bridge ⊕ Segment}
    (hreach : net.attached.Reachable vertex other) : net.active.Reachable vertex other := by
  refine related_of_attached net.active.reachable_is_equivalence ?_ hreach
  rintro port ⟨record, hr⟩
  obtain ⟨owner, hseg, hdes⟩ := h.exists_designated hr
  obtain ⟨top, hbr, htop⟩ := exists_root_bridge h helected port.1
  obtain ⟨top', howner, htop'⟩ := exists_root_bridge h helected owner.1
  rw [h.rootID_eq hr hdes hseg, ← htop'] at htop
  obtain rfl : top = top' := net.distinctBridges htop
  have hedge : net.active.Adj (.inl owner.1) (.inr (net.segment port)) :=
    ⟨owner.2, .inr hdes, hseg⟩
  exact hbr.trans (howner.symm.trans hedge.reachable)

omit h in
theorem eq_of_root_of_designated (h : net.Stable) {other : Bridge × String}
    (hroot : net.HasRole port .root) (hdes : net.HasRole other .designated)
    (hbr : port.1 = other.1) (hseg : net.segment port = net.segment other) :
    port = other := by
  by_contra hne
  obtain ⟨vector, ⟨record, hr, hcand⟩, -⟩ :=
    (helected port.1).follows port.2 (root_of_role helected hroot)
  obtain ⟨-, hforeign, -⟩ := candidate_eq_some_iff.mp hcand
  obtain ⟨found, hf, hrole⟩ := hdes
  obtain ⟨-, hi⟩ := h.info_eq hr hf hrole hseg.symm (Ne.symm hne)
  rw [hi] at hforeign
  exact hforeign (by rw [hbr]; rfl)

end Tree

/-- One designated port on each segment, one root in each component, and the
active ports as a spanning tree of each component. -/
structure SpansTree (net : Network Bridge Segment) : Prop where
  designated : ∀ segment, (∃ port, net.IsPort port ∧ net.segment port = segment) →
    ∃! port, net.segment port = segment ∧ net.HasRole port .designated
  agreed : ∀ bridge other, net.attached.Reachable (.inl bridge) (.inl other) →
    (net.sw bridge).stp.rootID = (net.sw other).stp.rootID
  least : ∀ bridge, IsLeast
    {id | ∃ other, net.attached.Reachable (.inl bridge) (.inl other) ∧
      (net.sw other).stp.bridgeID = id} (net.sw bridge).stp.rootID
  tree : ∀ component : net.attached.ConnectedComponent,
    (net.active.induce component.supp).IsTree
  simple : ∀ port other, net.Active port → net.Active other → port.1 = other.1 →
    net.segment port = net.segment other → port = other

/-! ## Two bridges with two links -/

def linkedHeap : Ptr → PortEntry := fun ptr =>
  { nullEntry with portNum := UInt16.ofNat ptr }

def linkedBridge (instanceID : UInt64) (rootCost : UInt32) (rootPort : String)
    (first second : StpPort) : Switch :=
  { newSwitch instanceID with
    heap := linkedHeap
    stp := { newSTPBridge instanceID with
      cfg := { defaultStpConfig with enabled := true }
      rootID := 0x8000020000000001
      rootCost := rootCost
      rootPort := rootPort
      ports := ⟨[("x", first), ("y", second)], by simp⟩ } }

/-- The root bridge is designated on both links; the other bridge follows it on
one link and blocks the second. -/
def linkedSwitch : Bool → Switch
  | false => linkedBridge 1 0 "" ⟨1, .designated, false, ⟨0, 0, 0, 0⟩, 0, 0⟩
      ⟨2, .designated, false, ⟨0, 0, 0, 0⟩, 0, 0⟩
  | true => linkedBridge 2 100 "x"
      ⟨1, .root, true, ⟨0x8000020000000001, 0, 0x8000020000000001, 0x8001⟩, 0, 0⟩
      ⟨2, .blocked, true, ⟨0x8000020000000001, 0, 0x8000020000000001, 0x8002⟩, 0, 0⟩

private theorem linkedPorts {bridge : Bool} {id : String} {record : StpPort}
    (h : (linkedSwitch bridge).stp.ports.get? id = some record) : id = "x" ∨ id = "y" := by
  have hm := (GoMap.get?_eq_some_iff _ _ _).mp h
  cases bridge <;>
    · simp only [linkedSwitch, linkedBridge, List.mem_cons, Prod.mk.injEq,
        List.not_mem_nil, or_false] at hm
      rcases hm with ⟨hid, -⟩ | ⟨hid, -⟩
      · exact .inl hid
      · exact .inr hid

def linkedNetwork : Network Bool String where
  sw := linkedSwitch
  segment := Prod.snd
  enabled := by
    intro bridge
    cases bridge
    · rfl
    · rfl
  distinctBridges := by
    intro first second heq
    revert first second
    decide
  distinctPorts := by
    intro bridge id id' record record' hrecord hrecord' heq
    rcases linkedPorts hrecord with rfl | rfl <;> rcases linkedPorts hrecord' with rfl | rfl
    · rfl
    · cases bridge <;> cases hrecord <;> cases hrecord' <;> exact absurd heq (by decide)
    · cases bridge <;> cases hrecord <;> cases hrecord' <;> exact absurd heq (by decide)
    · rfl
  bounded := by
    intro path hnodup _ _
    have hlength : path.length ≤ 2 := by
      simpa using hnodup.length_le_card
    refine lt_of_le_of_lt (List.sum_le_card_nsmul _ 100 ?_) ?_
    · intro cost hcost
      obtain ⟨hop, -, rfl⟩ := List.mem_map.mp hcost
      cases (linkedSwitch hop.1).stp.ports.get? hop.2 with
      | none => exact Nat.zero_le _
      | some record =>
        cases hop.1
        · exact le_rfl
        · exact le_rfl
    · simp only [List.length_map, smul_eq_mul]
      omega

private theorem linkedHeard {bridge : Bool} {id : String} {vector : PriorityVector}
    (h : linkedNetwork.Heard (bridge, id) vector) :
    bridge = true ∧ ∀ record, linkedNetwork.Enrolled (true, id) record →
      vector = record.info := by
  obtain ⟨⟨other, id'⟩, record, hne, rfl, hr, hrole, rfl⟩ := h
  have ho : other = false := by
    cases other with
    | false => rfl
    | true =>
      rcases linkedPorts hr with hid | hid <;> simp only at hid <;> subst hid <;>
        cases hr <;> cases hrole
  subst ho
  refine ⟨?_, fun record' hr' => ?_⟩
  · cases bridge with
    | false => exact absurd rfl hne
    | true => rfl
  · rcases linkedPorts hr with hid | hid <;> simp only at hid <;> subst hid <;>
      cases hr <;> cases hr' <;> decide

private theorem linkedHeard_info {id : String} {record : StpPort}
    (h : linkedNetwork.Enrolled (true, id) record) :
    linkedNetwork.Heard (true, id) record.info := by
  rcases linkedPorts h with hid | hid <;> simp only at hid <;> subst hid <;> cases h
  · exact ⟨(false, "x"), _, by simp, rfl, rfl, rfl, by decide⟩
  · exact ⟨(false, "y"), _, by simp, rfl, rfl, rfl, by decide⟩

theorem linkedNetwork_stable : linkedNetwork.Stable where
  settled := by
    intro bridge
    refine ⟨steadyEnv 0, ?_, ?_, ?_, fun id record hr => ?_⟩
    · cases bridge <;> rfl
    · cases bridge <;> rfl
    · cases bridge <;> rfl
    · rcases linkedPorts hr with rfl | rfl <;> cases bridge <;> cases hr <;> rfl
  silent := by
    rintro ⟨bridge, id⟩ record hr hsilent vector hheard
    obtain ⟨rfl, -⟩ := linkedHeard hheard
    rcases linkedPorts hr with hid | hid <;> simp only at hid <;> subst hid <;>
      cases hr <;> cases hsilent
  heard := by
    rintro ⟨bridge, id⟩ record hr hi
    cases bridge with
    | true => exact linkedHeard_info hr
    | false =>
      rcases linkedPorts hr with hid | hid <;> simp only at hid <;> subst hid <;>
        cases hr <;> cases hi
  least := by
    rintro ⟨bridge, id⟩ record hr hi vector hheard
    obtain ⟨rfl, hvector⟩ := linkedHeard hheard
    rw [hvector record hr, not_better_iff]

theorem stable_spansTree [Finite Bridge] (h : net.Stable) : net.SpansTree := by
  choose root helected using h.elected
  have hagreed (bridge other : Bridge)
      (hreach : net.attached.Reachable (.inl bridge) (.inl other)) :
      (net.sw bridge).stp.rootID = (net.sw other).stp.rootID :=
    Option.some.inj (believed_eq h hreach)
  refine ⟨?_, hagreed, ?_, ?_, ?_⟩
  · rintro segment ⟨port, ⟨record, hr⟩, rfl⟩
    obtain ⟨owner, hseg, hdes⟩ := h.exists_designated hr
    refine ⟨owner, ⟨hseg, hdes⟩, ?_⟩
    rintro other ⟨ho, hotherRole⟩
    exact h.designated_unique hdes hotherRole (ho.trans hseg.symm)
  · intro bridge
    constructor
    · obtain ⟨top, hreach, htop⟩ := exists_root_bridge h helected bridge
      exact ⟨top, hreach.mono active_le_attached, htop⟩
    · rintro id ⟨other, hreach, rfl⟩
      rw [hagreed bridge other hreach]
      exact (helected other).own
  · intro component
    obtain ⟨rank, hrank⟩ := exists_parent_rank h helected
    have hacyclic : net.active.IsAcyclic :=
      isAcyclic_of_parent hrank (parent_of_adj h helected)
    refine ⟨?_, hacyclic.induce _⟩
    -- The component is one of the active graph, too.
    obtain ⟨vertex, rfl⟩ := component.exists_rep
    have hsupp : (net.attached.connectedComponentMk vertex).supp =
        (net.active.connectedComponentMk vertex).supp := by
      ext other
      simp only [SimpleGraph.ConnectedComponent.mem_supp_iff,
        SimpleGraph.ConnectedComponent.eq]
      exact ⟨active_reachable h helected, fun hreach => hreach.mono active_le_attached⟩
    change (net.active.induce (net.attached.connectedComponentMk vertex).supp).Connected
    rw [hsupp]
    exact (net.active.connectedComponentMk vertex).connected_toSimpleGraph
  · intro port other hp ho hbr hseg
    rcases hp with hroot | hdes <;> rcases ho with hroot' | hdes'
    · have hid := (root_of_role helected hroot).symm.trans
        (hbr ▸ root_of_role helected hroot')
      exact Prod.ext hbr (Option.some.inj hid)
    · exact eq_of_root_of_designated helected h hroot hdes' hbr hseg
    · exact (eq_of_root_of_designated helected h hroot' hdes hbr.symm hseg.symm).symm
    · exact h.designated_unique hdes' hdes hseg

theorem stable_spansTree_linked : linkedNetwork.Stable ∧ linkedNetwork.SpansTree :=
  ⟨linkedNetwork_stable, stable_spansTree linkedNetwork_stable⟩

end Network

end GvSwitch.SwitchCore
