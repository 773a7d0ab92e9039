import GvSwitch.SwitchCore.Redundancy

/-!
# The root election

`recomputeLocked` ranges over the port map twice, in orders the runtime chooses.
The comparison is strict, so the first of several ports that offer the best
vector becomes the root port.  The cost of a candidate is a sum of 32 bits.
-/

namespace GvSwitch.SwitchCore

open Foundation World Switch PriorityVector

variable {vector : PriorityVector} {order : List String}

namespace Switch

/-! ## The winning vector -/

section Winning

variable {sw : Switch} {id : String} {vector : PriorityVector}

def Wins (sw : Switch) (id : String) (vector : PriorityVector) : Prop :=
  sw.Offers id vector ∧ vector.rank < sw.ownClaim.rank ∧
    ∀ other candidate, sw.Offers other candidate → vector.rank ≤ candidate.rank

theorem Offers.unique {other : PriorityVector} (h : sw.Offers id vector)
    (h' : sw.Offers id other) : vector = other := by
  obtain ⟨record, hr, hcand⟩ := h
  obtain ⟨found, hf, hcand'⟩ := h'
  rw [hr] at hf
  cases hf
  rw [hcand] at hcand'
  cases hcand'
  rfl

theorem Wins.unique {other : String} {candidate : PriorityVector}
    (h : sw.Wins id vector) (h' : sw.Wins other candidate) : vector = candidate :=
  rank_injective (le_antisymm (h.2.2 other candidate h'.1) (h'.2.2 id vector h.1))

theorem selectRoot_cases (horder : order.Perm sw.stp.ports.keys) :
    (sw.selectRoot order = (sw.ownClaim, none) ∧
        ∀ id vector, ¬ sw.Wins id vector) ∨
      ∃ id vector, sw.Wins id vector ∧
        sw.selectRoot order = (vector, some id) := by
  obtain ⟨hown, hleast, horigin⟩ := sw.selectRoot_spec horder
  rcases horigin with hs | ⟨id, vector, hoffers, hs⟩
  · refine .inl ⟨hs, fun id vector hwins => ?_⟩
    have hle := hleast id vector hwins.1
    rw [hs] at hle
    exact absurd hle (not_le.mpr hwins.2.1)
  · rw [hs] at hown hleast
    have hne : vector.rank ≠ sw.ownClaim.rank := fun heq =>
      ne_ownClaim_of_offers hoffers (rank_injective heq)
    exact .inr ⟨id, vector, ⟨hoffers, lt_of_le_of_ne hown hne, hleast⟩, hs⟩

theorem foldl_selectStep_of_le {best : PriorityVector × Option String}
    (h : ∀ id vector, sw.Offers id vector → best.1.rank ≤ vector.rank) :
    order.foldl sw.selectStep best = best := by
  induction order with
  | nil => rfl
  | cons id rest ih =>
    rw [List.foldl_cons]
    rcases sw.selectStep_cases best id with ⟨hkept, -⟩ | ⟨vector, hoffers, hlt, -⟩
    · rw [hkept]
      exact ih
    · exact absurd (h id vector hoffers) (not_le.mpr hlt)

theorem Wins.selectRoot_cons (h : sw.Wins id vector) (rest : List String) :
    sw.selectRoot (id :: rest) = (vector, some id) := by
  have hfst : sw.selectStep (sw.ownClaim, none) id = (vector, some id) := by
    rcases sw.selectStep_cases (sw.ownClaim, none) id with
      ⟨-, hworse⟩ | ⟨other, hoffers, -, htaken⟩
    · exact absurd (hworse vector h.1) (not_le.mpr h.2.1)
    · rw [htaken, h.1.unique hoffers]
  unfold selectRoot
  rw [List.foldl_cons, hfst]
  exact foldl_selectStep_of_le h.2.2

end Winning

/-! ## The order of the visits -/

def RootTied (sw : Switch) : Prop :=
  sw.stp.cfg.enabled = true ∧ ∃ first second vector, first ≠ second ∧
    sw.Wins first vector ∧ sw.Wins second vector

structure Visit (sw : Switch) where
  selecting : List String
  assigning : List String
  selecting_perm : selecting.Perm sw.stp.ports.keys
  assigning_perm : assigning.Perm sw.stp.ports.keys

def Visit.recompute {sw : Switch} (visit : Visit sw) : Switch :=
  sw.recomputeIn visit.selecting visit.assigning

structure SameTree (first second : Switch) : Prop where
  rootID : second.stp.rootID = first.stp.rootID
  rootCost : second.stp.rootCost = first.stp.rootCost
  rootPort : second.stp.rootPort = first.stp.rootPort
  record : ∀ id, second.stp.ports.get? id = first.stp.ports.get? id
  state : ∀ id record, first.stp.ports.get? id = some record →
    (second.entry record.entry).stpState = (first.entry record.entry).stpState

section Visits

variable {sw : Switch}

theorem selectRoot_eq_of_not_tied (hon : sw.stp.cfg.enabled = true)
    (huntied : ¬ sw.RootTied) {order' : List String} (horder : order.Perm sw.stp.ports.keys)
    (horder' : order'.Perm sw.stp.ports.keys) :
    sw.selectRoot order' = sw.selectRoot order := by
  rcases selectRoot_cases horder with ⟨hown, hnone⟩ | ⟨id, vector, hwins, hs⟩
  · rcases selectRoot_cases horder' with ⟨hown', -⟩ | ⟨id, vector, hwins, -⟩
    · rw [hown, hown']
    · exact absurd hwins (hnone id vector)
  rcases selectRoot_cases horder' with ⟨-, hnone⟩ | ⟨other, candidate, hwins', hs'⟩
  · exact absurd hwins (hnone id vector)
  have hvector := hwins.unique hwins'
  subst hvector
  have hid : id = other := by
    by_contra hne
    exact huntied ⟨hon, id, other, vector, hne, hwins, hwins'⟩
  rw [hs, hs', hid]

theorem Visit.recompute_of_disabled (hoff : ¬ sw.stp.cfg.enabled = true)
    (visit : Visit sw) : visit.recompute = sw := by
  unfold Visit.recompute recomputeIn
  rw [if_pos (by simpa using hoff)]

/-- The order in which the roles are assigned plays no part. -/
theorem sameTree_of_selectRoot (hn : Named sw)
    (hon : sw.stp.cfg.enabled = true) {first second : Visit sw}
    (hs : sw.selectRoot second.selecting = sw.selectRoot first.selecting) :
    SameTree first.recompute second.recompute := by
  have hfr := (recomputeIn_frame hn hon first.selecting first.assigning).1
  have hfr' := (recomputeIn_frame hn hon second.selecting second.assigning).1
  rw [hs] at hfr'
  have hp (id : String) : second.recompute.stp.ports.get? id =
        first.recompute.stp.ports.get? id ∧
      ∀ record, first.recompute.stp.ports.get? id = some record →
        (second.recompute.entry record.entry).stpState =
          (first.recompute.entry record.entry).stpState := by
    unfold Visit.recompute
    cases hf : sw.stp.ports.get? id with
    | none =>
      rw [get?_recomputeIn_of_none hn hon _ second.assigning_perm hf,
        get?_recomputeIn_of_none hn hon _ first.assigning_perm hf]
      exact ⟨rfl, nofun⟩
    | some record =>
      obtain ⟨hnew, hst⟩ := recomputeIn_record hn hon first.selecting
        first.assigning_perm hf
      obtain ⟨hnew', hst'⟩ := recomputeIn_record hn hon second.selecting
        second.assigning_perm hf
      rw [hs] at hnew' hst'
      refine ⟨hnew'.trans hnew.symm, fun found hf' => ?_⟩
      rw [hnew] at hf'
      cases hf'
      exact hst'.trans hst.symm
  exact ⟨hfr'.rootID.trans hfr.rootID.symm,
    hfr'.rootCost.trans hfr.rootCost.symm,
    hfr'.rootPort.trans hfr.rootPort.symm, fun id => (hp id).1,
    fun id => (hp id).2⟩

def visitFrom {id : String} {record : StpPort}
    (h : sw.stp.ports.get? id = some record) : Visit sw where
  selecting := id :: sw.stp.ports.keys.erase id
  assigning := sw.stp.ports.keys
  selecting_perm :=
    (List.perm_cons_erase ((GoMap.mem_keys_iff _ _).mpr ⟨record, h⟩)).symm
  assigning_perm := .refl _

theorem Wins.rootPort_visitFrom (hn : Named sw)
    (hon : sw.stp.cfg.enabled = true) {id : String} (h : sw.Wins id vector) :
    ∃ visit : Visit sw, visit.recompute.stp.rootPort = id := by
  obtain ⟨record, hr, -⟩ := h.1
  refine ⟨visitFrom hr, ?_⟩
  have hfr := (recomputeIn_frame hn hon (visitFrom hr).selecting (visitFrom hr).assigning).1
  rw [Visit.recompute, hfr.rootPort]
  simp only [visitFrom, h.selectRoot_cons, setRoot, Option.getD_some]

/-- Whatever the orders of the visits, root, root port, roles and states come out
the same, exactly if no two ports offer the best vector. -/
theorem tree_order_free_iff (hnamed : Named sw) :
    (∀ first second : Visit sw, SameTree first.recompute second.recompute) ↔
      ¬ sw.RootTied := by
  constructor
  · rintro hfree ⟨hon, first, second, vector, hne, hwins, hwins'⟩
    obtain ⟨visit, hfst⟩ := hwins.rootPort_visitFrom hnamed hon
    obtain ⟨visit', hsnd⟩ := hwins'.rootPort_visitFrom hnamed hon
    exact hne (by rw [← hfst, ← hsnd, (hfree visit visit').rootPort])
  · intro huntied first second
    by_cases hon : sw.stp.cfg.enabled = true
    · exact sameTree_of_selectRoot hnamed hon (selectRoot_eq_of_not_tied hon
        huntied first.selecting_perm second.selecting_perm)
    · rw [first.recompute_of_disabled hon, second.recompute_of_disabled hon]
      exact ⟨rfl, rfl, rfl, fun _ => rfl, fun _ _ _ => rfl⟩

end Visits

end Switch

theorem tree_order_free_iff_twoLinks :
    steadyLinks.sw.stp.rootPort = "a" ∧
      ∀ first second : Switch.Visit steadyLinks.sw,
        Switch.SameTree first.recompute second.recompute := by
  have hreach : steadyLinks.Reached := ((reached_start 7).run (steadyEnv 1) _).run
    (steadyEnv 1) [heardOnB 2]
  refine ⟨by decide, (tree_order_free_iff hreach.tabled.toNamed).mpr ?_⟩
  rintro ⟨-, first, second, vector, hne, hwins, hwins'⟩
  have huntied : ∀ id ∈ steadyLinks.sw.stp.ports.keys, steadyLinks.sw.Untied id := by decide
  obtain ⟨record, hr, -⟩ := hwins.1
  have hm := (GoMap.mem_keys_iff _ _).mpr ⟨record, hr⟩
  exact huntied first hm second vector hne.symm hwins.1 hwins'.1

/-- Two ports hear the same port of the root.  Which of them becomes the root
port, and which one is blocked, is up to the order of the map. -/
theorem tied_ports_follow_order :
    tiedLinks.Reached ∧
      (recomputeLocked (steadyEnv 2) tiedLinks.sw).stp.rootPort = "b" ∧
      (recomputeLocked (reverseEnv 2) tiedLinks.sw).stp.rootPort = "a" ∧
      ((recomputeLocked (steadyEnv 2) tiedLinks.sw).entry 0).stpState ≠
        ((recomputeLocked (reverseEnv 2) tiedLinks.sw).entry 0).stpState := by
  have hreach : tiedLinks.Reached := ((reached_start 7).run (steadyEnv 1) _).run
    (reverseEnv 1) [heardOnB 1]
  exact ⟨hreach, by decide, by decide, by decide⟩

/-! ## The cost of the path -/

namespace Switch

/-- The cost of the path through a port, over the natural numbers. -/
def pathCost (sw : Switch) (record : StpPort) : Nat :=
  record.info.cost.toNat + (sw.stpPortCost record).toNat

def pathRank (sw : Switch) (record : StpPort) : ℕ ×ₗ ℕ ×ₗ ℕ ×ₗ ℕ :=
  toLex (record.info.rootID.toNat, toLex (sw.pathCost record,
    toLex (record.info.bridgeID.toNat, record.info.portID.toNat)))

/-- The root cost `after` stores is that of the path through the port, and no
port with foreign information has a better path. -/
structure ExactCost (sw after : Switch) (record : StpPort) : Prop where
  sum : after.stp.rootCost.toNat = sw.pathCost record
  greater : record.info.cost < after.stp.rootCost
  least : ∀ id other, sw.stp.ports.get? id = some other → other.hasInfo = true →
    other.info.bridgeID ≠ sw.stp.bridgeID →
      sw.pathRank record ≤ sw.pathRank other

section Cost

variable {sw : Switch} {record : StpPort}

theorem toNat_cost_le (sw : Switch) (record : StpPort) :
    (record.info.cost + sw.stpPortCost record).toNat ≤ sw.pathCost record := by
  exact Nat.mod_le _ _

theorem rank_le_pathRank (h : sw.candidate record = some vector) :
    vector.rank ≤ sw.pathRank record := by
  obtain ⟨-, -, rfl⟩ := candidate_eq_some_iff.mp h
  have hcost := toNat_cost_le sw record
  simp only [rank, pathRank, Prod.Lex.toLex_le_toLex]
  rcases Nat.lt_or_eq_of_le hcost with hlt | heq
  · exact .inr ⟨trivial, .inl hlt⟩
  · exact .inr ⟨trivial, .inr ⟨heq, .inr ⟨trivial, le_rfl⟩⟩⟩

theorem rank_eq_pathRank (h : sw.candidate record = some vector)
    (hfits : sw.pathCost record < 2 ^ 32) :
    vector.cost.toNat = sw.pathCost record ∧ vector.rank = sw.pathRank record := by
  obtain ⟨-, -, rfl⟩ := candidate_eq_some_iff.mp h
  have hcost : (record.info.cost + sw.stpPortCost record).toNat =
      sw.pathCost record := by
    exact Nat.mod_eq_of_lt hfits
  exact ⟨hcost, by simp only [rank, pathRank, hcost]⟩

end Cost

/-- The port that is selected has the best path and its cost is stored, exactly
if that cost fits into 32 bits. -/
theorem root_cost_exact_iff (env : Env) {sw : Switch} (henabled : sw.stp.cfg.enabled = true)
    {id : String} (hid : id ≠ "") (hroot : (recomputeLocked env sw).stp.rootPort = id) :
    ∃ record, sw.stp.ports.get? id = some record ∧
      (ExactCost sw (recomputeLocked env sw) record ↔
        sw.pathCost record < 2 ^ 32) := by
  have hbr := (recomputeLocked_spec env sw henabled).1
  obtain ⟨-, hleast, horigin⟩ := elects_spec env sw
  have helected : (elects env sw).2.getD "" = id := hbr.rootPort.symm.trans hroot
  rcases horigin with hown | ⟨winner, vector, ⟨record, hr, hcand⟩, hwon⟩
  · rw [hown] at helected
    exact absurd helected.symm hid
  · rw [hwon] at helected hleast
    obtain rfl : winner = id := helected
    have hcost := hbr.rootCost.trans (congrArg (·.1.cost) hwon)
    refine ⟨record, hr, ?_, fun hfits => ?_⟩
    · intro hexact
      rw [← hexact.sum]
      exact UInt32.toNat_lt _
    · obtain ⟨hsum, hrank⟩ := rank_eq_pathRank hcand hfits
      rw [← hcost] at hsum
      refine ⟨hsum, ?_, ?_⟩
      · rw [UInt32.lt_iff_toNat_lt, hsum, pathCost]
        have hpos := stpPortCost_pos sw record
        omega
      · intro other found hf hi hforeign
        have hoffer := candidate_eq_some_iff.mpr ⟨hi, hforeign, rfl⟩
        rw [← hrank]
        exact (hleast other _ ⟨found, hf, hoffer⟩).trans (rank_le_pathRank hoffer)

end Switch

/-- A configuration BPDU of the bridge with identifier 2, which claims to reach
the root 1 at a cost. -/
def costHello (cost : UInt32) (number : UInt8) : Bytes :=
  bpduDstMAC.toList ++ [0x02, 0, 0, 0, 0, 9, 0, 38, 0x42, 0x42, 0x03, 0, 0, 0, 0, 0,
    0, 0, 0, 0, 0, 0, 0, 1] ++ putBE32 cost.toNat ++ [0, 0, 0, 0, 0, 0, 0, 2, 0x80, number,
    0, 0, 20, 0, 2, 0, 15, 0]

def costsHeard (cost : UInt32) : World :=
  (start 7).run (steadyEnv 1) [
    .op (.addPort ⟨"a", 1⟩ { stp := true }), .op (.addPort ⟨"b", 2⟩ { stp := true }),
    .op (.setSTPConfig steadyTimers),
    .op (.deliver "a" (costHello cost 1)), .op (.deliver "b" (costHello 10 2))]

theorem root_cost_exact_iff_heard :
    (recomputeLocked (steadyEnv 2) (costsHeard 5).sw).stp.rootPort = "a" ∧
      ∃ record, (costsHeard 5).sw.stp.ports.get? "a" = some record ∧
        ExactCost (costsHeard 5).sw
          (recomputeLocked (steadyEnv 2) (costsHeard 5).sw) record := by
  refine ⟨by decide, ?_⟩
  obtain ⟨record, hr, hexact⟩ := root_cost_exact_iff (steadyEnv 2)
    (show (costsHeard 5).sw.stp.cfg.enabled = true by decide)
    (show "a" ≠ "" by decide) (by decide)
  refine ⟨record, hr, hexact.mpr ?_⟩
  have hfits : ∀ found ∈ (costsHeard 5).sw.stp.ports.get? "a",
      (costsHeard 5).sw.pathCost found < 2 ^ 32 := by decide
  exact hfits record hr

/-- A cost of 2^32 - 1 and the port's own cost of 100 add up to 99.  The port is
preferred to one with a cost of 110. -/
theorem path_cost_wraps :
    (costsHeard 0xffffffff).Reached ∧
      (recomputeLocked (steadyEnv 2) (costsHeard 0xffffffff).sw).stp.rootPort = "a" ∧
      (recomputeLocked (steadyEnv 2) (costsHeard 0xffffffff).sw).stp.rootCost = 99 ∧
      ((costsHeard 0xffffffff).sw.stp.ports.get? "a").map
        (costsHeard 0xffffffff).sw.pathCost = some 4294967395 ∧
      ((costsHeard 0xffffffff).sw.stp.ports.get? "b").map
        (costsHeard 0xffffffff).sw.pathCost = some 110 :=
  ⟨(reached_start 7).run _ _, by decide, by decide, by decide, by decide⟩

end GvSwitch.SwitchCore
