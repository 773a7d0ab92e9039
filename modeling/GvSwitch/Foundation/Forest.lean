import Mathlib.Combinatorics.SimpleGraph.Acyclic
import Mathlib.Data.List.Range
import Mathlib.Data.Nat.ModEq
import Mathlib.Dynamics.PeriodicPts.Defs

/-!
# Forests from parent pointers

A graph whose edges all lead from a vertex to its parent is a forest as soon as
a rank falls along the pointers.  Such a rank exists when every vertex claims a
cost that exceeds its parent's by a positive weight, even if costs wrap around,
as long as the weights along a path do not reach the modulus.
-/

namespace GvSwitch.Foundation

variable {V : Type*}

/-! ## Ranked pointers -/

section Ranked

variable {parent : V → Option V} {rank : V → ℕ} {graph : SimpleGraph V}

/-- `top` lies on the way up from the vertex. -/
inductive Under (parent : V → Option V) (top : V) : V → Prop
  | self : Under parent top top
  | child {vertex above : V} :
      parent vertex = some above → Under parent top above → Under parent top vertex

theorem Under.rank_le (hrank : ∀ x y, parent x = some y → rank y < rank x) {top vertex : V}
    (h : Under parent top vertex) : rank top ≤ rank vertex := by
  induction h with
  | self => exact le_rfl
  | child hparent _ ih => exact ih.trans (hrank _ _ hparent).le

/-- Without the edge to its parent, a vertex only reaches what lies under it. -/
private theorem under_of_reachable
    (hadj : ∀ x y, graph.Adj x y → parent x = some y ∨ parent y = some x)
    {top above : V} (htop : parent top = some above) {first last : V}
    (walk : (graph.deleteEdges {s(top, above)}).Walk first last)
    (hfst : Under parent top first) : Under parent top last := by
  induction walk with
  | nil => exact hfst
  | @cons vertex other _ hedge _ ih =>
    refine ih ?_
    rw [SimpleGraph.deleteEdges_adj, Set.mem_singleton_iff] at hedge
    rcases hadj _ _ hedge.1 with hup | hdown
    · cases hfst with
      | self =>
        -- The only way up from `top` was removed.
        rw [htop] at hup
        cases hup
        exact absurd rfl hedge.2
      | child hparent habove =>
        rw [hparent] at hup
        cases hup
        exact habove
    · exact .child hdown hfst

theorem isAcyclic_of_parent (hrank : ∀ x y, parent x = some y → rank y < rank x)
    (hadj : ∀ x y, graph.Adj x y → parent x = some y ∨ parent y = some x) :
    graph.IsAcyclic := by
  have hbr (x y : V) (hparent : parent x = some y) : graph.IsBridge s(x, y) := by
    rintro ⟨walk⟩
    have hunder := under_of_reachable hadj hparent walk .self
    exact absurd (hunder.rank_le hrank) (hrank x y hparent).not_ge
  rw [SimpleGraph.isAcyclic_iff_forall_adj_isBridge]
  intro x y hxy
  rcases hadj x y hxy with hup | hdown
  · exact hbr x y hup
  · rw [Sym2.eq_swap]
    exact hbr y x hdown

/-- Every vertex is connected to one without a parent. -/
theorem exists_top (hrank : ∀ x y, parent x = some y → rank y < rank x)
    (hedge : ∀ x y, parent x = some y → graph.Adj x y) (vertex : V) :
    ∃ top, parent top = none ∧ graph.Reachable vertex top := by
  induction hvertex : rank vertex using Nat.strong_induction_on generalizing vertex with
  | _ value ih =>
    cases hparent : parent vertex with
    | none => exact ⟨vertex, hparent, .rfl⟩
    | some above =>
      obtain ⟨top, htop, hreach⟩ := ih (rank above) (hvertex ▸ hrank _ _ hparent) above rfl
      exact ⟨top, htop, (hedge _ _ hparent).reachable.trans hreach⟩

end Ranked

/-! ## Costs along pointers -/

section Costs

open Function

variable (next : V → Option V)

def follow (vertex : V) : V := (next vertex).getD vertex

variable {next}

theorem exists_rank [Finite V]
    (hends : ∀ vertex ∈ periodicPts (follow next), next vertex = none) :
    ∃ rank : V → ℕ, ∀ x y, next x = some y → rank y < rank x := by
  classical
  have hstop (x : V) : ∃ count, next ((follow next)^[count] x) = none := by
    obtain ⟨first, second, hne, heq⟩ :=
      Finite.exists_ne_map_eq_of_infinite fun count => (follow next)^[count] x
    wlog hlt : first < second generalizing first second
    · exact this second first hne.symm heq.symm (lt_of_le_of_ne (not_lt.mp hlt) hne.symm)
    refine ⟨first, hends _ (mk_mem_periodicPts (Nat.sub_pos_of_lt hlt) ?_)⟩
    rw [IsPeriodicPt, IsFixedPt, ← iterate_add_apply, Nat.sub_add_cancel hlt.le]
    exact heq.symm
  refine ⟨fun x => Nat.find (hstop x), fun x y hnext => ?_⟩
  have hx := Nat.find_spec (hstop x)
  cases hcount : Nat.find (hstop x) with
  | zero =>
    rw [hcount] at hx
    exact absurd hx (by simp [hnext])
  | succ count =>
    rw [hcount, iterate_succ_apply, follow, hnext, Option.getD_some] at hx
    dsimp only
    rw [hcount]
    exact Nat.lt_succ_of_le (Nat.find_min' (hstop y) hx)

private theorem next_ne_none {vertex : V} (hperiodic : vertex ∈ periodicPts (follow next))
    (hnext : next vertex ≠ none) (count : ℕ) :
    next ((follow next)^[count] vertex) ≠ none := by
  intro hnone
  -- A vertex without a pointer stays where it is, also after a whole period.
  have hfixed : IsFixedPt (follow next) ((follow next)^[count] vertex) := by
    simp [IsFixedPt, follow, hnone]
  obtain ⟨period, hpos, hperiod⟩ := hperiodic
  have hreturn := (hperiod.const_mul count).eq
  have hsplit := (Nat.sub_add_cancel (Nat.le_mul_of_pos_right count hpos)).symm
  rw [hsplit, iterate_add_apply, (hfixed.iterate _).eq] at hreturn
  exact hnext (hreturn ▸ hnone)

/-- No pointers lead in a circle: the weights around it would add up to a
multiple of the modulus. -/
theorem next_eq_none_of_periodic (cost weight : V → ℕ) (modulus : ℕ)
    (hcost : ∀ x y, next x = some y → cost x ≡ cost y + weight x [MOD modulus])
    (hpos : ∀ x y, next x = some y → 0 < weight x)
    (hbounded : ∀ path : List V, path.IsChain (fun x y => next x = some y) →
      (∀ x ∈ path, next x ≠ none) → path.Nodup → (path.map weight).sum < modulus)
    (vertex : V) (hperiodic : vertex ∈ periodicPts (follow next)) : next vertex = none := by
  by_contra hnext
  have hsome := next_ne_none hperiodic hnext
  have hstep (count : ℕ) : next ((follow next)^[count] vertex) =
      some ((follow next)^[count + 1] vertex) := by
    obtain ⟨above, habove⟩ := Option.ne_none_iff_exists'.mp (hsome count)
    rw [iterate_succ_apply', follow, habove, Option.getD_some]
  have htelescope (count : ℕ) : cost vertex ≡ cost ((follow next)^[count] vertex) +
      ((List.range count).map fun index => weight ((follow next)^[index] vertex)).sum
        [MOD modulus] := by
    induction count with
    | zero => exact Nat.ModEq.rfl
    | succ count ih =>
      refine ih.trans ?_
      rw [List.range_succ, List.map_append, List.sum_append, List.map_singleton,
        List.sum_singleton]
      have hnextCost := (hcost _ _ (hstep count)).add_right
        ((List.range count).map fun index => weight ((follow next)^[index] vertex)).sum
      refine hnextCost.trans ?_
      rw [add_assoc, add_comm (weight _)]
  have hperiod := minimalPeriod_pos_of_mem_periodicPts hperiodic
  let circle := (List.range (minimalPeriod (follow next) vertex)).map
    fun index => (follow next)^[index] vertex
  have hch : circle.IsChain fun x y => next x = some y := by
    rw [List.isChain_iff_getElem]
    intro index hidx
    simp only [circle, List.getElem_map, List.getElem_range]
    exact hstep index
  have hnodup : circle.Nodup := by
    refine List.Nodup.map_on ?_ List.nodup_range
    intro first hfst second hsnd heq
    exact iterate_injOn_Iio_minimalPeriod (List.mem_range.mp hfst)
      (List.mem_range.mp hsnd) heq
  have hcircle : ∀ x ∈ circle, next x ≠ none := by
    intro x hx
    obtain ⟨index, -, rfl⟩ := List.mem_map.mp hx
    exact hsome index
  have hlt := hbounded circle hch hcircle hnodup
  have hsum : 0 < (circle.map weight).sum := by
    refine List.sum_pos _ ?_ ?_
    · intro value hvalue
      obtain ⟨x, hx, rfl⟩ := List.mem_map.mp hvalue
      obtain ⟨above, habove⟩ := Option.ne_none_iff_exists'.mp (hcircle x hx)
      exact hpos x above habove
    · simp [circle, hperiod.ne']
  have haround : cost vertex + (circle.map weight).sum ≡ cost vertex + 0 [MOD modulus] := by
    have hreturn := htelescope (minimalPeriod (follow next) vertex)
    rw [iterate_minimalPeriod] at hreturn
    rw [List.map_map]
    exact hreturn.symm
  have hdvd : modulus ∣ (circle.map weight).sum :=
    (Nat.modEq_zero_iff_dvd).mp (haround.add_left_cancel' _)
  exact absurd (Nat.le_of_dvd hsum hdvd) hlt.not_ge

end Costs

end GvSwitch.Foundation
