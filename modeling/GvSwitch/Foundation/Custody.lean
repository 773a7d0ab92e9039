import Mathlib.Data.List.Nodup
import Mathlib.Data.List.Perm.Basic
import Mathlib.Logic.Function.Basic

/-!
# Custody of the names in a registry

A registry maps names to objects.  Each registered name is in the custody of
one claim, which may know the object.  A claim is made when a name is
registered, passes from hand to hand, and ends when the name is taken out.
-/

namespace GvSwitch.Foundation

variable {κ ν : Type*} {registry after : κ → Option ν}
  {claims claims' rest : List (κ × Option ν)} {key : κ} {value : ν} {known : Option ν}

structure Custody (registry : κ → Option ν) (claims : List (κ × Option ν)) : Prop where
  nodup : (claims.map Prod.fst).Nodup
  registered : ∀ key, (registry key).isSome = true ↔ key ∈ claims.map Prod.fst
  object : ∀ key value, (key, some value) ∈ claims → registry key = some value

namespace Custody

theorem empty : Custody (fun _ : κ => (none : Option ν)) [] :=
  ⟨List.nodup_nil, by simp, by simp⟩

theorem perm (h : Custody registry claims) (hperm : claims'.Perm claims) :
    Custody registry claims' where
  nodup := (hperm.map Prod.fst).nodup_iff.mpr h.nodup
  registered := fun key =>
    (h.registered key).trans (hperm.map Prod.fst).mem_iff.symm
  object := fun key value hm => h.object key value (hperm.mem_iff.mp hm)

theorem fresh (h : Custody registry ((key, known) :: rest)) : key ∉ rest.map Prod.fst :=
  (List.nodup_cons.mp h.nodup).1

theorem waive (h : Custody registry ((key, known) :: rest)) :
    Custody registry ((key, none) :: rest) where
  nodup := h.nodup
  registered := h.registered
  object := by
    intro other object hm
    rcases List.mem_cons.mp hm with heq | hold
    · cases heq
    · exact h.object other object (.tail _ hold)

variable [DecidableEq κ]

theorem acquire (h : Custody registry claims) (hfree : registry key = none) :
    Custody (Function.update registry key (some value)) ((key, some value) :: claims) where
  nodup := by
    refine List.nodup_cons.mpr ⟨?_, h.nodup⟩
    intro hm
    have hsome := (h.registered key).mpr hm
    simp [hfree] at hsome
  registered := by
    intro other
    by_cases ho : other = key
    · subst ho
      simp
    simp only [Function.update_of_ne ho, List.map_cons, List.mem_cons, ho, false_or]
    exact h.registered other
  object := by
    intro other object hm
    rcases List.mem_cons.mp hm with heq | hold
    · cases heq
      exact Function.update_self ..
    have ho : other ≠ key := by
      intro heq
      have hobject := h.object other object hold
      simp [heq, hfree] at hobject
    rw [Function.update_of_ne ho]
    exact h.object other object hold

theorem release (h : Custody registry ((key, known) :: rest)) :
    Custody (Function.update registry key none) rest where
  nodup := (List.nodup_cons.mp h.nodup).2
  registered := by
    intro other
    by_cases ho : other = key
    · subst ho
      simp [h.fresh]
    · rw [Function.update_of_ne ho, h.registered other, List.map_cons, List.mem_cons]
      simp [ho]
  object := by
    intro other object hm
    have ho : other ≠ key := by
      rintro rfl
      exact h.fresh (List.mem_map_of_mem hm)
    rw [Function.update_of_ne ho]
    exact h.object other object (.tail _ hm)

end Custody

/-- What one step may do to the registry and its claims. -/
inductive Transfer [DecidableEq κ] (registry : κ → Option ν) (claims : List (κ × Option ν))
    (after : κ → Option ν) (claims' : List (κ × Option ν)) : Prop
  | passes : after = registry → claims'.Perm claims → Transfer registry claims after claims'
  | acquires {key : κ} {value : ν} : registry key = none →
      after = Function.update registry key (some value) →
        claims'.Perm ((key, some value) :: claims) → Transfer registry claims after claims'
  | waives {key : κ} {known : Option ν} {rest : List (κ × Option ν)} : after = registry →
      claims.Perm ((key, known) :: rest) → claims'.Perm ((key, none) :: rest) →
        Transfer registry claims after claims'
  | releases {key : κ} {known : Option ν} {rest : List (κ × Option ν)} :
      claims.Perm ((key, known) :: rest) → after = Function.update registry key none →
        claims'.Perm rest → Transfer registry claims after claims'

variable [DecidableEq κ]

theorem Custody.transfer (h : Custody registry claims)
    (htransfer : Transfer registry claims after claims') : Custody after claims' := by
  cases htransfer with
  | passes ha hperm =>
    rw [ha]
    exact h.perm hperm
  | acquires hfree ha hperm =>
    rw [ha]
    exact (h.acquire hfree).perm hperm
  | waives ha hb hperm =>
    rw [ha]
    exact (h.perm hb.symm).waive.perm hperm
  | releases hb ha hperm =>
    rw [ha]
    exact (h.perm hb.symm).release.perm hperm

theorem Transfer.frame (h : Transfer registry claims after claims')
    (others : List (κ × Option ν)) :
    Transfer registry (claims ++ others) after (claims' ++ others) := by
  cases h with
  | passes ha hperm => exact .passes ha (hperm.append_right others)
  | acquires hfree ha hperm =>
    exact .acquires hfree ha (hperm.append_right others)
  | waives ha hb hperm =>
    exact .waives ha (hb.append_right others) (hperm.append_right others)
  | releases hb ha hperm =>
    exact .releases (hb.append_right others) ha (hperm.append_right others)

end GvSwitch.Foundation
