import Mathlib.Data.List.Nodup
import Mathlib.Data.List.Perm.Basic

/-!
# Finite maps

A finite map is an association list whose keys are pairwise distinct; the
distinctness is part of the value.  Every operation is characterised by what a
later lookup returns.  The order of the entries carries no meaning: code that
iterates over a map takes the order from elsewhere.
-/

namespace GvSwitch.Foundation

structure GoMap (κ ν : Type) where
  entries : List (κ × ν)
  nodup : (entries.map Prod.fst).Nodup

namespace GoMap

variable {κ ν μ : Type}

def empty : GoMap κ ν := ⟨[], List.nodup_nil⟩

def keys (map : GoMap κ ν) : List κ := map.entries.map Prod.fst

def filter (map : GoMap κ ν) (keep : κ → ν → Bool) : GoMap κ ν :=
  ⟨map.entries.filter fun entry => keep entry.1 entry.2,
    map.nodup.sublist (List.filter_sublist.map Prod.fst)⟩

def mapValues (map : GoMap κ ν) (f : κ → ν → μ) : GoMap κ μ :=
  ⟨map.entries.map fun entry => (entry.1, f entry.1 entry.2), by
    simpa [Function.comp_def] using map.nodup⟩

variable [DecidableEq κ]

def get? (map : GoMap κ ν) (key : κ) : Option ν := map.entries.lookup key

def erase (map : GoMap κ ν) (key : κ) : GoMap κ ν :=
  map.filter fun other _ => other ≠ key

def set (map : GoMap κ ν) (key : κ) (value : ν) : GoMap κ ν :=
  ⟨(key, value) :: (map.erase key).entries, by
    refine List.nodup_cons.mpr ⟨?_, (map.erase key).nodup⟩
    simp [erase, filter]⟩

private theorem lookup_eq_some_iff {entries : List (κ × ν)}
    (hnodup : (entries.map Prod.fst).Nodup) (key : κ) (value : ν) :
    entries.lookup key = some value ↔ (key, value) ∈ entries := by
  induction entries with
  | nil => simp
  | cons entry rest ih =>
    obtain ⟨other, stored⟩ := entry
    have hrest := (List.nodup_cons.mp hnodup).2
    have hfresh := (List.nodup_cons.mp hnodup).1
    by_cases hkey : key = other
    · subst key
      have habsent : (other, value) ∉ rest := by
        intro hm
        exact hfresh (List.mem_map.mpr ⟨_, hm, rfl⟩)
      simp [habsent, eq_comm]
    · rw [List.lookup_cons, beq_eq_false_iff_ne.mpr hkey]
      simpa [hkey] using ih hrest

theorem get?_eq_some_iff (map : GoMap κ ν) (key : κ) (value : ν) :
    map.get? key = some value ↔ (key, value) ∈ map.entries :=
  lookup_eq_some_iff map.nodup key value

theorem mem_keys_iff (map : GoMap κ ν) (key : κ) :
    key ∈ map.keys ↔ ∃ value, map.get? key = some value := by
  simp [keys, get?_eq_some_iff]

@[simp] theorem get?_empty (key : κ) : (empty : GoMap κ ν).get? key = none := rfl

theorem get?_filter_eq_some_iff (map : GoMap κ ν) (keep : κ → ν → Bool)
    (key : κ) (value : ν) :
    (map.filter keep).get? key = some value ↔
      map.get? key = some value ∧ keep key value = true := by
  rw [get?_eq_some_iff, get?_eq_some_iff]
  simp [filter]

theorem get?_filter (map : GoMap κ ν) (keep : κ → ν → Bool) (key : κ) :
    (map.filter keep).get? key = (map.get? key).filter (keep key) := by
  apply Option.ext
  intro value
  rw [get?_filter_eq_some_iff, Option.filter_eq_some_iff]

theorem get?_erase (map : GoMap κ ν) (key other : κ) :
    (map.erase key).get? other =
      if other = key then none else map.get? other := by
  rw [erase, get?_filter]
  by_cases hkey : other = key
  · cases map.get? other <;> simp [hkey]
  · cases map.get? other <;> simp [hkey]

@[simp] theorem get?_set_self (map : GoMap κ ν) (key : κ) (value : ν) :
    (map.set key value).get? key = some value := by
  simp [get?, set]

theorem get?_set (map : GoMap κ ν) (key other : κ) (value : ν) :
    (map.set key value).get? other =
      if other = key then some value else map.get? other := by
  by_cases hkey : other = key
  · simp [hkey]
  have hstep : (map.set key value).get? other = (map.erase key).get? other := by
    simp [get?, set, List.lookup_cons, beq_eq_false_iff_ne.mpr hkey]
  rw [hstep, get?_erase]
  simp [hkey]

theorem get?_mapValues (map : GoMap κ ν) (f : κ → ν → μ) (key : κ) :
    (map.mapValues f).get? key = (map.get? key).map (f key) := by
  apply Option.ext
  intro value
  rw [get?_eq_some_iff, Option.map_eq_some_iff]
  simp only [mapValues, List.mem_map, Prod.mk.injEq, get?_eq_some_iff]
  constructor
  · rintro ⟨⟨other, stored⟩, hm, rfl, rfl⟩
    exact ⟨stored, hm, rfl⟩
  · rintro ⟨stored, hm, rfl⟩
    exact ⟨(key, stored), hm, rfl, rfl⟩

/-! ## The entries -/

theorem entries_set_of_get?_none {map : GoMap κ ν} {key : κ} (h : map.get? key = none)
    (value : ν) : (map.set key value).entries = (key, value) :: map.entries := by
  have hkeep : map.entries.filter (fun entry => entry.1 ≠ key) = map.entries := by
    refine List.filter_eq_self.mpr fun entry he => decide_eq_true ?_
    rintro rfl
    simp [(get?_eq_some_iff map entry.1 entry.2).mpr he] at h
  simp only [set, erase, filter, hkeep]

theorem entries_perm_erase {map : GoMap κ ν} {key : κ} {value : ν}
    (h : map.get? key = some value) :
    map.entries.Perm ((key, value) :: (map.erase key).entries) := by
  refine (List.perm_ext_iff_of_nodup (List.Nodup.of_map _ map.nodup)
    (List.Nodup.of_map _ (map.set key value).nodup)).mpr ?_
  rintro ⟨other, stored⟩
  rw [← get?_eq_some_iff, ← get?_eq_some_iff, get?_set]
  by_cases hkey : other = key
  · rw [if_pos hkey, hkey, h]
  · rw [if_neg hkey]

/-! ## Rewriting values in place -/

omit [DecidableEq κ] in
theorem ext_entries {first second : GoMap κ ν} (h : first.entries = second.entries) :
    first = second := by
  cases first
  cases second
  cases h
  rfl

omit [DecidableEq κ] in
@[simp] theorem keys_mapValues (map : GoMap κ ν) (f : κ → ν → μ) :
    (map.mapValues f).keys = map.keys := by
  simp [keys, mapValues, Function.comp_def]

theorem mapValues_congr (map : GoMap κ ν) {f g : κ → ν → μ}
    (h : ∀ key value, map.get? key = some value → f key value = g key value) :
    map.mapValues f = map.mapValues g := by
  apply ext_entries
  refine List.map_congr_left ?_
  rintro ⟨key, value⟩ hm
  rw [h key value ((get?_eq_some_iff map key value).mpr hm)]

omit [DecidableEq κ] in
theorem mapValues_mapValues {ξ : Type} (map : GoMap κ ν) (f : κ → ν → μ) (g : κ → μ → ξ) :
    (map.mapValues f).mapValues g =
      map.mapValues fun key value => g key (f key value) := by
  apply ext_entries
  simp [mapValues, Function.comp_def]

omit [DecidableEq κ] in
theorem filter_mapValues (map : GoMap κ ν) (f : κ → ν → μ) (keep : κ → μ → Bool) :
    (map.mapValues f).filter keep =
      (map.filter fun key value => keep key (f key value)).mapValues f := by
  apply ext_entries
  simp [mapValues, filter, List.filter_map, Function.comp_def]

theorem erase_mapValues (map : GoMap κ ν) (f : κ → ν → μ) (key : κ) :
    (map.mapValues f).erase key = (map.erase key).mapValues f :=
  filter_mapValues map f _

theorem mapValues_set (map : GoMap κ ν) (f : κ → ν → μ) (key : κ) (value : ν) :
    (map.set key value).mapValues f = (map.mapValues f).set key (f key value) := by
  apply ext_entries
  have herase := congrArg GoMap.entries (erase_mapValues map f key)
  simp only [set, herase]
  rfl

end GoMap

end GvSwitch.Foundation
