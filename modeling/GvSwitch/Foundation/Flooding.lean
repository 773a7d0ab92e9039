import GvSwitch.Foundation.Runs
import Mathlib.Combinatorics.SimpleGraph.Acyclic

/-!
# Flooding a forest

A token that arrives at a vertex is passed on to every neighbour but the one it
came from.  On a forest each vertex connected to the first one is visited
exactly once, in whatever order the tokens arrive.
-/

namespace GvSwitch.Foundation

variable {V : Type*} {graph : SimpleGraph V}

/-! ## Tokens -/

/-- A token on its way to a vertex, and the neighbour it comes from. -/
structure Token (V : Type*) where
  place : V
  origin : Option V

variable {token : Token V} {vertex : V}

namespace Token

/-- The token, or one that descends from it, gets to the vertex. -/
def Leads (graph : SimpleGraph V) (token : Token V) (vertex : V) : Prop :=
  ∃ walk : graph.Walk token.place vertex, walk.IsPath ∧
    ∀ origin ∈ token.origin, origin ∉ walk.support

theorem leads_none (place vertex : V) :
    (⟨place, none⟩ : Token V).Leads graph vertex ↔ graph.Reachable place vertex := by
  constructor
  · rintro ⟨walk, -, -⟩
    exact ⟨walk⟩
  intro hreach
  obtain ⟨walk, hpath⟩ := hreach.exists_isPath
  exact ⟨walk, hpath, fun _ horigin => nomatch horigin⟩

theorem not_leads_back (next place : V) :
    ¬ (⟨next, some place⟩ : Token V).Leads graph place := by
  rintro ⟨walk, -, havoids⟩
  exact havoids place rfl walk.end_mem_support

/-- Tokens from one vertex to different neighbours get to different vertices. -/
theorem leads_unique (hacyclic : graph.IsAcyclic) {place first second : V}
    (hfst : graph.Adj place first) (hsnd : graph.Adj place second)
    (h : (⟨first, some place⟩ : Token V).Leads graph vertex)
    (h' : (⟨second, some place⟩ : Token V).Leads graph vertex) : first = second := by
  obtain ⟨walk, hpath, havoids⟩ := h
  obtain ⟨other, ho, havoids'⟩ := h'
  have hs : (⟨walk.cons hfst, hpath.cons (havoids place rfl)⟩ : graph.Path place vertex) =
      ⟨other.cons hsnd, ho.cons (havoids' place rfl)⟩ :=
    (hacyclic.subsingleton_path place vertex).elim _ _
  cases congrArg Subtype.val hs
  rfl

/-- A path that continues an edge cannot come back to where the edge came from. -/
theorem leads_cons (hacyclic : graph.IsAcyclic) {next : V}
    (horigin : ∀ origin ∈ token.origin, graph.Adj origin token.place)
    (hnext : graph.Adj token.place next) (hfwd : next ∉ token.origin)
    (h : (⟨next, some token.place⟩ : Token V).Leads graph vertex) :
    token.Leads graph vertex := by
  obtain ⟨walk, hpath, havoids⟩ := h
  have hplace := havoids token.place rfl
  refine ⟨walk.cons hnext, hpath.cons hplace, fun origin hback hm => ?_⟩
  have hadj := horigin origin hback
  rw [SimpleGraph.Walk.support_cons, List.mem_cons] at hm
  have hinside := hm.resolve_left hadj.ne
  classical
  -- Two paths from `next` to `origin`, of which one goes through the vertex.
  have hdifferent : next ≠ origin := fun heq => hfwd (heq ▸ hback)
  have hshort : (walk.takeUntil origin hinside).IsPath := hpath.takeUntil hinside
  have hthrough : (SimpleGraph.Walk.cons hnext.symm hadj.symm.toWalk).IsPath := by
    rw [SimpleGraph.Walk.cons_isPath_iff]
    refine ⟨SimpleGraph.Walk.IsPath.of_adj hadj.symm, ?_⟩
    simp [hnext.ne.symm, hdifferent]
  have hs : (⟨_, hshort⟩ : graph.Path next origin) = ⟨_, hthrough⟩ :=
    (hacyclic.subsingleton_path next origin).elim _ _
  have hwalk : walk.takeUntil origin hinside = .cons hnext.symm hadj.symm.toWalk :=
    congrArg Subtype.val hs
  refine hplace (walk.support_takeUntil_subset_support hinside ?_)
  rw [hwalk]
  simp

theorem leads_iff (hacyclic : graph.IsAcyclic)
    (horigin : ∀ origin ∈ token.origin, graph.Adj origin token.place) (vertex : V) :
    token.Leads graph vertex ↔ vertex = token.place ∨
      ∃ next, (graph.Adj token.place next ∧ next ∉ token.origin) ∧
        (⟨next, some token.place⟩ : Token V).Leads graph vertex := by
  constructor
  · rintro ⟨walk, hpath, havoids⟩
    obtain ⟨place, origin⟩ := token
    cases walk with
    | nil => exact .inl rfl
    | cons hnext rest =>
      rw [SimpleGraph.Walk.cons_isPath_iff] at hpath
      refine .inr ⟨_, ⟨hnext, fun hback => ?_⟩, rest, hpath.1, ?_⟩
      · exact havoids _ hback (by simp)
      intro before hb
      cases hb
      exact hpath.2
  · rintro (rfl | ⟨next, ⟨hnext, hfwd⟩, hleads⟩)
    · refine ⟨.nil, .nil, fun origin hback hm => ?_⟩
      exact (horigin origin hback).ne (by simpa using hm)
    · exact leads_cons hacyclic horigin hnext hfwd hleads

end Token

/-! ## Floods -/

structure Flood (V : Type*) where
  pending : List (Token V)
  visited : List V

namespace Flood

def start (source : V) : Flood V := ⟨[⟨source, none⟩], []⟩

def Step (graph : SimpleGraph V) (flood : Flood V) (token : Token V)
    (after : Flood V) : Prop :=
  ∃ (rest : List (Token V)) (next : List V), flood.pending.Perm (token :: rest) ∧ next.Nodup ∧
    (∀ vertex, vertex ∈ next ↔ graph.Adj token.place vertex ∧ vertex ∉ token.origin) ∧
    after.pending.Perm (rest ++ next.map fun vertex => ⟨vertex, some token.place⟩) ∧
    after.visited = flood.visited ++ [token.place]

variable [DecidableEq V]

open Classical in
noncomputable def arrivals (graph : SimpleGraph V) (flood : Flood V) (vertex : V) : Nat :=
  flood.visited.count vertex + flood.pending.countP fun token => token.Leads graph vertex

open Classical in
/-- Every token came over an edge, and each connected vertex is visited once. -/
structure Exact (graph : SimpleGraph V) (source : V) (flood : Flood V) : Prop where
  edges : ∀ token ∈ flood.pending, ∀ origin ∈ token.origin, graph.Adj origin token.place
  once : ∀ vertex, flood.arrivals graph vertex = if graph.Reachable source vertex then 1 else 0

omit [DecidableEq V] in
theorem countP_of_unique {α : Type*} {items : List α} (hnodup : items.Nodup) {test : α → Bool}
    (hunique : ∀ first ∈ items, ∀ second ∈ items, test first = true → test second = true →
      first = second) :
    items.countP test = if ∃ item ∈ items, test item = true then 1 else 0 := by
  induction items with
  | nil => simp
  | cons item rest ih =>
    obtain ⟨hnew, hrest⟩ := List.nodup_cons.mp hnodup
    by_cases htest : test item = true
    · have hnone : rest.countP test = 0 := by
        refine List.countP_eq_zero.mpr fun other ho hpasses => hnew ?_
        rw [hunique item (.head _) other (List.mem_cons_of_mem item ho) htest hpasses]
        exact ho
      rw [List.countP_cons_of_pos htest, hnone, if_pos ⟨item, .head _, htest⟩]
    · rw [List.countP_cons_of_neg htest, ih hrest fun first hfst second hsnd =>
        hunique first (List.mem_cons_of_mem item hfst) second
          (List.mem_cons_of_mem item hsnd)]
      simp [htest]

/-- Passing on neither loses nor doubles a visit. -/
theorem Exact.step (hacyclic : graph.IsAcyclic) {source : V} {flood after : Flood V}
    (h : Exact graph source flood) (hstep : Step graph flood token after) :
    Exact graph source after := by
  classical
  obtain ⟨rest, next, hpend, hnodup, hnext, ha, hvisited⟩ := hstep
  have horigin := h.edges token (hpend.mem_iff.mpr (.head _))
  refine ⟨?_, fun vertex => ?_⟩
  · intro other ho
    rcases List.mem_append.mp (ha.mem_iff.mp ho) with hold | hnew
    · exact h.edges other (hpend.mem_iff.mpr (List.mem_cons_of_mem token hold))
    obtain ⟨neighbour, hneighbour, rfl⟩ := List.mem_map.mp hnew
    rintro origin horigin
    cases horigin
    exact ((hnext neighbour).mp hneighbour).1
  · have hpassed : (next.map fun neighbour => (⟨neighbour, some token.place⟩ : Token V)).countP
          (fun other => other.Leads graph vertex) =
        if ∃ neighbour ∈ next, (⟨neighbour, some token.place⟩ : Token V).Leads graph vertex
          then 1 else 0 := by
      rw [List.countP_map, countP_of_unique hnodup]
      · simp
      intro first hfst second hsnd hleads hleads'
      exact Token.leads_unique hacyclic ((hnext first).mp hfst).1
        ((hnext second).mp hsnd).1 (by simpa using hleads) (by simpa using hleads')
    have hsplit := Token.leads_iff hacyclic horigin vertex
    simp only [← hnext] at hsplit
    rw [← h.once vertex, arrivals, arrivals, hvisited, ha.countP_eq, hpend.countP_eq,
      List.countP_append, hpassed, List.countP_cons, List.count_append, List.count_singleton]
    by_cases hself : vertex = token.place
    · subst hself
      have hnot : ¬ ∃ neighbour ∈ next,
          (⟨neighbour, some token.place⟩ : Token V).Leads graph token.place :=
        fun ⟨neighbour, _, hback⟩ => Token.not_leads_back neighbour token.place hback
      have hleads := hsplit.mpr (.inl rfl)
      simp only [hleads, hnot, if_false, decide_true, if_true, beq_self_eq_true]
      omega
    · have hiff := hsplit.trans (or_iff_right hself)
      simp only [hiff, decide_eq_true_eq, beq_eq_false_iff_ne.mpr (Ne.symm hself),
        Bool.false_eq_true, if_false]
      omega

variable {source : V} {flood : Flood V}

theorem exact_of_reachable (hacyclic : graph.IsAcyclic)
    (h : Reachable (fun first => first = start source) (Step graph) flood) :
    Exact graph source flood := by
  refine Reachable.induct ?_ ?_ h
  · rintro first rfl
    classical
    refine ⟨?_, fun vertex => ?_⟩
    · intro token htoken
      rw [List.mem_singleton.mp htoken]
      exact fun _ horigin => nomatch horigin
    · simp [arrivals, start, List.countP_cons, Token.leads_none]
  · intro state token after _ ih hstep
    exact ih.step hacyclic hstep

theorem Exact.count_le_one (h : Exact graph source flood) (vertex : V) :
    flood.visited.count vertex ≤ 1 := by
  have honce := h.once vertex
  unfold arrivals at honce
  split at honce <;> omega

/-- Once no token is left, the connected vertices were visited. -/
theorem Exact.count_of_done (h : Exact graph source flood) (hd : flood.pending = [])
    (hreach : graph.Reachable source vertex) : flood.visited.count vertex = 1 := by
  have honce := h.once vertex
  rw [arrivals, hd, List.countP_nil, if_pos hreach] at honce
  exact honce

end Flood

end GvSwitch.Foundation
