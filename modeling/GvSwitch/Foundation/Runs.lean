import Mathlib.Data.List.Nodup

/-!
# Runs of a transition system

Invariants are proved once, from the initial states and one step.  A guarded
run takes only steps that meet a condition on the state before the step.  The
two-run rule at the end is the unwinding rule for noninterference.
-/

namespace GvSwitch.Foundation

variable {σ ι ω : Type*}

inductive Reachable (init : σ → Prop) (step : σ → ι → σ → Prop) : σ → Prop
  | start {state : σ} : init state → Reachable init step state
  | next {state after : σ} {label : ι} :
      Reachable init step state → step state label after →
        Reachable init step after

/-- Only steps that meet `ok` in the state before them. -/
def Guarded (ok : σ → ι → Prop) (step : σ → ι → σ → Prop)
    (state : σ) (label : ι) (after : σ) : Prop :=
  ok state label ∧ step state label after

variable {state : σ} {τ : Type*}

namespace Reachable

variable {init : σ → Prop} {step : σ → ι → σ → Prop} {motive : σ → Prop}

theorem induct (hinit : ∀ state, init state → motive state)
    (hstep : ∀ state label after, Reachable init step state →
      motive state → step state label after → motive after) (h : Reachable init step state) :
    motive state := by
  induction h with
  | start hstart => exact hinit _ hstart
  | next hreach htrans ih => exact hstep _ _ _ hreach ih htrans

theorem mono {other : σ → ι → σ → Prop}
    (hsub : ∀ state label after, step state label after → other state label after)
    (h : Reachable init step state) : Reachable init other state := by
  induction h with
  | start hstart => exact .start hstart
  | next _ htrans ih => exact .next ih (hsub _ _ _ htrans)

theorem trans {middle : σ} (h : Reachable init step middle)
    (h' : Reachable (fun first => first = middle) step state) :
    Reachable init step state := by
  induction h' with
  | start hstart =>
    subst hstart
    exact h
  | next _ htrans ih => exact .next ih htrans

/-- A system whose steps another system matches, or does not notice, stays
among the states of the other. -/
theorem simulate {κ : Type*} {init' : τ → Prop} {step' : τ → κ → τ → Prop} (view : σ → τ)
    (hinit : ∀ state, init state → init' (view state))
    (hstep : ∀ state label after, step state label after →
      (∃ label', step' (view state) label' (view after)) ∨ view after = view state)
    (h : Reachable init step state) : Reachable init' step' (view state) := by
  induction h with
  | start hstart => exact .start (hinit _ hstart)
  | next _ htrans ih =>
    rcases hstep _ _ _ htrans with ⟨label', hmatch⟩ | hs
    · exact .next ih hmatch
    · rw [hs]
      exact ih

end Reachable

/-- The run of a partial step function, as far as every step meets `ok`. -/
def replay (step : σ → ι → Option σ) (ok : σ → ι → Prop)
    [∀ state label, Decidable (ok state label)] : σ → List ι → Option σ
  | state, [] => some state
  | state, label :: rest =>
    if ok state label then
      (step state label).bind fun after => replay step ok after rest
    else none

variable {step : σ → ι → Option σ} {init : σ → Prop}

theorem Reachable.replay {ok : σ → ι → Prop} [∀ state label, Decidable (ok state label)]
    {labels : List ι} {after : σ}
    (h : Reachable init (Guarded ok fun before label next => step before label = some next)
      state) (hrun : Foundation.replay step ok state labels = some after) :
    Reachable init (Guarded ok fun before label next => step before label = some next)
      after := by
  induction labels generalizing state with
  | nil =>
    cases hrun
    exact h
  | cons label rest ih =>
    rw [Foundation.replay] at hrun
    split at hrun
    · rename_i hok
      obtain ⟨middle, hstep, hrest⟩ := Option.bind_eq_some_iff.mp hrun
      exact ih (.next h ⟨hok, hstep⟩) hrest
    · cases hrun

theorem reachable_of_replay {labels : List ι} {after : σ} (hinit : init state)
    (hrun : replay step (fun _ _ => True) state labels = some after) :
    Reachable init (fun before label next => step before label = some next) after := by
  have hguarded := Reachable.replay (.start hinit) hrun
  exact hguarded.mono fun _ _ _ hstep => hstep.2

/-- Runs from two states that look the same go on looking the same. -/
theorem map_replay_eq {view : σ → τ} {keep : σ → Prop}
    (hstep : ∀ first second label, keep first → keep second → view first = view second →
      (step first label).map view = (step second label).map view)
    (hkeep : ∀ state label after, keep state → step state label = some after → keep after)
    {first second : σ} (hfst : keep first) (hsnd : keep second)
    (hview : view first = view second) (labels : List ι) :
    (replay step (fun _ _ => True) first labels).map view =
      (replay step (fun _ _ => True) second labels).map view := by
  induction labels generalizing first second with
  | nil => exact congrArg some hview
  | cons label rest ih =>
    have hs := hstep first second label hfst hsnd hview
    simp only [replay, if_true]
    cases hleft : step first label with
    | none =>
      rw [hleft, Option.map_none, eq_comm, Option.map_eq_none_iff] at hs
      rw [hs]
    | some after =>
      rw [hleft, Option.map_some, eq_comm, Option.map_eq_some_iff] at hs
      obtain ⟨after', hright, hview'⟩ := hs
      rw [hright]
      exact ih (hkeep first label after hfst hleft)
        (hkeep second label after' hsnd hright) hview'.symm

/-- Every step of the run meets `ok`. -/
def Along (step : σ → ι → σ) (ok : σ → ι → Prop) : σ → List ι → Prop
  | _, [] => True
  | state, input :: rest => ok state input ∧ Along step ok (step state input) rest

instance Along.decidable (step : σ → ι → σ) (ok : σ → ι → Prop)
    [∀ state input, Decidable (ok state input)] :
    ∀ state inputs, Decidable (Along step ok state inputs)
  | _, [] => .isTrue trivial
  | state, input :: rest =>
    have := Along.decidable step ok (step state input) rest
    inferInstanceAs (Decidable (ok state input ∧ Along step ok (step state input) rest))

theorem Along.mono {step : σ → ι → σ} {ok ok' : σ → ι → Prop}
    (hsub : ∀ state input, ok state input → ok' state input) {state : σ} {inputs : List ι}
    (h : Along step ok state inputs) : Along step ok' state inputs := by
  induction inputs generalizing state with
  | nil => trivial
  | cons input rest ih => exact ⟨hsub state input h.1, ih h.2⟩

theorem Reachable.along {κ : Type*} {rel : σ → κ → σ → Prop} {step : σ → ι → σ}
    {ok : σ → ι → Prop} (label : ι → κ)
    (hok : ∀ state input, ok state input → rel state (label input) (step state input))
    {inputs : List ι} (h : Reachable init rel state) (halong : Along step ok state inputs) :
    Reachable init rel (inputs.foldl step state) := by
  induction inputs generalizing state with
  | nil => exact h
  | cons input rest ih => exact ih (.next h (hok state input halong.1)) halong.2

theorem foldl_related {α : Type*} (related : σ → σ → Prop)
    (hrefl : ∀ state, related state state)
    (htrans : ∀ {first second third}, related first second →
      related second third → related first third)
    (body : σ → α → σ) (hbody : ∀ state item, related state (body state item))
    (items : List α) (state : σ) : related state (items.foldl body state) := by
  induction items generalizing state with
  | nil => exact hrefl state
  | cons item rest ih => exact htrans (hbody state item) (ih (body state item))

section Pass

variable {κ : Type*} {body : σ → κ → σ} {keep : σ → Prop} {agree : κ → σ → σ → Prop}
  (hrefl : ∀ key state, agree key state state)
  (htrans : ∀ {key first second third}, agree key first second →
    agree key second third → agree key first third)
  (hkeep : ∀ state key, keep state → keep (body state key))
  (ho : ∀ state key other, keep state → other ≠ key → agree other state (body state key))

include hrefl htrans hkeep ho

/-- A loop leaves what belongs to a key it does not visit. -/
theorem foldl_pass_of_notMem {order : List κ} {key : κ} (hkey : key ∉ order) {start : σ}
    (hstart : keep start) : agree key start (order.foldl body start) := by
  induction order generalizing start with
  | nil => exact hrefl key start
  | cons other rest ih =>
    have hne : key ≠ other := List.ne_of_not_mem_cons hkey
    exact htrans (ho start other key hstart hne)
      (ih (List.not_mem_of_not_mem_cons hkey) (hkeep start other hstart))

/-- A loop that visits a key once does to it what its body does in a state that
looks the same from there. -/
theorem foldl_pass_of_mem {order : List κ} (hnodup : order.Nodup) {key : κ}
    (hkey : key ∈ order) {start : σ} (hstart : keep start) :
    ∃ middle, keep middle ∧ agree key start middle ∧
      agree key (body middle key) (order.foldl body start) := by
  induction order generalizing start with
  | nil => cases hkey
  | cons other rest ih =>
    obtain ⟨hfresh, hrest⟩ := List.nodup_cons.mp hnodup
    by_cases hhead : key = other
    · subst hhead
      exact ⟨start, hstart, hrefl key start, foldl_pass_of_notMem hrefl htrans hkeep
        ho hfresh (hkeep start key hstart)⟩
    · obtain ⟨middle, hmiddle, hb, ha⟩ := ih hrest
        ((List.mem_cons.mp hkey).resolve_left hhead) (hkeep start other hstart)
      exact ⟨middle, hmiddle, htrans (ho start other key hstart hhead) hb, ha⟩

end Pass

/-! ## Simulation -/

def trace (step : σ → ι → σ × ω) : σ → List ι → σ × List ω
  | state, [] => (state, [])
  | state, input :: rest =>
    let next := step state input
    let later := trace step next.1 rest
    (later.1, next.2 :: later.2)

/-- A system that simulates another step by step produces its outputs. -/
theorem trace_simulation {step : σ → ι → σ × ω} {step' : τ → ι → τ × ω}
    (related : σ → τ → Prop) {ok : ι → Prop}
    (hstep : ∀ state state' input, ok input → related state state' →
      related (step state input).1 (step' state' input).1 ∧
        (step state input).2 = (step' state' input).2) (inputs : List ι)
    (hinputs : ∀ input ∈ inputs, ok input) (state : σ) (state' : τ)
    (hrel : related state state') :
    related (trace step state inputs).1 (trace step' state' inputs).1 ∧
      (trace step state inputs).2 = (trace step' state' inputs).2 := by
  induction inputs generalizing state state' with
  | nil => exact ⟨hrel, rfl⟩
  | cons input rest ih =>
    obtain ⟨hnext, houtput⟩ := hstep state state' input (hinputs input (.head _)) hrel
    obtain ⟨hlast, houtputs⟩ :=
      ih (fun later hlater => hinputs later (List.mem_cons_of_mem input hlater)) _ _ hnext
    exact ⟨hlast, by simp only [trace, houtput, houtputs]⟩

/-! ## Two runs -/

def observe (step : σ → ι → σ) (output : σ → ι → List ω) :
    σ → List ι → List ω
  | _, [] => []
  | state, input :: rest =>
    output state input ++ observe step output (step state input) rest

section Unwinding

variable {step : σ → ι → σ} {output : σ → ι → List ω} {low : ι → Bool}
  (related : σ → σ → Prop)

private theorem observe_of_no_low
    (hhigh : ∀ first second input, low input = false → related first second →
      related (step first input) second ∧ output first input = []) (inputs : List ι)
    (first second : σ) (hrel : related first second) (hinputs : inputs.filter low = []) :
    observe step output first inputs = [] := by
  induction inputs generalizing first with
  | nil => rfl
  | cons input rest ih =>
    have hlow : low input = false := by
      cases h : low input
      · rfl
      · simp [h] at hinputs
    obtain ⟨hnext, hsilent⟩ := hhigh first second input hlow hrel
    rw [observe, hsilent, List.nil_append]
    exact ih _ hnext (by simpa [hlow] using hinputs)

/-- Unwinding: a high input is silent and keeps the states related, a low
input keeps them related and is observed alike.  Runs with the same low inputs
are then observed alike. -/
theorem observe_eq_of_unwinding
    (hsymm : ∀ {first second}, related first second → related second first)
    (hhigh : ∀ first second input, low input = false → related first second →
      related (step first input) second ∧ output first input = [])
    (hlow : ∀ first second input, low input = true → related first second →
      related (step first input) (step second input) ∧
        output first input = output second input)
    (inputs₁ inputs₂ : List ι) (first second : σ) (hrel : related first second)
    (hinputs : inputs₁.filter low = inputs₂.filter low) :
    observe step output first inputs₁ = observe step output second inputs₂ := by
  induction inputs₁ generalizing first second inputs₂ with
  | nil =>
    -- The second run has no low input left, so it stays silent.
    rw [List.filter_nil] at hinputs
    exact (observe_of_no_low related hhigh inputs₂ second first (hsymm hrel)
      hinputs.symm).symm
  | cons input rest ih =>
    cases hinput : low input with
    | false =>
      obtain ⟨hnext, hsilent⟩ := hhigh first second input hinput hrel
      rw [observe, hsilent, List.nil_append]
      exact ih inputs₂ _ second hnext (by simpa [hinput] using hinputs)
    | true =>
      -- Skip the high inputs of the second run up to the same low input.
      induction inputs₂ generalizing second with
      | nil => simp [hinput] at hinputs
      | cons other others ihOthers =>
        cases ho : low other with
        | false =>
          obtain ⟨hnext, hsilent⟩ := hhigh second first other ho (hsymm hrel)
          rw [observe.eq_2 _ _ second, hsilent, List.nil_append]
          exact ihOthers _ (hsymm hnext) (by simpa [ho] using hinputs)
        | true =>
          simp only [List.filter_cons, hinput, ho, if_true, List.cons.injEq] at hinputs
          obtain ⟨rfl, htail⟩ := hinputs
          obtain ⟨hnext, hequal⟩ := hlow first second input hinput hrel
          rw [observe, observe, hequal]
          rw [ih others _ _ hnext htail]

end Unwinding

end GvSwitch.Foundation
