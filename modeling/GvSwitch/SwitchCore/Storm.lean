import GvSwitch.Foundation.TokenBucket
import GvSwitch.SwitchCore.Protect
import Mathlib.Tactic.Ring

/-!
# Storm control over whole histories

The bucket of a port is a token bucket whose clock is the time of the last
refill.  A refused call takes a token as well, and a refill drops the fraction
of a token while it moves the clock by the whole interval.  Histories list the
latest call first.
-/

namespace GvSwitch.SwitchCore

open Foundation StormBucket

namespace StormBucket

def after (pps : Nat) : List Int → StormBucket
  | [] => {}
  | now :: history => ((after pps history).allow now pps).1

/-- The answer to a call at `now`, on a port with the given earlier calls. -/
def answer (pps : Nat) (now : Int) (history : List Int) : Bool :=
  ((after pps history).allow now pps).2

end StormBucket

def within (low : Int) (span : Nat) (time : Int) : Bool :=
  decide (low ≤ time ∧ time ≤ low + span)

/-- How many calls of a window of `span` nanoseconds were allowed. -/
def allowedWithin (pps : Nat) (low : Int) (span : Nat) : List Int → Nat
  | [] => 0
  | now :: history => allowedWithin pps low span history +
      if StormBucket.answer pps now history && within low span now then 1 else 0

/-! ## The token bucket of a port -/

def stormRefill (pps : Nat) (last now : Int) : Int :=
  if now - last > 0 then (now - last) * pps / 1000000000 else 0

def stormTokens (pps : Nat) : TokenBucket Int Int := ⟨pps, 0, stormRefill pps, max⟩

section Calls

variable (pps : Nat)

theorem stormRefill_nonneg (last now : Int) : 0 ≤ stormRefill pps last now := by
  rw [stormRefill]
  split
  · have := Int.mul_nonneg (a := now - last) (b := pps) (by omega) (by omega)
    omega
  · exact Int.le_refl 0

theorem StormBucket.allow_started (bucket : StormBucket) (now taken : Int)
    (hstart : bucket.lastNano ≠ 0) (hcap : bucket.tokens ≤ pps)
    (htaken : taken =
      min (pps : Int) (bucket.tokens + stormRefill pps bucket.lastNano now) - 1) :
    bucket.allow now pps = (⟨taken, max bucket.lastNano now⟩, decide (0 ≤ taken)) := by
  subst htaken
  simp only [allow, stormRefill, beq_iff_eq, hstart, if_false, false_or]
  split
  · rw [max_eq_right (by omega)]
    split
    · rw [min_eq_left (by omega)]
      rfl
    · rw [min_eq_right (by omega)]
  · rw [max_eq_left (by omega), min_eq_right (by omega), Int.add_zero]

variable {now : Int} {history : List Int}

/-- A bucket that was never used acts like one that is full at time 0. -/
theorem StormBucket.allow_after (hpos : ∀ time ∈ now :: history, 0 < time) :
    (after pps history).allow now pps =
      (⟨(stormTokens pps).level (now :: history), (stormTokens pps).clock (now :: history)⟩,
        decide (0 ≤ (stormTokens pps).level (now :: history))) := by
  obtain ⟨hnow, hhistory⟩ := List.forall_mem_cons.mp hpos
  induction history generalizing now with
  | nil =>
    have hrefill := stormRefill_nonneg pps 0 now
    have hlevel : (stormTokens pps).level [now] = pps - 1 :=
      congrArg (· - 1) (min_eq_left (Int.le_add_of_nonneg_right hrefill))
    have hclock : (stormTokens pps).clock [now] = now := max_eq_right hnow.le
    simp [hlevel, hclock, allow, after]
  | cons previous history ih =>
    obtain ⟨hprevious, hearlier⟩ := List.forall_mem_cons.mp hhistory
    rw [after, ih hhistory hprevious hearlier]
    refine allow_started pps _ now _ ?_ ?_ rfl
    · change max _ previous ≠ 0
      omega
    · change min (pps : Int) _ - 1 ≤ (pps : Int)
      omega

/-- A call is allowed when every stretch of calls up to it, the refused ones
among them, is covered by a full bucket and the refills of the stretch. -/
theorem answer_iff (hpos : ∀ time ∈ now :: history, 0 < time) :
    answer pps now history = true ↔
      ∀ call earlier, (call :: earlier) <:+ (now :: history) →
        (history.length : Int) - earlier.length + 1 ≤
          pps + ((stormTokens pps).refilled (now :: history) -
            (stormTokens pps).refilled (call :: earlier)) := by
  rw [answer, allow_after pps hpos, decide_eq_true_eq,
    TokenBucket.le_level_iff _ (stormRefill_nonneg pps)]
  simp only [Int.zero_add, stormTokens]

/-! ## The upper bound -/

theorem clock_le {bound : Int} (hbound : 0 ≤ bound) (h : ∀ time ∈ history, time ≤ bound) :
    (stormTokens pps).clock history ≤ bound := by
  induction history with
  | nil => exact hbound
  | cons time history ih =>
    obtain ⟨htime, hhistory⟩ := List.forall_mem_cons.mp h
    exact max_le (ih hhistory) htime

/-- The fractions that the refills drop are never made up. -/
theorem refilled_le (hpos : ∀ time ∈ now :: history, 0 < time)
    (hsorted : (now :: history).Pairwise (· ≥ ·)) {call : Int} {earlier : List Int}
    (hsuffix : (call :: earlier) <:+ (now :: history)) :
    (stormTokens pps).refilled (now :: history) -
      (stormTokens pps).refilled (call :: earlier) ≤ (now - call) * pps / 1000000000 := by
  induction history generalizing now with
  | nil =>
    cases List.suffix_cons_iff.mp hsuffix with
    | inl hs =>
      cases hs
      simp
    | inr hnil => cases List.suffix_nil.mp hnil
  | cons previous history ih =>
    obtain ⟨hnow, hearlier⟩ := List.pairwise_cons.mp hsorted
    obtain ⟨-, hpos'⟩ := List.forall_mem_cons.mp hpos
    cases List.suffix_cons_iff.mp hsuffix with
    | inl hs =>
      cases hs
      simp
    | inr hsuffix =>
      have hlater := ih hpos' hearlier hsuffix
      have hclock : (stormTokens pps).clock (previous :: history) = previous :=
        max_eq_right (clock_le pps (hpos' previous (by simp)).le
          (List.pairwise_cons.mp hearlier).1)
      have hrefill : stormRefill pps previous now ≤ (now - previous) * pps / 1000000000 := by
        rw [stormRefill]
        split
        · exact Int.le_refl _
        · rw [show now - previous = 0 by have := hnow previous (by simp); omega]
          simp
      have hsum : (now - previous) * pps + (previous - call) * pps =
          (now - call) * pps := by ring
      have hrefilled : (stormTokens pps).refilled (now :: previous :: history) =
          stormRefill pps ((stormTokens pps).clock (previous :: history)) now +
            (stormTokens pps).refilled (previous :: history) := rfl
      rw [hrefilled, hclock]
      omega

variable (low : Int) (span : Nat)

theorem allowedWithin_le_countP :
    allowedWithin pps low span history ≤ history.countP (within low span) := by
  induction history with
  | nil => exact Nat.le_refl 0
  | cons now history ih =>
    rw [allowedWithin, List.countP_cons]
    cases answer pps now history <;> simp <;> omega

/-- The calls of a window are those from its first one on. -/
theorem exists_first_within (hsorted : (now :: history).Pairwise (· ≥ ·)) (hlow : low ≤ now) :
    ∃ call earlier, (call :: earlier) <:+ (now :: history) ∧ low ≤ call ∧
      ((now :: history).countP (within low span) : Int) ≤
        history.length - earlier.length + 1 := by
  induction history generalizing now with
  | nil => exact ⟨now, [], List.suffix_rfl, hlow, by
      have := List.countP_le_length (p := within low span) (l := [now])
      simp only [List.length_cons, List.length_nil] at this ⊢
      omega⟩
  | cons previous history ih =>
    have hearlier := (List.pairwise_cons.mp hsorted).2
    have hcount : (now :: previous :: history).countP (within low span) ≤
        (previous :: history).countP (within low span) + 1 := by
      rw [List.countP_cons]
      split <;> omega
    by_cases hprevious : low ≤ previous
    · obtain ⟨call, earlier, hsuffix, hc, hb⟩ := ih hearlier hprevious
      refine ⟨call, earlier, hsuffix.trans (List.suffix_cons _ _), hc, ?_⟩
      rw [List.length_cons]
      omega
    · have hnone : (previous :: history).countP (within low span) = 0 := by
        refine List.countP_eq_zero.mpr fun time htime => ?_
        have hle : time ≤ previous := by
          rcases List.mem_cons.mp htime with rfl | htime
          · exact Int.le_refl _
          · exact (List.pairwise_cons.mp hearlier).1 time htime
        simp only [within, decide_eq_true_eq]
        omega
      refine ⟨now, previous :: history, List.suffix_rfl, hlow, ?_⟩
      omega

end Calls

/-- Over any window the budget of one second and of the window is kept. -/
theorem allowedWithin_le (pps : Nat) (times : List Int) (low : Int) (span : Nat)
    (hpositive : ∀ time ∈ times, 0 < time) (hsorted : times.Pairwise (· ≥ ·)) :
    (allowedWithin pps low span times : Int) ≤ pps + span * pps / 1000000000 := by
  induction times with
  | nil =>
    have := Int.mul_nonneg (a := span) (b := pps) (by omega) (by omega)
    rw [allowedWithin]
    omega
  | cons now history ih =>
    have hb := ih (List.forall_mem_cons.mp hpositive).2 (List.pairwise_cons.mp hsorted).2
    have hle : allowedWithin pps low span (now :: history) ≤ _ :=
      allowedWithin_le_countP pps low span
    rw [allowedWithin] at hle ⊢
    split at hle
    · rename_i hcnt
      obtain ⟨hanswer, hwithin⟩ := Bool.and_eq_true_iff.mp hcnt
      obtain ⟨hlow, hhigh⟩ := of_decide_eq_true hwithin
      obtain ⟨call, earlier, hsuffix, hc, hcount⟩ :=
        exists_first_within low span hsorted hlow
      have hstretch := (answer_iff pps hpositive).mp hanswer call earlier hsuffix
      have hrefilled := refilled_le pps hpositive hsorted hsuffix
      have hmono : (now - call) * pps ≤ span * (pps : Int) :=
        Int.mul_le_mul_of_nonneg_right (by omega) (by omega)
      rw [if_pos hcnt]
      omega
    · rename_i hcnt
      rw [if_neg hcnt]
      exact hb

theorem allowedWithin_le_burst :
    allowedWithin 2 1 1000000000 [500000001, 1, 1] = 3 ∧
      (allowedWithin 2 1 1000000000 [500000001, 1, 1] : Int) ≤
        2 + 1000000000 * 2 / 1000000000 :=
  ⟨by decide, allowedWithin_le 2 _ 1 1000000000 (by decide) (by decide)⟩

/-! ## After a storm -/

/-- The first call after a pause is allowed exactly when every stretch of the
calls before it, the refused ones among them, leaves room for it in a full bucket
and the refills of the stretch and of the pause. -/
theorem answer_after_pause_iff (pps : Nat) (hpps : 1 ≤ pps) (now : Int) (history : List Int)
    (hpositive : ∀ time ∈ now :: history, 0 < time) :
    StormBucket.answer pps now history = true ↔
      ∀ call earlier, (call :: earlier) <:+ history →
        (history.length : Int) - earlier.length + 1 ≤
          pps + ((stormTokens pps).refilled (now :: history) -
            (stormTokens pps).refilled (call :: earlier)) := by
  rw [answer_iff pps hpositive]
  constructor
  · intro hstretch call earlier hsuffix
    exact hstretch call earlier (hsuffix.trans (List.suffix_cons _ _))
  · intro hstretch call earlier hsuffix
    rcases List.suffix_cons_iff.mp hsuffix with hs | hsuffix
    · cases hs
      omega
    · exact hstretch call earlier hsuffix

theorem answer_after_storm_refused : StormBucket.answer 1 1000000002 [2, 1] = false := by
  decide

theorem answer_after_pause_single : StormBucket.answer 1 1000000001 [1] = true :=
  (answer_after_pause_iff 1 (by decide) 1000000001 [1] (by decide)).mpr (by
    intro call earlier hsuffix
    rcases List.suffix_cons_iff.mp hsuffix with hs | hnil
    · cases hs
      decide
    · cases List.suffix_nil.mp hnil)

/-! ## Under a sustained overload -/

def Overload (pps : Nat) (times : List Int) : Prop :=
  times.IsChain fun now previous => (now - previous) * (pps : Int) < 1000000000

/-- Every refill after the first call is rounded down to nothing. -/
theorem level_of_overload (pps : Nat) (times : List Int) (hover : Overload pps times) :
    (stormTokens pps).level times = pps - times.length := by
  induction times with
  | nil => simp [TokenBucket.level, stormTokens]
  | cons now history ih =>
    have hlevel := ih (List.IsChain.of_cons hover)
    have hrefill := stormRefill_nonneg pps ((stormTokens pps).clock history) now
    have hnext : (stormTokens pps).level (now :: history) =
        min (pps : Int) ((stormTokens pps).level history +
          stormRefill pps ((stormTokens pps).clock history) now) - 1 := rfl
    rw [hnext, hlevel, List.length_cons]
    cases history with
    | nil =>
      rw [List.length_nil]
      omega
    | cons previous history =>
      have hgap := (List.isChain_cons_cons.mp hover).1
      have hclock : previous ≤ (stormTokens pps).clock (previous :: history) :=
        le_max_right _ _
      have hzero : stormRefill pps ((stormTokens pps).clock (previous :: history)) now =
          0 := by
        rw [stormRefill] at hrefill ⊢
        split
        · have hle : (now - (stormTokens pps).clock (previous :: history)) * pps ≤
              (now - previous) * (pps : Int) :=
            Int.mul_le_mul_of_nonneg_right (by omega) (by omega)
          omega
        · rfl
      rw [hzero]
      omega

def firstCalls (pps : Nat) (times : List Int) : List Int := times.drop (times.length - pps)

theorem allowedWithin_of_overload (pps : Nat) (times : List Int) (low : Int) (span : Nat)
    (hpos : ∀ time ∈ times, 0 < time) (hover : Overload pps times) :
    allowedWithin pps low span times =
      (firstCalls pps times).countP (within low span) := by
  induction times with
  | nil => simp [allowedWithin, firstCalls]
  | cons now history ih =>
    have hlevel := level_of_overload pps _ hover
    rw [allowedWithin, ih (List.forall_mem_cons.mp hpos).2
      (List.IsChain.of_cons hover), answer, allow_after pps hpos,
      hlevel, firstCalls, firstCalls, List.length_cons]
    by_cases hfst : history.length < pps
    · rw [Nat.sub_eq_zero_of_le hfst, Nat.sub_eq_zero_of_le hfst.le, List.drop_zero,
        List.drop_zero, List.countP_cons, decide_eq_true (by omega), Bool.true_and]
    rw [Nat.succ_sub (Nat.le_of_not_lt hfst), List.drop_succ_cons,
      decide_eq_false (by omega)]
    rfl

/-- The configured rate is reached in a window exactly when the first `pps`
calls are enough for it. -/
theorem overload_rate_iff (pps : Nat) (times : List Int) (low : Int) (span : Nat)
    (hpositive : ∀ time ∈ times, 0 < time) (hover : Overload pps times) :
    pps * span ≤ 1000000000 * (allowedWithin pps low span times + 2) ↔
      pps * span ≤ 1000000000 * ((firstCalls pps times).countP (within low span) + 2) := by
  rw [allowedWithin_of_overload pps times low span hpositive hover]

theorem overload_rate_first_second :
    let times := [700000001, 600000001, 500000001, 400000001, 300000001, 200000001,
      100000001, 1]
    2 * 1000000000 < 4 * 1000000000 ∧
      4 * 1000000000 ≤ 1000000000 * (allowedWithin 4 1 1000000000 times + 2) :=
  ⟨by decide, (overload_rate_iff 4 _ 1 1000000000 (by decide) (by simp [Overload])).mpr
    (by decide)⟩

theorem overload_rate_starved :
    let times := [4000000001, 3500000001, 3000000001, 2500000001, 2000000001, 1500000001,
      1000000001, 500000001, 1]
    Overload 1 times ∧
      ¬ 1 * 4000000000 ≤ 1000000000 * (allowedWithin 1 1 4000000000 times + 2) := by
  refine ⟨?_, by decide⟩
  simp [Overload]

end GvSwitch.SwitchCore
