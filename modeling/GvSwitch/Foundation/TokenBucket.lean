import Mathlib.Data.List.Infix

/-!
# Token buckets

A bucket holds at most `cap` tokens and starts full.  Each call first adds the
tokens that its clock grants and then takes one, whether or not there was one, so
that the level can fall below zero.  Histories list the latest call first.
-/

namespace GvSwitch.Foundation

structure TokenBucket (σ ι : Type*) where
  cap : Int
  start : σ
  refill : σ → ι → Int
  advance : σ → ι → σ

namespace TokenBucket

variable {σ ι : Type*} (bucket : TokenBucket σ ι)

def clock : List ι → σ
  | [] => bucket.start
  | call :: earlier => bucket.advance (clock earlier) call

/-- What the calls added, before any cut at `cap`. -/
def refilled : List ι → Int
  | [] => 0
  | call :: earlier => bucket.refill (bucket.clock earlier) call + refilled earlier

def level : List ι → Int
  | [] => bucket.cap
  | call :: earlier =>
    min bucket.cap (level earlier + bucket.refill (bucket.clock earlier) call) - 1

/-- A level is reached exactly when no stretch of calls up to the latest takes
more than the cap and what was added within the stretch. -/
theorem le_level_iff (hrefill : ∀ clock call, 0 ≤ bucket.refill clock call) (bound : Int)
    (latest : ι) (history : List ι) :
    bound ≤ bucket.level (latest :: history) ↔
      ∀ call earlier, (call :: earlier) <:+ (latest :: history) →
        bound + (history.length - earlier.length + 1) ≤ bucket.cap +
          (bucket.refilled (latest :: history) - bucket.refilled (call :: earlier)) := by
  induction history generalizing bound latest with
  | nil =>
    have hnonneg := hrefill bucket.start latest
    simp only [level, clock, List.suffix_cons_iff, List.suffix_nil]
    constructor
    · rintro hlevel call earlier (hs | hnil)
      · cases hs
        simp only [List.length_nil]
        omega
      · cases hnil
    · intro hstretch
      have := hstretch latest [] (.inl rfl)
      simp only [List.length_nil] at this
      omega
  | cons previous history ih =>
    have hlevel : bound ≤ bucket.level (latest :: previous :: history) ↔
        bound + 1 ≤ bucket.cap ∧
          bound + 1 - bucket.refill (bucket.clock (previous :: history)) latest ≤
            bucket.level (previous :: history) := by
      rw [level]
      omega
    have hrefilled : bucket.refilled (latest :: previous :: history) =
        bucket.refill (bucket.clock (previous :: history)) latest +
          bucket.refilled (previous :: history) := rfl
    rw [hlevel, ih, List.length_cons]
    constructor
    · rintro ⟨hcap, hstretch⟩ call earlier hsuffix
      rcases List.suffix_cons_iff.mp hsuffix with hs | hsuffix
      · cases hs
        rw [List.length_cons]
        omega
      · have := hstretch call earlier hsuffix
        omega
    · intro hstretch
      constructor
      · have := hstretch latest (previous :: history) List.suffix_rfl
        rw [List.length_cons] at this
        omega
      · intro call earlier hsuffix
        have := hstretch call earlier (hsuffix.trans (List.suffix_cons _ _))
        omega

end TokenBucket

end GvSwitch.Foundation
