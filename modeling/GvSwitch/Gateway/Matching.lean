import Mathlib.Data.List.MinMax
import Mathlib.Data.Prod.Lex
import GvSwitch.Gateway.Serving

/-!
# The binding a client gets

`matchBinding` keeps a running maximum of the number of conditions and, among
equals, of the order.  It is the first maximum of the bindings that apply, so
that two bindings which tie leave the choice to the order of the slice.
-/

namespace GvSwitch.Gateway

open Foundation StaticBinding

instance rankPreorder : Preorder (Nat ×ₗ Int) :=
  (Prod.Lex.instLinearOrder Nat Int).toPartialOrder.toPreorder

namespace StaticBinding

def conditions (binding : StaticBinding) : Nat :=
  binding.portID.toList.length + binding.mac.toList.length + binding.clientID.toList.length

def fits (binding : StaticBinding) (portID mac clientID : String) : Bool :=
  binding.portID.all (· == portID) && binding.mac.all (equalFold · mac) &&
    binding.clientID.all (equalFold · clientID)

def applies (binding : StaticBinding) (portID mac clientID : String) : Bool :=
  decide (1 ≤ binding.conditions) && binding.fits portID mac clientID

def rank (binding : StaticBinding) : Nat ×ₗ Int := toLex (binding.conditions, binding.order)

theorem score_eq (binding : StaticBinding) (portID mac clientID : String) :
    binding.score portID mac clientID =
      if binding.fits portID mac clientID then some binding.conditions else none := by
  obtain ⟨id, order, port, hardware, client, ip⟩ := binding
  cases port <;> cases hardware <;> cases client <;>
    simp only [score, fits, conditions, Option.all, Option.toList] <;> grind

theorem rank_lt_iff (first second : StaticBinding) :
    first.rank < second.rank ↔ first.conditions < second.conditions ∨
      first.conditions = second.conditions ∧ first.order < second.order :=
  Prod.Lex.toLex_lt_toLex

end StaticBinding

variable {binding : StaticBinding}

section Matching

variable (bindings : List StaticBinding) (portID mac clientID : String)

/-- The second component of the running maximum is the score of the first. -/
def paired (best : Option StaticBinding) : Option StaticBinding × Nat :=
  (best, (best.map StaticBinding.conditions).getD 0)

theorem matchStep_paired (best : Option StaticBinding) (binding : StaticBinding) :
    matchStep portID mac clientID (paired best) binding =
      paired (if binding.applies portID mac clientID then
        Option.casesOn best (some binding) fun other =>
          if other.rank < binding.rank then some binding else some other
      else best) := by
  rw [matchStep, score_eq, applies]
  by_cases hfits : binding.fits portID mac clientID
  · rw [if_pos hfits, hfits, Bool.and_true]
    cases hconditions : binding.conditions with
    | zero => rfl
    | succ count =>
      cases best with
      | none => simp [paired, hconditions]
      | some other =>
        simp only [paired, rank_lt_iff, hconditions]
        grind
  · simp [hfits]

theorem foldl_matchStep :
    bindings.foldl (matchStep portID mac clientID) (none, 0) =
      paired ((bindings.filter (·.applies portID mac clientID)).argmax rank) := by
  induction bindings using List.reverseRecOn with
  | nil => rfl
  | append_singleton bindings binding ih =>
    rw [List.foldl_append, ih, List.foldl_cons, List.foldl_nil, matchStep_paired,
      List.filter_append, List.filter_singleton]
    cases binding.applies portID mac clientID with
    | false => simp
    | true => simp [List.argmax_concat]

theorem matchBinding_eq_argmax :
    matchBinding bindings portID mac clientID =
      (bindings.filter (·.applies portID mac clientID)).argmax rank :=
  congrArg Prod.fst (foldl_matchStep bindings portID mac clientID)

/-- Bindings that no other binding beats. -/
structure Wins (binding : StaticBinding) : Prop where
  mem : binding ∈ bindings
  applies : binding.applies portID mac clientID = true
  maximal : ∀ other ∈ bindings, other.applies portID mac clientID = true →
    other.rank ≤ binding.rank

variable {bindings portID mac clientID}

theorem wins_of_matchBinding (h : matchBinding bindings portID mac clientID = some binding) :
    Wins bindings portID mac clientID binding := by
  rw [matchBinding_eq_argmax] at h
  obtain ⟨hm, happlies⟩ := List.mem_filter.mp (List.argmax_mem h)
  exact ⟨hm, happlies, fun other ho hfits =>
    List.le_of_mem_argmax (List.mem_filter.mpr ⟨ho, hfits⟩) h⟩

theorem matchBinding_eq_none_iff :
    matchBinding bindings portID mac clientID = none ↔
      ∀ binding ∈ bindings, binding.applies portID mac clientID = false := by
  rw [matchBinding_eq_argmax, List.argmax_eq_none, List.filter_eq_nil_iff]
  simp

theorem Wins.perm {slice : List StaticBinding} (h : Wins slice portID mac clientID binding)
    (hperm : slice.Perm bindings) : Wins bindings portID mac clientID binding :=
  ⟨hperm.mem_iff.mp h.mem, h.applies, fun other ho =>
    h.maximal other (hperm.mem_iff.mpr ho)⟩

/-- Some order of the slice makes a given winner the first maximum. -/
theorem Wins.exists_first (h : Wins bindings portID mac clientID binding) :
    ∃ slice, slice.Perm bindings ∧
      matchBinding slice portID mac clientID = some binding := by
  obtain ⟨before, after, rfl⟩ := List.append_of_mem h.mem
  refine ⟨binding :: (before ++ after), List.perm_middle.symm, ?_⟩
  rw [matchBinding_eq_argmax, List.filter_cons, if_pos h.applies, List.argmax_cons]
  cases hrest : ((before ++ after).filter (·.applies portID mac clientID)).argmax rank with
  | none => rfl
  | some other =>
    obtain ⟨hm, happlies⟩ := List.mem_filter.mp (List.argmax_mem hrest)
    have hle := h.maximal other (List.perm_middle.mem_iff.mpr (.tail _ hm)) happlies
    exact if_neg (not_lt.mpr hle)

end Matching

/-! ## The most specific binding -/

theorem matchBinding_correct (bindings : List StaticBinding) (portID mac clientID : String) :
    ((matchBinding bindings portID mac clientID).isSome = true ↔
        ∃ binding ∈ bindings, 1 ≤ binding.conditions ∧
          binding.fits portID mac clientID = true) ∧
      ∀ best, matchBinding bindings portID mac clientID = some best →
        best ∈ bindings ∧ 1 ≤ best.conditions ∧ best.fits portID mac clientID = true ∧
          ∀ binding ∈ bindings, 1 ≤ binding.conditions →
            binding.fits portID mac clientID = true →
              binding.conditions < best.conditions ∨
                binding.conditions = best.conditions ∧ binding.order ≤ best.order := by
  have happlies (binding : StaticBinding) : binding.applies portID mac clientID = true ↔
      1 ≤ binding.conditions ∧ binding.fits portID mac clientID = true := by
    simp [applies]
  constructor
  · rw [Option.isSome_iff_ne_none, ne_eq, matchBinding_eq_none_iff]
    simp [happlies, ← Bool.not_eq_true]
  · intro best hbest
    have hwins := wins_of_matchBinding hbest
    obtain ⟨hsome, hfits⟩ := (happlies best).mp hwins.applies
    refine ⟨hwins.mem, hsome, hfits, fun binding hm hsome' hfits' => ?_⟩
    exact Prod.Lex.toLex_le_toLex.mp
      (hwins.maximal binding hm ((happlies binding).mpr ⟨hsome', hfits'⟩))

/-! ## The order of the slice -/

theorem Dhcp4Server.bindings_perm (server : Dhcp4Server) (env env' : Env) :
    (server.bindings env).Perm (server.bindings env') :=
  ((env.statics_perm _).trans (env'.statics_perm _).symm).filterMap _

theorem Dhcp6Server.bindings_perm (server : Dhcp6Server) (env env' : Env) :
    (server.bindings env).Perm (server.bindings env') :=
  ((env.statics_perm _).trans (env'.statics_perm _).symm).filterMap _

def Untied (bindings : List StaticBinding) (portID mac clientID : String) : Prop :=
  ∀ first second, Wins bindings portID mac clientID first →
    Wins bindings portID mac clientID second → first = second

theorem matchBinding_perm {bindings slice : List StaticBinding} {portID mac clientID : String}
    (h : Untied bindings portID mac clientID) (hperm : slice.Perm bindings) :
    matchBinding slice portID mac clientID = matchBinding bindings portID mac clientID := by
  cases hbest : matchBinding bindings portID mac clientID with
  | none =>
    rw [matchBinding_eq_none_iff] at hbest ⊢
    exact fun binding hm => hbest binding (hperm.mem_iff.mp hm)
  | some best =>
    cases hsl : matchBinding slice portID mac clientID with
    | none =>
      have hwins := wins_of_matchBinding hbest
      have hnone := matchBinding_eq_none_iff.mp hsl best (hperm.mem_iff.mpr hwins.mem)
      simp [hwins.applies] at hnone
    | some other =>
      rw [h other best ((wins_of_matchBinding hsl).perm hperm) (wins_of_matchBinding hbest)]

/-- The order of the slice does not matter exactly when no two bindings tie, and
then a matched client gets the same address whatever the order of the map. -/
theorem matchBinding_order_iff (bindings : List StaticBinding) (portID mac clientID : String) :
    ((∀ slice, slice.Perm bindings →
        matchBinding slice portID mac clientID = matchBinding bindings portID mac clientID) ↔
      Untied bindings portID mac clientID) ∧
    (Untied bindings portID mac clientID →
      (matchBinding bindings portID mac clientID).isSome = true →
      ∀ env env' : Env, env.now = env'.now →
        (∀ (server : Dhcp4Server) (v4 : V4Config) (req : Dhcp4Request),
          (server.bindings env).Perm bindings → req.mac = mac → req.clientIDOf = clientID →
            server.selectIP env portID v4 req = server.selectIP env' portID v4 req) ∧
        ∀ (server : Dhcp6Server) (v6 : V6Config) (srcMAC : Bytes),
          (server.bindings env).Perm bindings → macString srcMAC = mac →
            server.selectIP6 env portID v6 srcMAC clientID =
              server.selectIP6 env' portID v6 srcMAC clientID) := by
  refine ⟨⟨fun hs first second hfst hsnd => ?_, fun huntied slice hperm =>
    matchBinding_perm huntied hperm⟩, fun huntied hsome env env' hnow => ⟨?_, ?_⟩⟩
  · obtain ⟨slice, hperm, hsl⟩ := hfst.exists_first
    obtain ⟨slice', hperm', hsl'⟩ := hsnd.exists_first
    rw [hs slice hperm] at hsl
    rw [hs slice' hperm', hsl] at hsl'
    exact Option.some.inj hsl'
  · rintro server v4 req hperm rfl rfl
    obtain ⟨best, hbest⟩ := Option.isSome_iff_exists.mp hsome
    have hfst := (matchBinding_perm huntied hperm).trans hbest
    have hsnd := (matchBinding_perm huntied
      ((server.bindings_perm env' env).trans hperm)).trans hbest
    simp only [Dhcp4Server.selectIP, hfst, hsnd, Dhcp4Server.draft, hnow]
  · rintro server v6 srcMAC hperm rfl
    obtain ⟨best, hbest⟩ := Option.isSome_iff_exists.mp hsome
    have hfst := (matchBinding_perm huntied hperm).trans hbest
    have hsnd := (matchBinding_perm huntied
      ((server.bindings_perm env' env).trans hperm)).trans hbest
    simp only [Dhcp6Server.selectIP6, hfst, hsnd, Dhcp6Server.draft, hnow]

def twinBinding (id : String) (address : Ip4) : StaticBinding :=
  ⟨id, 0, none, some "02:00:00:00:00:01", none, .ip4 address⟩

/-- Two bindings of default order on one MAC: the address depends on the order in
which the map is iterated. -/
theorem tied_bindings_differ :
    ∃ (server : Dhcp4Server) (env env' : Env),
      ({ ipv4 := some ⟨0x0a000001, 24⟩ } : Dhcp4Server).replaceStatics
          [twinBinding "a" 0x0a000005, twinBinding "b" 0x0a000006] = .ok server ∧
        env.now = env'.now ∧
        (server.selectIP env "p" ⟨0x0a000001, 24⟩
          ⟨true, .discover, [2, 0, 0, 0, 0, 1], [], none, 0, false⟩).1 = .ip4 0x0a000006 ∧
        (server.selectIP env' "p" ⟨0x0a000001, 24⟩
          ⟨true, .discover, [2, 0, 0, 0, 0, 1], [], none, 0, false⟩).1 = .ip4 0x0a000005 :=
  ⟨_, ⟨0, id, id, fun keys => .refl keys, fun keys => .refl keys⟩,
    ⟨0, List.reverse, id, List.reverse_perm, fun keys => .refl keys⟩, rfl, rfl,
    by decide, by decide⟩

end GvSwitch.Gateway
