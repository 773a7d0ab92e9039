import GvSwitch.Foundation.Text
import GvSwitch.SwitchCore.StaticEntries
import GvSwitch.SwitchCore.Switch
import Mathlib.Data.List.Induction

/-!
# Sweeps and flushes of the forwarding database

`lookup`, `snapshot` and `expire` each decide with a comparison of their own
whether an entry is too old.  They agree, so that a sweep removes only what no
later reader would have been shown.  A flush removes what its filters ask for
unless the VLAN is not an `int32`.
-/

namespace GvSwitch.SwitchCore

open Foundation GoMap FdbOp

structure FdbRow where
  vlan : Int
  mac : String
  portID : String
  age : Int
  static : Bool
  deriving DecidableEq, Repr

def FdbOp.isExpire : FdbOp → Bool
  | .expire _ => true
  | _ => false

/-- When an operation reads the clock, and what it reads. -/
def FdbOp.time : FdbOp → Option Int
  | .learn now _ _ _ _ | .lookup now _ _ | .addStatic now _ _ _ | .expire now => some now
  | _ => none

def FdbOp.newAge : FdbOp → Option Int
  | .setMaxAge maxAge => some maxAge
  | _ => none

namespace Fdb

/-- The rows in the order of the entries; the source iterates a map. -/
def snapshot (fdb : Fdb) (now : Int) : List FdbRow :=
  fdb.m.entries.filterMap fun entry =>
    let age := now - entry.2.lastSeen
    if !entry.2.static && age > fdb.maxAge then none
    else some ⟨entry.1.vlan, macString entry.1.mac.toList, entry.2.portID,
      if entry.2.static then 0 else age, entry.2.static⟩

def lookups : Fdb → List FdbOp → List (Option Ptr × String)
  | _, [] => []
  | fdb, op :: rest =>
    (match op with
      | .lookup now vlan mac => [fdb.lookup now vlan mac]
      | _ => []) ++ lookups (fdb.apply op) rest

/-! ## What a reader is shown -/

def live (fdb : Fdb) (now : Int) (entry : FdbEntry) : Bool :=
  entry.static || decide (now - entry.lastSeen ≤ fdb.maxAge)

def shown (fdb : Fdb) (now : Int) (key : FdbKey) : Option FdbEntry :=
  (fdb.m.get? key).filter (fdb.live now)

/-- Tables that no reader can tell apart at `now` or later. -/
structure Alike (now : Int) (first second : Fdb) : Prop where
  maxAge : first.maxAge = second.maxAge
  shown : ∀ key, first.shown now key = second.shown now key

variable (fdb : Fdb) (now : Int) (key : FdbKey) (vlan : Int) (mac : MAC) (ops : List FdbOp)

theorem lookup_eq_shown :
    fdb.lookup now vlan mac =
      ((fdb.shown now ⟨vlan, mac⟩).map fun entry => (entry.port, entry.portID)).getD
        (none, "") := by
  rw [lookup, Fdb.shown]
  cases fdb.m.get? ⟨vlan, mac⟩ with
  | none => rfl
  | some entry =>
    by_cases hlive : fdb.live now entry
    all_goals simp_all [live, Option.filter]
    all_goals grind

theorem shown_filter (keep : FdbKey → FdbEntry → Bool) (key : FdbKey) :
    shown { fdb with m := fdb.m.filter keep } now key =
      (fdb.shown now key).filter (keep key) := by
  simp only [shown, get?_filter, Option.filter_filter]
  exact congrArg (fdb.m.get? key).filter (funext fun entry => Bool.and_comm _ _)

theorem shown_set (other : FdbKey) (entry : FdbEntry) :
    shown { fdb with m := fdb.m.set key entry } now other =
      if other = key then (some entry).filter (fdb.live now) else fdb.shown now other := by
  simp only [shown, get?_set]
  split
  · rfl
  · rfl

theorem staticPort_eq_shown :
    fdb.staticPort key = (fdb.shown now key).bind fun entry =>
      if entry.static then some entry.portID else none := by
  rw [staticPort, shown]
  cases fdb.m.get? key with
  | none => rfl
  | some entry =>
    cases hlive : fdb.live now entry
    · have hstat : entry.static = false := (Bool.or_eq_false_iff.mp hlive).1
      simp [Option.filter, hlive, hstat]
    · simp [Option.filter, hlive]

theorem learn_eq (srcID : String) (src : Option Ptr) :
    fdb.learn now vlan mac srcID src =
      if (fdb.staticPort ⟨vlan, mac⟩).isSome then fdb
      else { fdb with m := fdb.m.set ⟨vlan, mac⟩ ⟨srcID, src, now, false⟩ } := by
  rw [learn, staticPort]
  cases fdb.m.get? ⟨vlan, mac⟩ with
  | none => rfl
  | some entry => cases hstat : entry.static <;> simp [hstat]

theorem settle_removeStatic :
    fdb.settle (fdb.removeStatic vlan mac) =
      if (fdb.staticPort ⟨vlan, mac⟩).isSome
      then { fdb with m := fdb.m.erase ⟨vlan, mac⟩ } else fdb := by
  rw [removeStatic, staticPort]
  cases fdb.m.get? ⟨vlan, mac⟩ with
  | none => rfl
  | some entry => cases hstat : entry.static <;> simp [hstat, settle]

/-- A key without an entry is left without one, as if the entry were removed. -/
theorem settle_removeDynamic :
    (fdb.settle (fdb.removeDynamic vlan mac)).maxAge = fdb.maxAge ∧
      ∀ now key, (fdb.settle (fdb.removeDynamic vlan mac)).shown now key =
        if (fdb.staticPort ⟨vlan, mac⟩).isSome then fdb.shown now key
        else shown { fdb with m := fdb.m.erase ⟨vlan, mac⟩ } now key := by
  rw [removeDynamic, staticPort]
  cases he : fdb.m.get? ⟨vlan, mac⟩ with
  | none =>
    refine ⟨rfl, fun now key => ?_⟩
    simp only [settle, shown, get?_erase]
    by_cases hkey : key = ⟨vlan, mac⟩
    · simp [hkey, he]
    · simp only [hkey, if_false]
      rfl
  | some entry => cases hstat : entry.static <;> simp [hstat, settle]

namespace Alike

variable {now : Int} {first second third : Fdb}

section Alike

variable (h : Alike now first second)

include h

theorem symm : Alike now second first :=
  ⟨h.maxAge.symm, fun key => (h.shown key).symm⟩

theorem trans (h' : Alike now second third) : Alike now first third :=
  ⟨h.maxAge.trans h'.maxAge, fun key => (h.shown key).trans (h'.shown key)⟩

theorem staticPort (key : FdbKey) : first.staticPort key = second.staticPort key := by
  rw [staticPort_eq_shown _ now, staticPort_eq_shown _ now, h.shown key]

theorem live : first.live now = second.live now := by
  funext entry
  rw [Fdb.live, Fdb.live, h.maxAge]

theorem filter (keep : FdbKey → FdbEntry → Bool) :
    Alike now { first with m := first.m.filter keep }
      { second with m := second.m.filter keep } :=
  ⟨h.maxAge, fun key => by rw [shown_filter, shown_filter, h.shown key]⟩

theorem set (key : FdbKey) (entry : FdbEntry) :
    Alike now { first with m := first.m.set key entry }
      { second with m := second.m.set key entry } :=
  ⟨h.maxAge, fun other => by rw [shown_set, shown_set, h.shown other, h.live]⟩

/-- An entry that is live under a smaller age was live before. -/
theorem setMaxAge {maxAge : Int} (hage : maxAge ≤ first.maxAge) :
    Alike now (first.setMaxAge maxAge) (second.setMaxAge maxAge) := by
  have hnarrow : ∀ fdb : Fdb, maxAge ≤ fdb.maxAge → ∀ key,
      (fdb.setMaxAge maxAge).shown now key =
        (fdb.shown now key).filter ((fdb.setMaxAge maxAge).live now) := by
    intro fdb hle key
    simp only [Fdb.shown, Option.filter_filter]
    refine congrArg (fdb.m.get? key).filter (funext fun entry => ?_)
    simp only [Fdb.live, Fdb.setMaxAge]
    by_cases hyoung : now - entry.lastSeen ≤ maxAge
    · simp [hyoung, Int.le_trans hyoung hle]
    · cases entry.static <;> simp [hyoung]
  refine ⟨rfl, fun key => ?_⟩
  rw [hnarrow first hage, hnarrow second (h.maxAge ▸ hage), h.shown key]
  rfl

theorem apply {op : FdbOp} (hexpire : op.isExpire = false)
    (hage : ∀ maxAge ∈ op.newAge, maxAge ≤ first.maxAge) :
    Alike now (first.apply op) (second.apply op) := by
  cases op with
  | learn time vlan mac srcID src =>
    simp only [Fdb.apply, learn_eq, h.staticPort]
    split
    · exact h
    · exact h.set _ _
  | lookup time vlan mac => exact h
  | setMaxAge maxAge => exact h.setMaxAge (hage maxAge rfl)
  | addStatic time vlan mac portID => exact h.set _ _
  | removeStatic vlan mac =>
    simp only [Fdb.apply, settle_removeStatic, h.staticPort]
    split
    · exact h.filter _
    · exact h
  | removeDynamic vlan mac =>
    obtain ⟨hfst, hfst'⟩ := settle_removeDynamic first vlan mac
    obtain ⟨hsnd, hsnd'⟩ := settle_removeDynamic second vlan mac
    refine ⟨hfst.trans (h.maxAge.trans hsnd.symm), fun key => ?_⟩
    rw [Fdb.apply, Fdb.apply, hfst', hsnd', h.staticPort, h.shown key]
    split
    · rfl
    · exact (h.filter _).shown key
  | flushPort portID | flush portID vlan => exact h.filter _
  | expire time => cases hexpire

end Alike

end Alike

/-- What a sweep removes would not be shown at the time of the sweep or later. -/
theorem alike_expire {time now : Int} (h : time ≤ now) :
    Alike now (fdb.expire time) fdb := by
  refine ⟨rfl, fun key => ?_⟩
  rw [expire, shown_filter, shown, Option.filter_filter]
  refine congrArg (fdb.m.get? key).filter (funext fun entry => ?_)
  simp only [live]
  cases entry.static
  · simp
    omega
  · rfl

/-! ## Histories with and without sweeps -/

def swept (ops : List FdbOp) : List FdbOp := ops.filter fun op => !op.isExpire

theorem maxAge_apply (op : FdbOp) : (fdb.apply op).maxAge = op.newAge.getD fdb.maxAge := by
  cases op with
  | learn now vlan mac srcID src =>
    rw [apply, learn_eq]
    split
    · rfl
    · rfl
  | removeStatic vlan mac =>
    rw [apply, settle_removeStatic]
    split
    · rfl
    · rfl
  | removeDynamic vlan mac => exact (settle_removeDynamic fdb vlan mac).1
  | _ => rfl

theorem newAges_swept : (swept ops).filterMap newAge = ops.filterMap newAge := by
  rw [swept, List.filterMap_filter]
  refine List.filterMap_congr fun op _ => ?_
  cases op with
  | _ => rfl

theorem alike_run {now : Int} {first second : Fdb} (h : Alike now first second)
    (htimes : ∀ time, .expire time ∈ ops → time ≤ now)
    (hages : (first.maxAge :: ops.filterMap newAge).Pairwise (· ≥ ·)) :
    Alike now (first.run ops) (second.run (swept ops)) := by
  induction ops generalizing first second with
  | nil => exact h
  | cons op rest ih =>
    have htimes' : ∀ time, .expire time ∈ rest → time ≤ now :=
      fun time hm => htimes time (List.mem_cons_of_mem op hm)
    obtain ⟨hold, hnew⟩ := List.pairwise_cons.mp hages
    have hages' : ((first.apply op).maxAge :: rest.filterMap newAge).Pairwise
        (· ≥ ·) := by
      rw [maxAge_apply]
      cases hage : op.newAge with
      | none => simpa [List.filterMap_cons, hage] using hages
      | some maxAge => simpa [List.filterMap_cons, hage] using hnew
    cases hexpire : op.isExpire with
    | true =>
      cases op with
      | expire time =>
        have hsweep := alike_expire first (htimes time (by simp))
        exact ih (hsweep.trans h) htimes' hages'
      | _ => cases hexpire
    | false =>
      have happly := h.apply hexpire fun maxAge hm =>
        hold maxAge (List.mem_filterMap.mpr ⟨op, by simp, hm⟩)
      simpa [swept, hexpire, run] using ih happly htimes' hages'

theorem Alike.refl (fdb : Fdb) : Alike now fdb fdb := ⟨rfl, fun _ => rfl⟩

theorem Alike.lookup {now : Int} {first second : Fdb} (h : Alike now first second)
    (vlan : Int) (mac : MAC) : first.lookup now vlan mac = second.lookup now vlan mac := by
  rw [lookup_eq_shown, lookup_eq_shown, h.shown]

theorem Alike.snapshot {now : Int} {first second : Fdb} (h : Alike now first second) :
    (first.snapshot now).Perm (second.snapshot now) := by
  have hrows : ∀ fdb : Fdb, fdb.snapshot now =
      (fdb.m.filter fun _ entry => fdb.live now entry).entries.map fun entry =>
        ⟨entry.1.vlan, macString entry.1.mac.toList, entry.2.portID,
          if entry.2.static then 0 else now - entry.2.lastSeen, entry.2.static⟩ := by
    intro fdb
    rw [Fdb.snapshot, GoMap.filter, ← List.filterMap_eq_map, List.filterMap_filter]
    refine List.filterMap_congr fun entry _ => ?_
    by_cases hyoung : now - entry.2.lastSeen ≤ fdb.maxAge
    · simp only [Fdb.live, decide_eq_true hyoung, decide_eq_false (Int.not_lt.mpr hyoung),
        Bool.and_false, Bool.or_true, Function.comp_apply, if_true, Bool.false_eq_true, if_false]
    simp only [Fdb.live, decide_eq_false hyoung, decide_eq_true (Int.not_le.mp hyoung),
      Function.comp_apply]
    cases entry.2.static <;> rfl
  rw [hrows first, hrows second]
  refine List.Perm.map _ ((List.perm_ext_iff_of_nodup (List.Nodup.of_map _ (nodup _))
    (List.Nodup.of_map _ (nodup _))).mpr ?_)
  rintro ⟨key, entry⟩
  rw [← get?_eq_some_iff, ← get?_eq_some_iff, get?_filter, get?_filter]
  exact Eq.congr_left (h.shown key)

theorem lookups_append (later : List FdbOp) :
    fdb.lookups (ops ++ later) = fdb.lookups ops ++ (fdb.run ops).lookups later := by
  induction ops generalizing fdb with
  | nil => rfl
  | cons op rest ih => simp [lookups, run, ih]

theorem lookups_swept (hclock : (ops.filterMap time).Pairwise (· ≤ ·))
    (hages : (fdb.maxAge :: ops.filterMap newAge).Pairwise (· ≥ ·)) :
    fdb.lookups ops = fdb.lookups (swept ops) := by
  induction ops using List.reverseRecOn with
  | nil => rfl
  | append_singleton ops op ih =>
    rw [List.filterMap_append] at hclock hages
    rw [← List.cons_append] at hages
    obtain ⟨hclock', -, hlast⟩ := List.pairwise_append.mp hclock
    have hages' := (List.pairwise_append.mp hages).1
    rw [swept, List.filter_append, lookups_append, lookups_append, ih hclock' hages']
    refine congrArg (_ ++ ·) ?_
    cases op with
    | lookup now vlan mac =>
      have htimes : ∀ time, .expire time ∈ ops → time ≤ now := fun time hm =>
        hlast time (List.mem_filterMap.mpr ⟨_, hm, rfl⟩) now (by simp [FdbOp.time])
      have hlookup := (alike_run ops (.refl now fdb) htimes hages').lookup vlan mac
      exact congrArg (fun result => [result]) hlookup
    | _ => rfl

/-- Histories that differ only in their sweeps give the same results. -/
theorem sweeps_invisible (fdb : Fdb) (ops ops' : List FdbOp) (hswept : swept ops = swept ops')
    (hclock : (ops.filterMap FdbOp.time).Pairwise (· ≤ ·))
    (hclock' : (ops'.filterMap FdbOp.time).Pairwise (· ≤ ·))
    (hages : (fdb.maxAge :: ops.filterMap FdbOp.newAge).Pairwise (· ≥ ·)) :
    fdb.lookups ops = fdb.lookups ops' ∧
      ∀ now, (∀ time ∈ (ops ++ ops').filterMap FdbOp.time, time ≤ now) →
        (∀ vlan mac, (fdb.run ops).lookup now vlan mac = (fdb.run ops').lookup now vlan mac) ∧
          ((fdb.run ops).snapshot now).Perm ((fdb.run ops').snapshot now) := by
  have hages' : (fdb.maxAge :: ops'.filterMap newAge).Pairwise (· ≥ ·) := by
    rw [← newAges_swept, ← hswept, newAges_swept]
    exact hages
  refine ⟨?_, fun now hnow => ?_⟩
  · rw [lookups_swept fdb ops hclock hages, lookups_swept fdb ops' hclock' hages', hswept]
  · have htimes : ∀ time, .expire time ∈ ops ++ ops' → time ≤ now :=
      fun time hm => hnow time (List.mem_filterMap.mpr ⟨_, hm, rfl⟩)
    have hfst := alike_run ops (.refl now fdb)
      (fun time hm => htimes time (List.mem_append_left _ hm)) hages
    have hsnd := alike_run ops' (.refl now fdb)
      (fun time hm => htimes time (List.mem_append_right _ hm)) hages'
    rw [← hswept] at hsnd
    have halike := hfst.trans hsnd.symm
    exact ⟨halike.lookup, halike.snapshot⟩

/-- A sweep at the age limit itself and one beyond it. -/
theorem sweeps_invisible_boundary : let mac : MAC := #v[2, 0, 0, 0, 0, 1]
    let learned := FdbOp.learn 0 1 mac "p" none
    let ops := [learned, .lookup 10 1 mac, .lookup 11 1 mac]
    let ops' := [learned, .expire 10, .lookup 10 1 mac, .expire 11, .lookup 11 1 mac]
    (Fdb.new 10).lookups ops = [(none, "p"), (none, "")] ∧
      (Fdb.new 10).lookups ops = (Fdb.new 10).lookups ops' :=
  ⟨by decide, (sweeps_invisible (Fdb.new 10)
    [.learn 0 1 _ "p" none, .lookup 10 1 _, .lookup 11 1 _]
    [.learn 0 1 _ "p" none, .expire 10, .lookup 10 1 _, .expire 11, .lookup 11 1 _]
    rfl (by decide) (by decide) (by decide)).1⟩

end Fdb

/-! ## Flushing -/

theorem Fdb.flushes_some (portID : String) (wanted : Int) (key : FdbKey) (entry : FdbEntry) :
    Fdb.flushes portID (some wanted) key entry =
      (Fdb.flushes portID none key entry && key.vlan == wanted) := by
  simp [Fdb.flushes]

/-- The entries asked for are removed and counted exactly when the conversion of
the VLAN to `int32` does not turn it into the VLAN of a learned entry. -/
theorem flushFDB_exact_iff (sw : Switch) (portID : String) (vlan : Option Int)
    (hkeys : ∀ key entry, sw.fdb.m.get? key = some entry → int32 key.vlan = key.vlan) :
    ((∀ key, (sw.flushFDB portID vlan).1.fdb.m.get? key =
          (sw.fdb.m.get? key).filter fun entry => !Fdb.flushes portID vlan key entry) ∧
        (sw.flushFDB portID vlan).2 = (sw.fdb.m.entries.filter fun entry =>
          Fdb.flushes portID vlan entry.1 entry.2).length) ↔
      ∀ wanted ∈ vlan, int32 wanted = wanted ∨
        ∀ key entry, sw.fdb.m.get? key = some entry → key.vlan = int32 wanted →
          Fdb.flushes portID none key entry = false := by
  simp only [Switch.flushFDB, Fdb.flush, get?_filter]
  constructor
  · rintro ⟨hexact, -⟩ wanted hwanted
    obtain rfl := Option.mem_def.mp hwanted
    refine or_iff_not_imp_left.mpr fun hround key entry he hv => ?_
    by_contra hflush
    have hkept := hexact key
    simp [he, Option.filter, Fdb.flushes_some, hv, hround, hflush] at hkept
  · intro hround
    have hs : ∀ key entry, sw.fdb.m.get? key = some entry →
        Fdb.flushes portID (vlan.map int32) key entry =
          Fdb.flushes portID vlan key entry := by
      intro key entry he
      cases vlan with
      | none => rfl
      | some wanted =>
        rcases hround wanted rfl with hint | hnone
        · rw [Option.map_some, hint]
        · rw [Option.map_some, Fdb.flushes_some, Fdb.flushes_some]
          by_cases hv : key.vlan = int32 wanted
          · rw [hnone key entry he hv, Bool.false_and, Bool.false_and]
          · have hv' : key.vlan ≠ wanted := by
              rintro rfl
              exact hv (hkeys key entry he).symm
            rw [beq_eq_false_iff_ne.mpr hv, beq_eq_false_iff_ne.mpr hv']
    refine ⟨fun key => ?_, congrArg List.length (List.filter_congr fun entry he => ?_)⟩
    · cases he : sw.fdb.m.get? key with
      | none => rfl
      | some entry => simp [Option.filter, hs key entry he]
    · exact hs entry.1 entry.2 ((get?_eq_some_iff _ _ _).mpr he)

def learnedOn10 : Switch :=
  { newSwitch 1 with fdb := (newSwitch 1).fdb.learn 0 10 #v[2, 0, 0, 0, 0, 1] "p" none }

theorem flushFDB_exact_in_range : (learnedOn10.flushFDB "" (some 10)).2 = 1 := by
  have hkeys : ∀ stored ∈ learnedOn10.fdb.m.entries, int32 stored.1.vlan = stored.1.vlan := by
    decide
  refine ((flushFDB_exact_iff learnedOn10 "" (some 10) fun key entry he => ?_).mpr
    fun wanted hwanted => .inl ?_).2
  · exact hkeys (key, entry) ((get?_eq_some_iff _ _ _).mp he)
  · cases hwanted
    decide

/-- VLAN `2^32 + 10` flushes what was learned in VLAN 10. -/
theorem flushFDB_wraps :
    (learnedOn10.flushFDB "" (some 4294967306)).2 = 1 ∧
      learnedOn10.fdb.m.entries.filter (fun entry =>
        Fdb.flushes "" (some 4294967306) entry.1 entry.2) = [] := by
  decide

end GvSwitch.SwitchCore
