import GvSwitch.Foundation.GoMap
import GvSwitch.SwitchCore.Vlan

/-!
# The forwarding database

`(vlan, mac) → port` with aging.  A dynamic entry carries a pointer to the
registry entry of the port it was learned on; a static entry carries only the
port's identifier, since it may name a port that does not exist yet.
-/

namespace GvSwitch.SwitchCore

open Foundation

/-- Address of a registry entry. -/
abbrev Ptr := Nat

structure FdbKey where
  vlan : Int
  mac : MAC
  deriving DecidableEq

structure FdbEntry where
  portID : String
  port : Option Ptr
  lastSeen : Int
  static : Bool
  deriving DecidableEq, Repr

/-- Times and durations are nanoseconds. -/
structure Fdb where
  m : GoMap FdbKey FdbEntry
  maxAge : Int

inductive FdbError where
  | staticNotFound
  | notFound
  | isStatic
  deriving DecidableEq, Repr

namespace Fdb

def learn (fdb : Fdb) (now : Int) (vlan : Int) (mac : MAC) (srcID : String)
    (src : Option Ptr) : Fdb :=
  match fdb.m.get? ⟨vlan, mac⟩ with
  | some entry =>
    if entry.static then fdb
    else { fdb with m := fdb.m.set ⟨vlan, mac⟩ ⟨srcID, src, now, false⟩ }
  | none => { fdb with m := fdb.m.set ⟨vlan, mac⟩ ⟨srcID, src, now, false⟩ }

/-- The pointer (none for static entries) and the identifier, `""` on a miss. -/
def lookup (fdb : Fdb) (now : Int) (vlan : Int) (mac : MAC) :
    Option Ptr × String :=
  match fdb.m.get? ⟨vlan, mac⟩ with
  | none => (none, "")
  | some entry =>
    if !entry.static && now - entry.lastSeen > fdb.maxAge then (none, "")
    else (entry.port, entry.portID)

def setMaxAge (fdb : Fdb) (maxAge : Int) : Fdb := { fdb with maxAge := maxAge }

def addStatic (fdb : Fdb) (now : Int) (vlan : Int) (mac : MAC)
    (portID : String) : Fdb :=
  { fdb with m := fdb.m.set ⟨vlan, mac⟩ ⟨portID, none, now, true⟩ }

def removeStatic (fdb : Fdb) (vlan : Int) (mac : MAC) : Except FdbError Fdb :=
  match fdb.m.get? ⟨vlan, mac⟩ with
  | none => .error .staticNotFound
  | some entry =>
    if entry.static then .ok { fdb with m := fdb.m.erase ⟨vlan, mac⟩ }
    else .error .staticNotFound

def removeDynamic (fdb : Fdb) (vlan : Int) (mac : MAC) : Except FdbError Fdb :=
  match fdb.m.get? ⟨vlan, mac⟩ with
  | none => .error .notFound
  | some entry =>
    if entry.static then .error .isStatic
    else .ok { fdb with m := fdb.m.erase ⟨vlan, mac⟩ }

def flushPort (fdb : Fdb) (portID : String) : Fdb :=
  { fdb with m := fdb.m.filter fun _ entry =>
      entry.static || entry.portID != portID }

def flushes (portID : String) (vlan : Option Int) (key : FdbKey)
    (entry : FdbEntry) : Bool :=
  !entry.static && (portID == "" || entry.portID == portID) &&
    match vlan with
    | none => true
    | some wanted => key.vlan == wanted

/-- `portID = ""` and `vlan = none` match everything; the second component is
the number of entries removed. -/
def flush (fdb : Fdb) (portID : String) (vlan : Option Int) : Fdb × Nat :=
  ({ fdb with m := fdb.m.filter fun key entry => !flushes portID vlan key entry },
    (fdb.m.entries.filter fun entry =>
      flushes portID vlan entry.1 entry.2).length)

def expire (fdb : Fdb) (now : Int) : Fdb :=
  { fdb with m := fdb.m.filter fun _ entry =>
      entry.static || !decide (entry.lastSeen < now - fdb.maxAge) }

/-! ## What each operation leaves in the table -/

variable (fdb : Fdb) (portID : String)

theorem get?_learn (now vlan : Int) (mac : MAC) (srcID : String) (src : Option Ptr)
    (key : FdbKey) :
    (fdb.learn now vlan mac srcID src).m.get? key =
      if key = ⟨vlan, mac⟩ ∧ (∀ entry, fdb.m.get? key = some entry →
          entry.static = false)
      then some ⟨srcID, src, now, false⟩ else fdb.m.get? key := by
  unfold learn
  cases hold : fdb.m.get? ⟨vlan, mac⟩ with
  | none =>
    by_cases hkey : key = ⟨vlan, mac⟩
    · simp [hkey, hold]
    · simp [GoMap.get?_set, hkey]
  | some entry =>
    cases hstat : entry.static
    · by_cases hkey : key = ⟨vlan, mac⟩
      · simp [hkey, hold, hstat]
      · simp [hstat, GoMap.get?_set, hkey]
    · by_cases hkey : key = ⟨vlan, mac⟩
      · simp [hkey, hold, hstat]
      · simp [hstat, hkey]

/-- An operation that never touches a static entry and adds no dynamic one. -/
def Prunes (before after : Fdb) : Prop :=
  after.maxAge = before.maxAge ∧
    ∀ key entry, after.m.get? key = some entry → before.m.get? key = some entry

theorem Prunes.refl : Prunes fdb fdb := ⟨rfl, fun _ _ h => h⟩

theorem Prunes.trans {first second third : Fdb} (h : Prunes first second)
    (h' : Prunes second third) : Prunes first third :=
  ⟨h'.1.trans h.1, fun key entry he => h.2 key entry (h'.2 key entry he)⟩

private theorem prunes_filter (keep : FdbKey → FdbEntry → Bool) :
    Prunes fdb { fdb with m := fdb.m.filter keep } := by
  refine ⟨rfl, ?_⟩
  intro key entry he
  exact ((GoMap.get?_filter_eq_some_iff _ _ _ _).mp he).1

theorem prunes_flushPort : Prunes fdb (fdb.flushPort portID) :=
  prunes_filter fdb _

theorem prunes_flush (vlan : Option Int) : Prunes fdb (fdb.flush portID vlan).1 :=
  prunes_filter fdb _

theorem prunes_expire (now : Int) : Prunes fdb (fdb.expire now) :=
  prunes_filter fdb _

theorem get?_flushPort (key : FdbKey) :
    (fdb.flushPort portID).m.get? key =
      (fdb.m.get? key).filter fun entry => entry.static || entry.portID != portID :=
  GoMap.get?_filter _ _ _

theorem flushPort_dynamic {fdb : Fdb} {portID : String} {key : FdbKey}
    {entry : FdbEntry} (h : (fdb.flushPort portID).m.get? key = some entry)
    (hdyn : entry.static = false) : entry.portID ≠ portID := by
  have hkeep := ((GoMap.get?_filter_eq_some_iff _ _ _ _).mp h).2
  simpa [hdyn] using hkeep

end Fdb

end GvSwitch.SwitchCore
