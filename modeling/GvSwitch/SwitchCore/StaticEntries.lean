import GvSwitch.SwitchCore.Fdb

/-!
# Static entries over every history

The operations of the forwarding database share one map.  Whatever is learned,
expired or flushed in between, a key has a static entry exactly when the last
static operation that succeeded on it was an `addStatic`, and then every lookup
finds the port it named.
-/

namespace GvSwitch.SwitchCore

open Foundation

inductive FdbOp where
  | learn (now vlan : Int) (mac : MAC) (srcID : String) (src : Option Ptr)
  | lookup (now vlan : Int) (mac : MAC)
  | setMaxAge (maxAge : Int)
  | addStatic (now vlan : Int) (mac : MAC) (portID : String)
  | removeStatic (vlan : Int) (mac : MAC)
  | removeDynamic (vlan : Int) (mac : MAC)
  | flushPort (portID : String)
  | flush (portID : String) (vlan : Option Int)
  | expire (now : Int)

namespace Fdb

def new (maxAge : Int) : Fdb := ⟨.empty, maxAge⟩

def settle (fdb : Fdb) : Except FdbError Fdb → Fdb
  | .ok after => after
  | .error _ => fdb

def apply (fdb : Fdb) : FdbOp → Fdb
  | .learn now vlan mac srcID src => fdb.learn now vlan mac srcID src
  | .lookup _ _ _ => fdb
  | .setMaxAge maxAge => fdb.setMaxAge maxAge
  | .addStatic now vlan mac portID => fdb.addStatic now vlan mac portID
  | .removeStatic vlan mac => fdb.settle (fdb.removeStatic vlan mac)
  | .removeDynamic vlan mac => fdb.settle (fdb.removeDynamic vlan mac)
  | .flushPort portID => fdb.flushPort portID
  | .flush portID vlan => (fdb.flush portID vlan).1
  | .expire now => fdb.expire now

def run (fdb : Fdb) (ops : List FdbOp) : Fdb := ops.foldl apply fdb

/-- What an operation does to a key through the static API: nothing, or it names
a port, or it removes the entry. -/
def rules (fdb : Fdb) (key : FdbKey) : FdbOp → Option (Option String)
  | .addStatic _ vlan mac portID => if key = ⟨vlan, mac⟩ then some (some portID) else none
  | .removeStatic vlan mac =>
    match fdb.removeStatic vlan mac with
    | .ok _ => if key = ⟨vlan, mac⟩ then some none else none
    | .error _ => none
  | _ => none

def rulings (key : FdbKey) : Fdb → List FdbOp → List (Option String)
  | _, [] => []
  | fdb, op :: rest => (fdb.rules key op).toList ++ rulings key (fdb.apply op) rest

def staticPort (fdb : Fdb) (key : FdbKey) : Option String :=
  (fdb.m.get? key).bind fun entry => if entry.static then some entry.portID else none

theorem staticPort_eq_some_iff {fdb : Fdb} {key : FdbKey} {portID : String} :
    fdb.staticPort key = some portID ↔
      ∃ entry, fdb.m.get? key = some entry ∧ entry.static = true ∧ entry.portID = portID := by
  simp [staticPort, Option.bind_eq_some_iff]

/-! ## One operation -/

theorem staticPort_filter (fdb : Fdb) {keep : FdbKey → FdbEntry → Bool}
    (hkeep : ∀ key entry, entry.static = true → keep key entry = true) (key : FdbKey) :
    staticPort { fdb with m := fdb.m.filter keep } key = fdb.staticPort key := by
  simp only [staticPort, GoMap.get?_filter]
  cases he : fdb.m.get? key with
  | none => rfl
  | some entry =>
    cases hstat : entry.static with
    | true => simp [Option.filter, hkeep key entry hstat]
    | false =>
      cases hkeeps : keep key entry with
      | true => simp [Option.filter, hkeeps]
      | false => simp [Option.filter, hkeeps, hstat]

theorem staticPort_learn (fdb : Fdb) (now vlan : Int) (mac : MAC) (srcID : String)
    (src : Option Ptr) (key : FdbKey) :
    (fdb.learn now vlan mac srcID src).staticPort key = fdb.staticPort key := by
  rw [staticPort, get?_learn]
  split
  · rename_i hlearn
    have hnone : fdb.staticPort key = none := by
      cases he : fdb.m.get? key with
      | none => simp [staticPort, he]
      | some entry => simp [staticPort, he, hlearn.2 entry he]
    rw [hnone]
    rfl
  · rfl

theorem staticPort_addStatic (fdb : Fdb) (now vlan : Int) (mac : MAC) (portID : String)
    (key : FdbKey) :
    (fdb.addStatic now vlan mac portID).staticPort key =
      if key = ⟨vlan, mac⟩ then some portID else fdb.staticPort key := by
  simp only [staticPort, addStatic, GoMap.get?_set]
  split
  · rfl
  · rfl

theorem removeStatic_ok {fdb after : Fdb} {vlan : Int} {mac : MAC}
    (h : fdb.removeStatic vlan mac = .ok after) :
    after = { fdb with m := fdb.m.erase ⟨vlan, mac⟩ } := by
  unfold removeStatic at h
  split at h
  · cases h
  split at h
  · cases h
    rfl
  · cases h

theorem removeDynamic_ok {fdb after : Fdb} {vlan : Int} {mac : MAC}
    (h : fdb.removeDynamic vlan mac = .ok after) :
    after = { fdb with m := fdb.m.erase ⟨vlan, mac⟩ } ∧
      fdb.staticPort ⟨vlan, mac⟩ = none := by
  unfold removeDynamic at h
  split at h
  · cases h
  rename_i entry he
  split at h
  · cases h
  rename_i hdyn
  cases h
  refine ⟨rfl, ?_⟩
  simp [staticPort, he, hdyn]

theorem staticPort_erase (fdb : Fdb) (erased key : FdbKey) :
    staticPort { fdb with m := fdb.m.erase erased } key =
      if key = erased then none else fdb.staticPort key := by
  simp only [staticPort, GoMap.get?_erase]
  split
  · rfl
  · rfl

/-- Only a static operation on the key that succeeds changes its static entry. -/
theorem staticPort_apply (fdb : Fdb) (op : FdbOp) (key : FdbKey) :
    (fdb.apply op).staticPort key = (fdb.rules key op).getD (fdb.staticPort key) := by
  cases op with
  | learn now vlan mac srcID src => exact staticPort_learn fdb now vlan mac srcID src key
  | lookup now vlan mac | setMaxAge maxAge => rfl
  | addStatic now vlan mac portID =>
    rw [apply, staticPort_addStatic, rules]
    split
    · rfl
    · rfl
  | removeStatic vlan mac =>
    simp only [apply, rules]
    cases hremove : fdb.removeStatic vlan mac with
    | error reason => rfl
    | ok after =>
      rw [settle, removeStatic_ok hremove, staticPort_erase]
      split
      · rfl
      · rfl
  | removeDynamic vlan mac =>
    simp only [apply, rules, Option.getD_none]
    cases hremove : fdb.removeDynamic vlan mac with
    | error reason => rfl
    | ok after =>
      obtain ⟨rfl, hnone⟩ := removeDynamic_ok hremove
      rw [settle, staticPort_erase]
      split
      · rename_i hkey
        rw [hkey, hnone]
      · rfl
  | flushPort portID | expire now =>
    exact staticPort_filter fdb (fun _ _ hstat => by simp [hstat]) key
  | flush portID vlan =>
    exact staticPort_filter fdb (fun _ _ hstat => by simp [flushes, hstat]) key

/-! ## A history -/

theorem staticPort_run (fdb : Fdb) (ops : List FdbOp) (key : FdbKey) :
    (fdb.run ops).staticPort key =
      (rulings key fdb ops).getLast?.getD (fdb.staticPort key) := by
  induction ops generalizing fdb with
  | nil => rfl
  | cons op rest ih =>
    have hrest := ih (fdb.apply op)
    rw [staticPort_apply] at hrest
    rw [rulings, List.getLast?_append]
    change ((fdb.apply op).run rest).staticPort key = _
    rw [hrest]
    cases (rulings key (fdb.apply op) rest).getLast? with
    | some last => rfl
    | none => cases fdb.rules key op <;> rfl

theorem static_entry_iff (maxAge : Int) (ops : List FdbOp) (key : FdbKey) (portID : String) :
    ((∃ entry, ((new maxAge).run ops).m.get? key = some entry ∧ entry.static = true ∧
        entry.portID = portID) ↔
      (rulings key (new maxAge) ops).getLast? = some (some portID)) ∧
    ((rulings key (new maxAge) ops).getLast? = some (some portID) →
      ∀ now, (((new maxAge).run ops).lookup now key.vlan key.mac).2 = portID) := by
  have hrun := staticPort_run (new maxAge) ops key
  have hpres : ((new maxAge).run ops).staticPort key = some portID ↔
      (rulings key (new maxAge) ops).getLast? = some (some portID) := by
    rw [hrun]
    cases (rulings key (new maxAge) ops).getLast? with
    | none => simp [staticPort, new]
    | some last => simp
  constructor
  · rw [← staticPort_eq_some_iff]
    exact hpres
  · intro hlast now
    obtain ⟨entry, he, hstat, rfl⟩ := staticPort_eq_some_iff.mp (hpres.mpr hlast)
    simp [lookup, he, hstat]

end Fdb

end GvSwitch.SwitchCore
