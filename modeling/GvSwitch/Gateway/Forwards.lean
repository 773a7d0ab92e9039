import GvSwitch.Foundation.GoMap
import GvSwitch.Foundation.Runs
import GvSwitch.Foundation.Text

/-!
# Port forwards

Forwards are added and deleted one by one, or replaced as a set: rules that are
already installed stay, others are removed, and what is missing is added.  Rules
are compared by the text of their four fields with bars between them.
-/

namespace GvSwitch.Gateway

open Foundation

structure ForwardSpec where
  type : String
  network : String
  bind : String
  host : String
  deriving DecidableEq, Repr

def ForwardSpec.key (spec : ForwardSpec) : String :=
  spec.type ++ "|" ++ spec.network ++ "|" ++ spec.bind ++ "|" ++ spec.host

structure ForwardRec extends ForwardSpec where
  id : String
  deriving DecidableEq, Repr

/-- `forwardRec`: a listener is known by the number of the forward it was opened
for, `key` is the key in the table of remote forwards. -/
structure Installed extends ForwardRec where
  listener : Option Nat := none
  key : String := ""
  deriving DecidableEq, Repr

inductive ForwardError where
  | badBind (bind reason : String)
  | badHost (host reason : String)
  | refused (reason : String)
  | badNetwork (network : String)
  | badType (type : String)
  | notFound (id : String)
  | duplicate (spec : ForwardSpec)
  | add (spec : ForwardSpec) (reason : ForwardError)
  deriving DecidableEq, Repr

structure FwdAddr where
  network : String
  bindHost : String
  bindPort : String
  hostHost : String
  hostPort : String
  deriving DecidableEq, Repr

/-- What `net` and `slirpnetstack` answer while one forward is installed.  No address
has a bar in it. -/
structure Library where
  splitHostPort : String → Except String (String × String)
  newFwdAddr : FwdAddr → Except String Unit
  localForwardTCP : FwdAddr → Except String Unit
  localForwardUDP : FwdAddr → Except String Unit
  tableAdd : FwdAddr → Except String String
  barless : ∀ {network bind host : String} {bindPair hostPair : String × String},
    splitHostPort bind = .ok bindPair → splitHostPort host = .ok hostPair →
      newFwdAddr ⟨network, bindPair.1, bindPair.2, hostPair.1, hostPair.2⟩ = .ok () →
        '|' ∉ bind.toList ∧ '|' ∉ host.toList

def Library.listen (library : Library) (rf : FwdAddr) : Except ForwardError Unit :=
  if rf.network = "tcp" then (library.localForwardTCP rf).mapError .refused
  else if rf.network = "udp" then (library.localForwardUDP rf).mapError .refused
  else .error (.badNetwork rf.network)

/-- The forwards of a gateway, and the listeners that were closed. -/
structure Forwards where
  forwards : GoMap String Installed := .empty
  fwdSeq : Nat := 0
  closed : List Nat := []
  /-- Networks and keys removed from the table of remote forwards. -/
  removed : List (String × String) := []

def forwardID (number : Nat) : String := "fwd-" ++ toString number

namespace Forwards

/-- `AddForward` up to the lock. -/
def install (g : Forwards) (library : Library) (spec : ForwardSpec) :
    Except ForwardError Installed := do
  let bindPair ← (library.splitHostPort spec.bind).mapError (.badBind spec.bind)
  let hostPair ← (library.splitHostPort spec.host).mapError (.badHost spec.host)
  let rf : FwdAddr := ⟨spec.network, bindPair.1, bindPair.2, hostPair.1, hostPair.2⟩
  (library.newFwdAddr rf).mapError .refused
  let entry : Installed := { spec with id := forwardID (g.fwdSeq + 1) }
  if spec.type = "local" then
    library.listen rf
    return { entry with listener := some (g.fwdSeq + 1) }
  else if spec.type = "remote" then
    let key ← (library.tableAdd rf).mapError .refused
    return { entry with key }
  else .error (.badType spec.type)

def insert (g : Forwards) (entry : Installed) : Forwards :=
  { g with forwards := g.forwards.set entry.id entry, fwdSeq := g.fwdSeq + 1 }

def addForward (g : Forwards) (library : Library) (spec : ForwardSpec) :
    Except ForwardError (ForwardRec × Forwards) :=
  (g.install library spec).map fun entry => (entry.toForwardRec, g.insert entry)

/-- `DeleteForward` after the lock. -/
def release (g : Forwards) (entry : Installed) : Forwards :=
  if entry.type = "local" then { g with closed := entry.listener.toList ++ g.closed }
  else if entry.type = "remote" then
    { g with removed := (entry.network, entry.key) :: g.removed }
  else g

def deleteForward (g : Forwards) (id : String) : Except ForwardError Forwards :=
  match g.forwards.get? id with
  | none => .error (.notFound id)
  | some entry => .ok (release { g with forwards := g.forwards.erase id } entry)

def listForwards (g : Forwards) : List ForwardRec :=
  (g.forwards.entries.map (·.2.toForwardRec)).mergeSort fun first second =>
    decide (first.id ≤ second.id)

/-! ## Replacing the set -/

/-- The orders in which the two maps are visited, and the answers to every addition
of one call; a call tries a rule at most once. -/
structure Env where
  rangeForwards : List (String × Installed) → List (String × Installed)
  rangeWant : List ForwardSpec → List ForwardSpec
  forwards_perm : ∀ entries, (rangeForwards entries).Perm entries
  want_perm : ∀ specs, (rangeWant specs).Perm specs
  library : ForwardSpec → Library

/-- The first rule whose key is taken; without one, `want` has just these rules. -/
def duplicate : List String → List ForwardSpec → Option ForwardSpec
  | _, [] => none
  | taken, spec :: rest =>
    if spec.key ∈ taken then some spec else duplicate (spec.key :: taken) rest

def ruleKey (entry : String × Installed) : String := entry.2.toForwardSpec.key

/-- The first pass: the entries that are kept, whose keys are those of `have`, and
the entries to delete. -/
def prune (want : List String) : List (String × Installed) → List (String × Installed) →
    List (String × Installed) × List (String × Installed)
  | kept, [] => (kept, [])
  | kept, entry :: rest =>
    if ruleKey entry ∈ want ∧ ruleKey entry ∉ kept.map ruleKey then
      prune want (entry :: kept) rest
    else
      let pruned := prune want kept rest
      (pruned.1, entry :: pruned.2)

def drop (g : Forwards) (id : String) : Forwards :=
  match g.deleteForward id with
  | .ok after => after
  | .error _ => g

def addMissing (library : ForwardSpec → Library) (kept : List String) :
    List ForwardSpec → Forwards → Forwards × Option ForwardError
  | [], g => (g, none)
  | spec :: rest, g =>
    if spec.key ∈ kept then addMissing library kept rest g
    else
      match g.addForward (library spec) spec with
      | .error reason => (g, some (.add spec reason))
      | .ok (_, after) => addMissing library kept rest after

def replaceForwards (g : Forwards) (env : Env) (desired : List ForwardSpec) :
    Forwards × List ForwardRec × Option ForwardError :=
  match duplicate [] desired with
  | some spec => (g, [], some (.duplicate spec))
  | none =>
    let pruned := prune (desired.map ForwardSpec.key) [] (env.rangeForwards g.forwards.entries)
    let added := addMissing env.library (pruned.1.map ruleKey) (env.rangeWant desired)
      ((pruned.2.map Prod.fst).foldl drop g)
    (added.1, added.1.listForwards, added.2)

inductive Call where
  | add (library : Library) (spec : ForwardSpec)
  | delete (id : String)
  | replace (env : Env) (desired : List ForwardSpec)

def call (g : Forwards) : Call → Forwards
  | .add library spec =>
    match g.addForward library spec with
    | .ok (_, after) => after
    | .error _ => g
  | .delete id => g.drop id
  | .replace env desired => (g.replaceForwards env desired).1

end Forwards

/-! ## Keys -/

/-- A remote rule has no bar in its network; `AddForward` checks the others. -/
def ForwardSpec.Separable (spec : ForwardSpec) : Prop :=
  spec.type = "remote" → '|' ∉ spec.network.toList

instance separableDecidable (spec : ForwardSpec) : Decidable spec.Separable :=
  inferInstanceAs (Decidable (_ → _))

structure ForwardSpec.Barless (spec : ForwardSpec) : Prop where
  type : '|' ∉ spec.type.toList
  network : '|' ∉ spec.network.toList
  bind : '|' ∉ spec.bind.toList
  host : '|' ∉ spec.host.toList

/-- The three bars of a key are those between the fields, so a rule without bars
shares its key with no other, whatever bars that one has. -/
theorem ForwardSpec.Barless.key_injective {spec other : ForwardSpec} (hbars : spec.Barless)
    (h : other.key = spec.key) : other = spec := by
  have hlist := congrArg String.toList h
  simp only [key, String.toList_append, List.append_assoc] at hlist
  have hcount := congrArg (List.count '|') hlist
  simp only [List.count_append, List.count_eq_zero.mpr hbars.type,
    List.count_eq_zero.mpr hbars.network, List.count_eq_zero.mpr hbars.bind,
    List.count_eq_zero.mpr hbars.host] at hcount
  obtain ⟨htype, hlist⟩ :=
    append_cons_injective (List.count_eq_zero.mp (by omega)) hbars.type hlist
  obtain ⟨hnetwork, hlist⟩ :=
    append_cons_injective (List.count_eq_zero.mp (by omega)) hbars.network hlist
  obtain ⟨hbind, hhost⟩ :=
    append_cons_injective (List.count_eq_zero.mp (by omega)) hbars.bind hlist
  cases other
  cases spec
  simp_all [String.toList_inj]

namespace Forwards

variable {g : Forwards} {spec : ForwardSpec}

/-! ## The installed rules -/

theorem eq_ok_of_bind {ε α β : Type} {answer : Except ε α} {k : α → Except ε β} {result : β}
    (h : (answer >>= k) = .ok result) : ∃ value, answer = .ok value ∧ k value = .ok result := by
  cases answer with
  | error reason => cases h
  | ok value => exact ⟨value, rfl, h⟩

theorem eq_ok_of_mapError {ε δ α : Type} {answer : Except ε α} {f : ε → δ} {value : α}
    (h : answer.mapError f = .ok value) : answer = .ok value := by
  cases answer <;> simp_all [Except.mapError]

theorem network_of_listen {library : Library} {rf : FwdAddr} (h : library.listen rf = .ok ()) :
    '|' ∉ rf.network.toList := by
  unfold Library.listen at h
  split at h
  · rename_i htcp
    rw [htcp]
    decide
  · split at h
    · rename_i hudp
      rw [hudp]
      decide
    · cases h

theorem install_spec {library : Library} {entry : Installed}
    (h : g.install library spec = .ok entry) :
    entry.toForwardSpec = spec ∧ entry.id = forwardID (g.fwdSeq + 1) ∧
      (spec.Separable → spec.Barless) ∧
      ∀ listener ∈ entry.listener, listener = g.fwdSeq + 1 := by
  obtain ⟨bindPair, hbind, h⟩ := eq_ok_of_bind h
  obtain ⟨hostPair, hhost, h⟩ := eq_ok_of_bind h
  obtain ⟨⟨⟩, hnew, h⟩ := eq_ok_of_bind h
  obtain ⟨hbind, hhost⟩ := library.barless (eq_ok_of_mapError hbind)
    (eq_ok_of_mapError hhost) (eq_ok_of_mapError hnew)
  split at h
  · rename_i htype
    obtain ⟨⟨⟩, hlisten, h⟩ := eq_ok_of_bind h
    cases h
    refine ⟨rfl, rfl, fun _ => ⟨?_, network_of_listen hlisten, hbind, hhost⟩, by simp⟩
    rw [htype]
    decide
  · split at h
    · rename_i htype
      obtain ⟨key, -, h⟩ := eq_ok_of_bind h
      cases h
      refine ⟨rfl, rfl, fun hsep => ⟨?_, hsep htype, hbind, hhost⟩, by simp⟩
      rw [htype]
      decide
    · cases h

/-- The counter gave out every identifier, and the listener of an installed rule is
open and bears the rule's number. -/
structure Inv (g : Forwards) : Prop where
  ids : ∀ entry ∈ g.forwards.entries, ∃ number ≤ g.fwdSeq, entry.1 = forwardID number ∧
    number ∉ g.closed ∧ ∀ listener ∈ entry.2.listener, listener = number
  bars : ∀ entry ∈ g.forwards.entries, entry.2.toForwardSpec.Barless
  closed : ∀ number ∈ g.closed, number ≤ g.fwdSeq

theorem inv_new : ({} : Forwards).Inv := by
  constructor <;> simp [GoMap.empty]

section Installing

variable (h : g.Inv) {library : Library} {entry : Installed}
  (hinst : g.install library spec = .ok entry)

include h hinst

theorem Inv.entries_insert :
    (g.insert entry).forwards.entries = (entry.id, entry) :: g.forwards.entries := by
  refine GoMap.entries_set_of_get?_none ?_ entry
  rw [(install_spec hinst).2.1, Option.eq_none_iff_forall_ne_some]
  intro old hold
  obtain ⟨number, hle, hid, -⟩ := h.ids _ ((GoMap.get?_eq_some_iff _ _ _).mp hold)
  have hnumber := append_toString_injective hid
  omega

theorem Inv.insert (hsep : spec.Separable) : (g.insert entry).Inv := by
  obtain ⟨hspec, hid, hbars, hlistener⟩ := install_spec hinst
  refine ⟨?_, ?_, fun number hc => Nat.le_succ_of_le (h.closed number hc)⟩
  · rw [h.entries_insert hinst, List.forall_mem_cons]
    refine ⟨⟨g.fwdSeq + 1, Nat.le_refl _, hid, ?_, hlistener⟩, fun old hm => ?_⟩
    · intro hc
      exact Nat.not_succ_le_self _ (h.closed _ hc)
    · obtain ⟨number, hle, hold⟩ := h.ids old hm
      exact ⟨number, Nat.le_succ_of_le hle, hold⟩
  · rw [h.entries_insert hinst, List.forall_mem_cons]
    exact ⟨hspec ▸ hbars hsep, h.bars⟩

end Installing

theorem drop_spec {id : String} {entry : Installed} (hget : g.forwards.get? id = some entry) :
    (g.drop id).forwards = g.forwards.erase id ∧ (g.drop id).fwdSeq = g.fwdSeq ∧
      ∀ number ∈ (g.drop id).closed, number ∈ g.closed ∨ number ∈ entry.listener := by
  unfold drop deleteForward
  rw [hget]
  dsimp only [release]
  split
  · refine ⟨rfl, rfl, fun number hc => ?_⟩
    rcases List.mem_append.mp hc with hl | hc
    · exact .inr (Option.mem_toList.mp hl)
    · exact .inl hc
  · split
    · exact ⟨rfl, rfl, fun _ => .inl⟩
    · exact ⟨rfl, rfl, fun _ => .inl⟩

theorem Inv.drop (h : g.Inv) (id : String) : (g.drop id).Inv := by
  cases hget : g.forwards.get? id with
  | none =>
    rw [Forwards.drop, deleteForward, hget]
    exact h
  | some entry =>
    obtain ⟨hforwards, hseq, hclosed⟩ := drop_spec hget
    obtain ⟨own, hle, hid, -, hown⟩ := h.ids _ ((GoMap.get?_eq_some_iff _ _ _).mp hget)
    have hmem : ∀ other ∈ (g.drop id).forwards.entries,
        other ∈ g.forwards.entries ∧ other.1 ≠ id := by
      intro other hm
      simpa [hforwards, GoMap.erase, GoMap.filter] using hm
    refine ⟨fun other hm => ?_, fun other hm => h.bars other (hmem other hm).1,
      fun number hc => ?_⟩
    · obtain ⟨hin, hne⟩ := hmem other hm
      obtain ⟨number, hle, hother, hopen, hl⟩ := h.ids other hin
      refine ⟨number, hseq ▸ hle, hother, fun hc => ?_, hl⟩
      rcases hclosed number hc with hold | hnew
      · exact hopen hold
      · -- The listener that was closed bears the number of the deleted rule.
        rw [hother, hown number hnew] at hne
        exact hne hid.symm
    · rw [hseq]
      rcases hclosed number hc with hold | hnew
      · exact h.closed number hold
      · exact hown number hnew ▸ hle

theorem Inv.drops {kept deleted : List (String × Installed)} (h : g.Inv)
    (hperm : (kept ++ deleted).Perm g.forwards.entries) :
    ((deleted.map Prod.fst).foldl Forwards.drop g).Inv ∧
      kept.Perm ((deleted.map Prod.fst).foldl Forwards.drop g).forwards.entries := by
  induction deleted generalizing g with
  | nil => exact ⟨h, by simpa using hperm⟩
  | cons entry rest ih =>
    have hget := (GoMap.get?_eq_some_iff _ _ _).mpr (hperm.mem_iff.mp (by simp : entry ∈ _))
    refine ih (h.drop entry.1) ?_
    rw [(drop_spec hget).1]
    exact (List.perm_middle.symm.trans (hperm.trans (GoMap.entries_perm_erase hget))).cons_inv

/-! ## The two passes -/

def tuples (g : Forwards) : List ForwardSpec := g.forwards.entries.map (·.2.toForwardSpec)

variable {desired : List ForwardSpec}

theorem nodup_of_duplicate {taken : List String} (h : duplicate taken desired = none) :
    (desired.map ForwardSpec.key).Nodup ∧ ∀ spec ∈ desired, spec.key ∉ taken := by
  induction desired generalizing taken with
  | nil => simp
  | cons spec rest ih =>
    rw [duplicate] at h
    split at h
    · cases h
    rename_i hnew
    obtain ⟨hnodup, hrest⟩ := ih h
    simp only [List.mem_cons, not_or] at hrest
    simp only [List.map_cons, List.nodup_cons, List.mem_map, List.forall_mem_cons]
    refine ⟨⟨?_, hnodup⟩, hnew, fun other ho => (hrest other ho).2⟩
    rintro ⟨other, ho, heq⟩
    exact (hrest other ho).1 heq

/-- What the first pass finds: the entries that are kept have different keys, all
of them wanted, and no wanted key is lost. -/
structure Pruned (want : List String) (entries : List (String × Installed))
    (pruned : List (String × Installed) × List (String × Installed)) : Prop where
  partition : (pruned.1 ++ pruned.2).Perm entries
  nodup : (pruned.1.map ruleKey).Nodup
  wanted : ∀ entry ∈ pruned.1, ruleKey entry ∈ want
  found : ∀ entry ∈ pruned.2, ruleKey entry ∈ want → ruleKey entry ∈ pruned.1.map ruleKey

theorem prune_spec {want : List String} {kept entries : List (String × Installed)}
    (hnodup : (kept.map ruleKey).Nodup) (hwant : ∀ entry ∈ kept, ruleKey entry ∈ want) :
    kept ⊆ (prune want kept entries).1 ∧
      Pruned want (kept ++ entries) (prune want kept entries) := by
  induction entries generalizing kept with
  | nil =>
    exact ⟨List.Subset.refl _, .refl _, hnodup, hwant, fun _ hm => nomatch hm⟩
  | cons entry rest ih =>
    rw [prune]
    split
    · rename_i hkeep
      have hseen : ((entry :: kept).map ruleKey).Nodup := List.nodup_cons.mpr ⟨hkeep.2, hnodup⟩
      obtain ⟨hsub, hp⟩ := ih hseen (List.forall_mem_cons.mpr ⟨hkeep.1, hwant⟩)
      exact ⟨fun other hm => hsub (.tail _ hm), hp.partition.trans List.perm_middle.symm,
        hp.nodup, hp.wanted, hp.found⟩
    · rename_i hdrop
      obtain ⟨hsub, hp⟩ := ih hnodup hwant
      refine ⟨hsub, ?_, hp.nodup, hp.wanted, List.forall_mem_cons.mpr ⟨fun hin => ?_, hp.found⟩⟩
      · exact List.perm_middle.trans ((hp.partition.cons _).trans List.perm_middle.symm)
      have hseen : ruleKey entry ∈ kept.map ruleKey := by
        by_contra hnew
        exact hdrop ⟨hin, hnew⟩
      exact List.map_subset _ hsub hseen

theorem pruned (want : List String) (entries : List (String × Installed)) :
    Pruned want entries (prune want [] entries) := by
  have hnone : ∀ entry ∈ ([] : List (String × Installed)), ruleKey entry ∈ want := by simp
  exact (prune_spec (by simp) hnone).2

/-- What the second pass adds: some of the missing rules, or all of them if
nothing fails. -/
structure Added (missing : List ForwardSpec) (g : Forwards)
    (added : Forwards × Option ForwardError) : Prop where
  inv : added.1.Inv
  persists : ∀ entry ∈ g.forwards.entries, entry ∈ added.1.forwards.entries
  tuples : ∃ specs, specs.Sublist missing ∧ (added.2 = none → specs = missing) ∧
    added.1.tuples.Perm (g.tuples ++ specs)
  failure : ∀ spec, added.2 ≠ some (.duplicate spec)

theorem addMissing_spec (library : ForwardSpec → Library) (kept : List String)
    {specs : List ForwardSpec} (hsep : ∀ spec ∈ specs, spec.Separable) (h : g.Inv) :
    Added (specs.filter (·.key ∉ kept)) g (addMissing library kept specs g) := by
  induction specs generalizing g with
  | nil => exact ⟨h, fun _ => id, ⟨[], by simp [addMissing]⟩, by simp [addMissing]⟩
  | cons spec rest ih =>
    obtain ⟨hspec, hrest⟩ := List.forall_mem_cons.mp hsep
    rw [addMissing]
    split
    · rename_i hkept
      rw [List.filter_cons_of_neg (by simpa using hkept)]
      exact ih hrest h
    rename_i hmiss
    rw [List.filter_cons_of_pos (by simpa using hmiss), addForward]
    cases hinst : g.install (library spec) spec with
    | error reason =>
      change Added _ _ (g, some (.add spec reason))
      exact ⟨h, fun _ => id, ⟨[], by simp⟩, by simp⟩
    | ok entry =>
      have hadded := ih hrest (h.insert hinst hspec)
      have hentries := h.entries_insert hinst
      have htuples : (g.insert entry).tuples = spec :: g.tuples := by
        rw [Forwards.tuples, hentries, List.map_cons, (install_spec hinst).1]
        rfl
      refine ⟨hadded.inv, fun old hm => hadded.persists old ?_, ?_, hadded.failure⟩
      · rw [hentries]
        exact .tail _ hm
      obtain ⟨specs, hsub, hall, hperm⟩ := hadded.tuples
      rw [htuples] at hperm
      exact ⟨spec :: specs, hsub.cons_cons _, fun hnone => congrArg _ (hall hnone),
        hperm.trans List.perm_middle.symm⟩

theorem addMissing_kept (library : ForwardSpec → Library) {kept : List String}
    {specs : List ForwardSpec}
    (h : ∀ spec ∈ specs, spec.key ∈ kept) : addMissing library kept specs g = (g, none) := by
  induction specs with
  | nil => rfl
  | cons spec rest ih =>
    obtain ⟨hspec, hrest⟩ := List.forall_mem_cons.mp h
    rw [addMissing, if_pos hspec, ih hrest]

/-! ## Reconciliation -/

section Reconciliation

variable (h : g.Inv) (hdup : duplicate [] desired = none) (env : Env)

include hdup

/-- Where the desired rules are installed, nothing is deleted and nothing added. -/
theorem replaceForwards_settled (htuples : g.tuples.Perm desired) :
    g.replaceForwards env desired = (g, g.listForwards, none) := by
  have hp := pruned (desired.map ForwardSpec.key) (env.rangeForwards g.forwards.entries)
  rw [replaceForwards, hdup]
  dsimp only
  generalize prune _ [] _ = pruned at hp ⊢
  have hkeys : ((pruned.1 ++ pruned.2).map ruleKey).Perm (desired.map ForwardSpec.key) := by
    have hrules := htuples.map ForwardSpec.key
    rw [tuples, List.map_map] at hrules
    exact ((hp.partition.trans (env.forwards_perm _)).map ruleKey).trans hrules
  have hnone : pruned.2 = [] := by
    refine List.eq_nil_iff_forall_not_mem.mpr fun entry hm => ?_
    have hin : ruleKey entry ∈ (pruned.1 ++ pruned.2).map ruleKey :=
      List.mem_map_of_mem (List.mem_append_right _ hm)
    have hnodup := hkeys.nodup_iff.mpr (nodup_of_duplicate hdup).1
    rw [List.map_append] at hnodup
    exact (List.nodup_append.mp hnodup).2.2 _ (hp.found entry hm (hkeys.mem_iff.mp hin)) _
      (List.mem_map_of_mem hm) rfl
  rw [hnone, List.append_nil] at hkeys
  have hkept : ∀ spec ∈ env.rangeWant desired, spec.key ∈ pruned.1.map ruleKey := by
    intro spec hm
    rw [hkeys.mem_iff]
    exact List.mem_map_of_mem ((env.want_perm desired).mem_iff.mp hm)
  rw [hnone, List.map_nil, List.foldl_nil, addMissing_kept env.library hkept]

include h

/-- The rules that the first pass leaves are the desired ones among those that were
installed, each once. -/
theorem prune_tuples :
    let pruned := prune (desired.map ForwardSpec.key) [] (env.rangeForwards g.forwards.entries)
    let left := (pruned.2.map Prod.fst).foldl Forwards.drop g
    left.Inv ∧ left.tuples.Perm (desired.filter (·.key ∈ pruned.1.map ruleKey)) ∧
      ∀ spec ∈ desired, spec ∈ g.tuples → ∃ entry ∈ g.forwards.entries,
        entry ∈ left.forwards.entries ∧ entry.2.toForwardSpec = spec := by
  have hp := pruned (desired.map ForwardSpec.key) (env.rangeForwards g.forwards.entries)
  dsimp only
  generalize prune _ [] _ = pruned at hp ⊢
  have hall := hp.partition.trans (env.forwards_perm _)
  obtain ⟨hinv, hleft⟩ := h.drops hall
  generalize (pruned.2.map Prod.fst).foldl Forwards.drop g = left at hinv hleft ⊢
  have hsame {entry : String × Installed} (hm : entry ∈ pruned.1) {spec : ForwardSpec}
      (hkey : spec.key = ruleKey entry) : spec = entry.2.toForwardSpec :=
    (hinv.bars entry (hleft.mem_iff.mp hm)).key_injective hkey
  refine ⟨hinv, (hleft.map _).symm.trans ((List.perm_ext_iff_of_nodup ?_ ?_).mpr ?_), ?_⟩
  · refine List.Nodup.of_map ForwardSpec.key ?_
    rw [List.map_map]
    exact hp.nodup
  · exact (List.Nodup.of_map _ (nodup_of_duplicate hdup).1).filter _
  · intro spec
    rw [List.mem_map, List.mem_filter, decide_eq_true_iff, List.mem_map]
    constructor
    · rintro ⟨entry, hm, rfl⟩
      obtain ⟨spec, hspec, hkey⟩ := List.mem_map.mp (hp.wanted entry hm)
      rw [← hsame hm hkey]
      exact ⟨hspec, entry, hm, hkey.symm⟩
    · rintro ⟨-, entry, hm, hkey⟩
      exact ⟨entry, hm, (hsame hm hkey.symm).symm⟩
  · intro spec hspec hold
    obtain ⟨old, ho, rfl⟩ := List.mem_map.mp hold
    have hkey : ruleKey old ∈ pruned.1.map ruleKey := by
      rcases List.mem_append.mp (hall.mem_iff.mpr ho) with hm | hm
      · exact List.mem_map_of_mem hm
      · exact hp.found old hm (List.mem_map_of_mem hspec)
    obtain ⟨entry, hm, heq⟩ := List.mem_map.mp hkey
    exact ⟨entry, hall.mem_iff.mp (List.mem_append_left _ hm), hleft.mem_iff.mp hm,
      (hsame hm heq.symm).symm⟩

/-- What a call that finds no duplicate leaves behind. -/
structure Reconciled (g : Forwards) (desired : List ForwardSpec)
    (result : Forwards × List ForwardRec × Option ForwardError) : Prop where
  inv : result.1.Inv
  remaining : ∀ spec ∈ result.1.tuples, spec ∈ desired
  complete : result.2.2 = none → result.1.tuples.Perm desired
  kept : ∀ spec ∈ desired, spec ∈ g.tuples → ∃ entry ∈ g.forwards.entries,
    entry ∈ result.1.forwards.entries ∧ entry.2.toForwardSpec = spec
  listed : result.2.1 = result.1.listForwards
  failure : ∀ spec, result.2.2 ≠ some (.duplicate spec)

theorem replaceForwards_spec (hsep : ∀ spec ∈ desired, spec.Separable) :
    Reconciled g desired (g.replaceForwards env desired) := by
  obtain ⟨hinv, htuples, hkept⟩ := prune_tuples h hdup env
  rw [replaceForwards, hdup]
  generalize prune _ [] _ = pruned at hinv htuples hkept ⊢
  have hwant : ∀ spec ∈ env.rangeWant desired, spec.Separable :=
    fun spec hm => hsep spec ((env.want_perm desired).mem_iff.mp hm)
  have hadded := addMissing_spec env.library (pruned.1.map ruleKey) hwant hinv
  obtain ⟨specs, hsub, hall, hperm⟩ := hadded.tuples
  have hmissing := (env.want_perm desired).filter (·.key ∉ pruned.1.map ruleKey)
  constructor
  · exact hadded.inv
  · intro spec hm
    rcases List.mem_append.mp (hperm.mem_iff.mp hm) with hold | hnew
    · exact List.mem_of_mem_filter (htuples.mem_iff.mp hold)
    · exact List.mem_of_mem_filter (hmissing.mem_iff.mp (hsub.subset hnew))
  · intro hnone
    have hsplit := List.filter_append_perm (fun spec : ForwardSpec =>
      spec.key ∈ pruned.1.map ruleKey) desired
    rw [hall hnone] at hperm
    refine (hperm.trans (htuples.append hmissing)).trans ?_
    simpa using hsplit
  · intro spec hspec hold
    obtain ⟨entry, hin, hleft, heq⟩ := hkept spec hspec hold
    exact ⟨entry, hin, hadded.persists entry hleft, heq⟩
  · rfl
  · exact hadded.failure

end Reconciliation

def Call.Separable : Call → Prop
  | .add _ spec => spec.Separable
  | .delete _ => True
  | .replace _ desired => ∀ spec ∈ desired, spec.Separable

theorem Inv.call (h : g.Inv) {call : Call} (hsep : call.Separable) : (g.call call).Inv := by
  cases call with
  | add library spec =>
    rw [Forwards.call, addForward]
    cases hinst : g.install library spec with
    | error reason => exact h
    | ok entry => exact h.insert hinst hsep
  | delete id => exact h.drop id
  | replace env desired =>
    cases hdup : duplicate [] desired with
    | some spec =>
      rw [Forwards.call, replaceForwards, hdup]
      exact h
    | none => exact (replaceForwards_spec h hdup env hsep).inv

/-- The forwards of a gateway after calls, one at a time, that all meet a condition. -/
def Reached (ok : Call → Prop) : Forwards → Prop :=
  Reachable (· = {}) (Guarded (fun _ => ok) fun g call after => after = Forwards.call g call)

theorem Reached.inv (h : g.Reached Call.Separable) : g.Inv := by
  refine Reachable.induct ?_ ?_ h
  · rintro _ rfl
    exact inv_new
  · rintro before call _ - hinv ⟨hsep, rfl⟩
    exact hinv.call hsep

/-- Where no network has a bar, replacing the forwards is a reconciliation: it installs
the desired set and keeps what was there; it can be repeated; and it goes on after a
failure. -/
theorem replaceForwards_reconciles (h : g.Reached Call.Separable) (env : Env)
    {desired : List ForwardSpec} (hdesired : ∀ spec ∈ desired, spec.Separable) :
    let result := g.replaceForwards env desired
    (result.2.2 = none →
      result.1.tuples.Perm desired ∧ desired.Nodup ∧
        (result.2.1.map ForwardRec.toForwardSpec).Perm desired ∧
        (∀ spec ∈ desired, spec ∈ g.tuples → ∃ id entry, entry.toForwardSpec = spec ∧
          g.forwards.get? id = some entry ∧ result.1.forwards.get? id = some entry ∧
            ∀ listener ∈ entry.listener, listener ∉ result.1.closed) ∧
        ∀ env', result.1.replaceForwards env' desired = (result.1, result.2.1, none)) ∧
      (∀ spec, result.2.2 = some (.duplicate spec) → result.1 = g) ∧
      ∀ spec reason, result.2.2 = some (.add spec reason) →
        (∀ rule ∈ result.1.tuples, rule ∈ desired) ∧
          ∀ env', (result.1.replaceForwards env' desired).2.2 = none →
            (result.1.replaceForwards env' desired).1.tuples.Perm desired := by
  dsimp only
  cases hdup : duplicate [] desired with
  | some spec =>
    rw [replaceForwards, hdup]
    simp
  | none =>
    have hres := replaceForwards_spec h.inv hdup env hdesired
    generalize g.replaceForwards env desired = result at hres ⊢
    refine ⟨fun hnone => ?_, fun spec hspec => absurd hspec (hres.failure spec),
      fun spec reason _ => ⟨hres.remaining, fun env' => ?_⟩⟩
    · have hperm := hres.complete hnone
      refine ⟨hperm, List.Nodup.of_map _ (nodup_of_duplicate hdup).1, ?_, ?_, ?_⟩
      · rw [hres.listed, listForwards]
        refine ((List.mergeSort_perm _ _).map _).trans ?_
        rw [List.map_map]
        exact hperm
      · intro spec hspec hold
        obtain ⟨⟨id, entry⟩, hb, ha, heq⟩ := hres.kept spec hspec hold
        obtain ⟨_, -, -, hopen, hnumber⟩ := hres.inv.ids _ ha
        exact ⟨id, entry, heq, (GoMap.get?_eq_some_iff _ _ _).mpr hb,
          (GoMap.get?_eq_some_iff _ _ _).mpr ha, fun listener hl => hnumber listener hl ▸ hopen⟩
      · intro env'
        rw [hres.listed]
        exact replaceForwards_settled hdup env' hperm
    · exact (replaceForwards_spec hres.inv hdup env' hdesired).complete

def openLibrary : Library where
  splitHostPort text := .ok (text, "")
  newFwdAddr rf :=
    if '|' ∈ rf.bindHost.toList ∨ '|' ∈ rf.hostHost.toList then .error "bad address"
    else .ok ()
  localForwardTCP _ := .ok ()
  localForwardUDP _ := .ok ()
  tableAdd rf := .ok rf.bindHost
  barless := by
    intro network bind host bindPair hostPair hbind hhost hnew
    cases hbind
    cases hhost
    simpa using hnew

def openEnv : Env := ⟨id, id, fun _ => .refl _, fun _ => .refl _, fun _ => openLibrary⟩

def webRule : ForwardSpec := ⟨"local", "tcp", "127.0.0.1:8080", "10.0.99.2:80"⟩

def mailRule : ForwardSpec := ⟨"remote", "tcp", "10.0.99.1:25", "127.0.0.1:1025"⟩

def nameRule : ForwardSpec := ⟨"remote", "udp", "10.0.99.1:53", "127.0.0.1:53"⟩

def webAndMail : Forwards :=
  (({} : Forwards).call (.add openLibrary webRule)).call (.add openLibrary mailRule)

theorem reached_webAndMail : webAndMail.Reached Call.Separable := by
  have hweb : (Call.add openLibrary webRule).Separable := (by decide : webRule.Separable)
  have hmail : (Call.add openLibrary mailRule).Separable := (by decide : mailRule.Separable)
  exact .next (.next (.start rfl) ⟨hweb, rfl⟩) ⟨hmail, rfl⟩

/-- The listener of the first rule is closed, the second keeps its identifier, and a
third is added. -/
theorem replaceForwards_reconciles_webAndMail :
    let result := webAndMail.replaceForwards openEnv [mailRule, nameRule]
    webAndMail.tuples = [mailRule, webRule] ∧ result.1.closed = [1] ∧
      result.1.tuples.Perm [mailRule, nameRule] ∧
      ∃ id entry, entry.toForwardSpec = mailRule ∧
        webAndMail.forwards.get? id = some entry ∧ result.1.forwards.get? id = some entry := by
  have hdesired : ∀ spec ∈ [mailRule, nameRule], spec.Separable := by decide
  obtain ⟨hperm, -, -, hkept, -⟩ :=
    (replaceForwards_reconciles reached_webAndMail openEnv hdesired).1 rfl
  obtain ⟨id, entry, hrule, hbefore, hafter, -⟩ := hkept mailRule (by simp) (by decide)
  exact ⟨rfl, rfl, hperm, id, entry, hrule, hbefore, hafter⟩

/-- The bar between network and address is one of the network. -/
def barredRule : ForwardSpec := ⟨"remote", "tcp|10.0.99.1:25", "10.0.99.1:26", "127.0.0.1:1025"⟩

def otherRule : ForwardSpec := ⟨"remote", "tcp", "10.0.99.1:25|10.0.99.1:26", "127.0.0.1:1025"⟩

/-- A rule is kept in place of another one of the same text. -/
theorem replaceForwards_keeps_other_rule :
    ∃ g : Forwards, g.Reached (fun _ => True) ∧
      (g.replaceForwards openEnv [otherRule]).2.2 = none ∧
      (g.replaceForwards openEnv [otherRule]).1.tuples = [barredRule] ∧
      barredRule ≠ otherRule := by
  refine ⟨({} : Forwards).call (.add openLibrary barredRule), .next (.start rfl) ⟨trivial, rfl⟩,
    rfl, rfl, ?_⟩
  decide

end Forwards

end GvSwitch.Gateway
