import GvSwitch.Foundation.GoMap
import GvSwitch.Foundation.NetAddr
import GvSwitch.Foundation.Text

/-!
# Static bindings and leases

One lease table serves one address family.  Every operation runs under the
table's lock; the clock and the order in which a map is iterated come from
outside.
-/

namespace GvSwitch.Gateway

open Foundation

/-! ## Static bindings -/

/-- Absent conditions are wildcards. -/
structure StaticBinding where
  id : String
  order : Int
  portID : Option String
  mac : Option String
  clientID : Option String
  ip : Addr
  deriving DecidableEq, Repr

inductive BindingError where
  | noCondition
  | invalidIP
  | missingID
  | wrongFamily (v6 : Bool)
  | duplicateID (id : String)
  | notFound (id : String)
  | binding (id : String) (reason : BindingError)
  deriving DecidableEq, Repr

def StaticBinding.validate (binding : StaticBinding) : Except BindingError Unit :=
  if binding.portID.isNone && binding.mac.isNone && binding.clientID.isNone then
    .error .noCondition
  else if binding.ip.isValid then .ok ()
  else .error .invalidIP

def StaticBinding.score (binding : StaticBinding) (portID mac clientID : String) :
    Option Nat :=
  let condition := fun (wanted : Option String) (matched : String → Bool) =>
    match wanted with
    | none => some 0
    | some text => if matched text then some 1 else none
  match condition binding.portID (· == portID), condition binding.mac (equalFold · mac),
      condition binding.clientID (equalFold · clientID) with
  | some port, some hardware, some client => some (port + hardware + client)
  | _, _, _ => none

def matchStep (portID mac clientID : String)
    (best : Option StaticBinding × Nat) (binding : StaticBinding) :
    Option StaticBinding × Nat :=
  match binding.score portID mac clientID with
  | none | some 0 => best
  | some score =>
    match best.1 with
    | none => (some binding, score)
    | some other =>
      if score > best.2 || (score == best.2 && binding.order > other.order) then
        (some binding, score)
      else best

/-- The binding with the most conditions wins; ties go to the higher order. -/
def matchBinding (bindings : List StaticBinding) (portID mac clientID : String) :
    Option StaticBinding :=
  (bindings.foldl (matchStep portID mac clientID) (none, 0)).1

/-- An IPv6 address that is no IPv4 address in disguise. -/
def is6Only (address : Addr) : Bool := address.is6 && !address.is4In6

def ofFamily (v6 : Bool) (ip : Addr) : Bool := if v6 then is6Only ip else ip.is4

def addStatic (v6 : Bool) (set : GoMap String StaticBinding) (binding : StaticBinding) :
    Except BindingError (GoMap String StaticBinding) :=
  if binding.id = "" then .error .missingID
  else
    match binding.validate with
    | .error reason => .error (.binding binding.id reason)
    | .ok () =>
      if !ofFamily v6 binding.ip then .error (.binding binding.id (.wrongFamily v6))
      else if (set.get? binding.id).isSome then .error (.duplicateID binding.id)
      else .ok (set.set binding.id binding)

def buildStaticSet (bindings : List StaticBinding) (v6 : Bool) :
    Except BindingError (GoMap String StaticBinding) :=
  bindings.foldlM (addStatic v6) .empty

/-- `PutStatic` of either server. -/
def insertStatic (v6 : Bool) (set : GoMap String StaticBinding) (binding : StaticBinding) :
    Except BindingError (GoMap String StaticBinding) :=
  match binding.validate with
  | .error reason => .error reason
  | .ok () =>
    if !ofFamily v6 binding.ip then .error (.wrongFamily v6)
    else .ok (set.set binding.id binding)

def removeStatic (set : GoMap String StaticBinding) (id : String) :
    Except BindingError (GoMap String StaticBinding) :=
  if (set.get? id).isSome then .ok (set.erase id) else .error (.notFound id)

/-! ## Leases -/

structure Lease where
  ip : Addr
  mac : String
  clientID : String
  portID : String
  expiry : Int
  static : Bool
  deriving DecidableEq, Repr

def clientKey (mac clientID : String) : String :=
  toLower mac ++ "/" ++ toLower clientID

def Lease.key (lease : Lease) : String := clientKey lease.mac lease.clientID

def Lease.expired (lease : Lease) (now : Int) : Bool := now > lease.expiry

structure LeaseTable where
  leases : GoMap Addr Lease
  keyed : ∀ ip lease, leases.get? ip = some lease → lease.ip = ip

variable {table : LeaseTable} {now : Int} {ip : Addr} {lease : Lease}

namespace LeaseTable

def newLeaseTable : LeaseTable := ⟨.empty, by simp⟩

def lease? (table : LeaseTable) (ip : Addr) : Option Lease := table.leases.get? ip

/-- The client's active lease, the first one in iteration order. -/
def byClient (table : LeaseTable) (now : Int) (order : List Addr)
    (mac clientID : String) : Option Lease :=
  (order.filterMap table.lease?).find? fun lease =>
    lease.key == clientKey mac clientID && !lease.expired now

def set (table : LeaseTable) (lease : Lease) : LeaseTable where
  leases := table.leases.set lease.ip lease
  keyed := by
    intro ip found hfound
    rw [GoMap.get?_set] at hfound
    split at hfound
    · rename_i hip
      cases hfound
      exact hip.symm
    · exact table.keyed ip found hfound

def drop (table : LeaseTable) (ip : Addr) : LeaseTable where
  leases := table.leases.erase ip
  keyed := by
    intro other found hfound
    rw [GoMap.get?_erase] at hfound
    split at hfound
    · cases hfound
    · exact table.keyed other found hfound

def filter (table : LeaseTable) (keep : Lease → Bool) : LeaseTable where
  leases := table.leases.filter fun _ lease => keep lease
  keyed := by
    intro ip found hfound
    exact table.keyed ip found ((GoMap.get?_filter_eq_some_iff _ _ _ _).mp hfound).1

def release (table : LeaseTable) (ip : Addr) : LeaseTable × Bool :=
  (table.drop ip, (table.lease? ip).isSome)

def releaseByPort (table : LeaseTable) (portID : String) : LeaseTable :=
  table.filter fun lease => lease.portID != portID

def inUse (table : LeaseTable) (now : Int) (ip : Addr) (mac clientID : String) : Bool :=
  match table.lease? ip with
  | none => false
  | some lease => !lease.expired now && lease.key != clientKey mac clientID

def expireSweep (table : LeaseTable) (now : Int) : LeaseTable :=
  table.filter fun lease => !lease.expired now

def free (table : LeaseTable) (now : Int) (ip : Addr) : Bool :=
  match table.lease? ip with
  | none => true
  | some lease => lease.expired now

def firstFree (table : LeaseTable) (now : Int) (last : Addr) (skip : Addr → Bool) :
    Nat → Addr → Option Addr
  | 0, _ => none
  | fuel + 1, ip =>
    if ip.isValid && !last.less ip then
      if !skip ip && table.free now ip then some ip
      else firstFree table now last skip fuel ip.next
    else none

def allocate (table : LeaseTable) (now : Int) (start last : Addr) (skip : Addr → Bool)
    (lease : Lease) : Addr × LeaseTable :=
  match table.firstFree now last skip start.remaining start with
  | none => (.invalid, table)
  | some ip => (ip, table.set { lease with ip := ip })

/-! ## Lookups after an operation -/

section Lookup

variable (table : LeaseTable) (ip other : Addr)

theorem lease?_set (lease : Lease) :
    (table.set lease).lease? other =
      if other = lease.ip then some lease else table.lease? other :=
  GoMap.get?_set _ _ _ _

theorem lease?_drop :
    (table.drop ip).lease? other = if other = ip then none else table.lease? other :=
  GoMap.get?_erase _ _ _

theorem lease?_filter (keep : Lease → Bool) :
    (table.filter keep).lease? ip = (table.lease? ip).filter keep :=
  GoMap.get?_filter _ _ _

theorem ip_of_lease? (h : table.lease? ip = some lease) : lease.ip = ip :=
  table.keyed ip lease h

end Lookup

theorem inUse_eq_false_iff (table : LeaseTable) (now : Int) (ip : Addr)
    (mac clientID : String) :
    table.inUse now ip mac clientID = false ↔
      ∀ lease, table.lease? ip = some lease → now ≤ lease.expiry →
        lease.key = clientKey mac clientID := by
  unfold inUse
  cases table.lease? ip with
  | none => simp
  | some lease =>
    simp only [Lease.expired, Option.some.injEq, forall_eq']
    by_cases hexpired : now > lease.expiry
    · simp [hexpired, Int.not_le.mpr hexpired]
    · simp [Int.not_lt.mp hexpired]

theorem free_iff (table : LeaseTable) (now : Int) (ip : Addr) :
    table.free now ip = true ↔
      ∀ lease, table.lease? ip = some lease → lease.expiry < now := by
  unfold free
  cases table.lease? ip with
  | none => simp
  | some lease => simp [Lease.expired]

theorem inUse_of_unleased (mac clientID : String)
    (h : ∀ lease, table.lease? ip = some lease → lease.expiry < now) :
    table.inUse now ip mac clientID = false := by
  rw [inUse_eq_false_iff]
  intro lease hl hruns
  have := h lease hl
  omega

theorem byClient_spec {order : List Addr} {mac clientID : String}
    (h : table.byClient now order mac clientID = some lease) :
    table.lease? lease.ip = some lease ∧ lease.key = clientKey mac clientID ∧
      now ≤ lease.expiry := by
  have hm := List.mem_of_find?_eq_some h
  have hf := List.find?_some h
  obtain ⟨ip, -, hl⟩ := List.mem_filterMap.mp hm
  simp only [Lease.expired, Bool.and_eq_true, beq_iff_eq, Bool.not_eq_true',
    decide_eq_false_iff_not, gt_iff_lt, Int.not_lt] at hf
  exact ⟨by rw [table.ip_of_lease? ip hl, hl], hf.1, hf.2⟩

theorem byClient_eq_none {order : List Addr} (horder : order.Perm table.leases.keys)
    {mac clientID : String} (h : table.byClient now order mac clientID = none)
    (hl : table.lease? ip = some lease) (hkey : lease.key = clientKey mac clientID) :
    lease.expiry < now := by
  have hm : lease ∈ order.filterMap table.lease? := by
    refine List.mem_filterMap.mpr ⟨ip, horder.mem_iff.mpr ?_, hl⟩
    exact (GoMap.mem_keys_iff _ _).mpr ⟨lease, hl⟩
  have hmiss := List.find?_eq_none.mp h lease hm
  simpa [hkey, Lease.expired] using hmiss

/-! ## Allocation -/

/-- The loop of `allocate` with no bound on its rounds: a derivation is a run that
ends. -/
inductive Scans (table : LeaseTable) (now : Int) (last : Addr) (skip : Addr → Bool) :
    Addr → Option Addr → Prop
  | done {ip : Addr} : (ip.isValid && !last.less ip) = false →
      Scans table now last skip ip none
  | found {ip : Addr} : (ip.isValid && !last.less ip) = true →
      (!skip ip && table.free now ip) = true → Scans table now last skip ip (some ip)
  | next {ip : Addr} {result : Option Addr} : (ip.isValid && !last.less ip) = true →
      (!skip ip && table.free now ip) = false →
        Scans table now last skip ip.next result → Scans table now last skip ip result

structure Available (table : LeaseTable) (now : Int) (start last : Addr) (skip : Addr → Bool)
    (ip : Addr) : Prop where
  valid : ip.isValid = true
  zone : ip.zone = start.zone
  low : ip.less start = false
  high : last.less ip = false
  kept : skip ip = false
  unleased : ∀ lease, table.lease? ip = some lease → lease.expiry < now

section Allocation

variable {last found other : Addr} {skip : Addr → Bool} {fuel : Nat}

/-- The addresses that remain bound the rounds. -/
theorem scans_firstFree (hfuel : ip.remaining ≤ fuel) :
    Scans table now last skip ip (table.firstFree now last skip fuel ip) := by
  induction fuel generalizing ip with
  | zero =>
    refine .done ?_
    cases ip with
    | invalid => rfl
    | ip4 value | ip6 value zone => simp [Addr.remaining] at hfuel; omega
  | succ fuel ih =>
    rw [firstFree]
    split
    · rename_i hrange
      split
      · rename_i hfree
        exact .found hrange hfree
      rename_i hfree
      refine .next hrange (Bool.eq_false_iff.mpr hfree) (ih ?_)
      rcases ip.next_cases with ⟨-, -, -, -, hrem⟩ | ⟨hnone, -⟩
      · omega
      · simp [hnone, Addr.remaining]
    · rename_i hrange
      exact .done (Bool.eq_false_iff.mpr hrange)

theorem not_kept_of_available (h : Available table now ip last skip other)
    (hbusy : (!skip ip && table.free now ip) = false) : other ≠ ip := by
  rintro rfl
  simp [h.kept, (free_iff table now other).mpr h.unleased] at hbusy

theorem Available.past (h : Available table now ip last skip other) (hne : other ≠ ip)
    (hnext : ip.next.zone = ip.zone) : Available table now ip.next last skip other :=
  ⟨h.valid, h.zone.trans hnext.symm, Addr.not_less_next h.low h.zone hne, h.high, h.kept,
    h.unleased⟩

/-- A search that ends with an address found the least one available. -/
theorem Scans.least (h : Scans table now last skip ip (some found)) :
    Available table now ip last skip found ∧
      ∀ other, Available table now ip last skip other → other.less found = false := by
  generalize hres : some found = result at h
  induction h with
  | done _ => cases hres
  | @found ip hrange hfree =>
    cases hres
    rw [Bool.and_eq_true, Bool.not_eq_true'] at hrange hfree
    refine ⟨⟨hrange.1, rfl, ?_, hrange.2, hfree.1, (free_iff table now found).mp hfree.2⟩,
      ?_⟩
    · simp [Addr.less]
    · intro other ho
      exact ho.low
  | @next ip result hrange hbusy hrest ih =>
    obtain ⟨hf, hleast⟩ := ih hres
    have hnext : ip.next.isValid = true := by
      cases hrest with
      | done _ => cases hres
      | found hrange _ | next hrange _ _ => exact (Bool.and_eq_true _ _ ▸ hrange).1
    rcases ip.next_cases with ⟨-, hfamily, hzone, hvalue, -⟩ | ⟨hnone, -⟩
    · refine ⟨⟨hf.valid, hf.zone.trans hzone, ?_, hf.high, hf.kept, hf.unleased⟩, ?_⟩
      · have hlow := hf.low
        rw [Bool.eq_false_iff, ne_eq, Addr.less_eq_true_iff] at hlow ⊢
        omega
      · intro other ho
        exact hleast other (ho.past (not_kept_of_available ho hbusy) hzone)
    · rw [hnone] at hnext
      cases hnext

/-- A search that ends without an address passed all of the family. -/
theorem Scans.exhausted (h : Scans table now last skip ip none)
    (hfamily : other.bitLen = ip.bitLen) : ¬ Available table now ip last skip other := by
  intro ho
  generalize hres : (none : Option Addr) = result at h
  induction h with
  | @done ip hrange =>
    rw [← Addr.isValid_eq_of_bitLen_eq hfamily, ho.valid, Bool.true_and,
      Bool.not_eq_false', Addr.less_eq_true_iff] at hrange
    have hlow := ho.low
    have hhigh := ho.high
    rw [Bool.eq_false_iff, ne_eq, Addr.less_eq_true_iff, ho.zone] at hlow hhigh
    by_cases hzone : last.zone < ip.zone <;>
      simp only [hzone, String.lt_irrefl, and_true, and_false, or_false] at hrange hlow hhigh <;>
      omega
  | found _ _ => cases hres
  | @next ip result hrange hbusy hrest ih =>
    have hne := not_kept_of_available ho hbusy
    rcases ip.next_cases with ⟨-, hs, hzone, -⟩ | ⟨-, hmost⟩
    · exact ih (hfamily.trans hs.symm) (ho.past hne hzone) hres
    have hlow := ho.low
    rw [Bool.eq_false_iff, ne_eq, Addr.less_eq_true_iff] at hlow
    have hvalue := mt (Addr.eq_of_value_eq hfamily ho.zone) hne
    have := hmost other hfamily
    omega

theorem available_of_firstFree
    (h : table.firstFree now last skip ip.remaining ip = some found) :
    Available table now ip last skip found := by
  have hscans : Scans table now last skip ip (some found) := by
    rw [← h]
    exact scans_firstFree (Nat.le_refl _)
  exact hscans.least.1

/-- The loop ends for all bounds of one family, and its result is the least available
address, which alone is booked, or the invalid address if there is none. -/
theorem allocate_exact (table : LeaseTable) (now : Int) (start last : Addr)
    (hfamily : start.bitLen = last.bitLen) (skip : Addr → Bool) (lease : Lease) :
    (∃ result, Scans table now last skip start result ∧
        (table.allocate now start last skip lease).1 = result.getD .invalid) ∧
      ((table.allocate now start last skip lease).1 = .invalid ↔
        ∀ ip, ¬ Available table now start last skip ip) ∧
      ((table.allocate now start last skip lease).1 = .invalid →
        (table.allocate now start last skip lease).2 = table) ∧
      ∀ ip, (table.allocate now start last skip lease).1 = ip → ip ≠ .invalid →
        Available table now start last skip ip ∧
          (∀ other, Available table now start last skip other → other.less ip = false) ∧
          ∀ other, (table.allocate now start last skip lease).2.lease? other =
            if other = ip then some { lease with ip := ip } else table.lease? other := by
  have hscans : Scans table now last skip start
      (table.firstFree now last skip start.remaining start) :=
    scans_firstFree (Nat.le_refl _)
  unfold allocate
  cases hres : table.firstFree now last skip start.remaining start with
  | none =>
    rw [hres] at hscans
    have hnone (ip : Addr) : ¬ Available table now start last skip ip := by
      intro hip
      have hlow := hip.low
      have hhigh := hip.high
      rw [Bool.eq_false_iff, ne_eq, Addr.less_eq_true_iff] at hlow hhigh
      exact hscans.exhausted (by omega) hip
    refine ⟨⟨none, hscans, rfl⟩, ⟨fun _ => hnone, fun _ => rfl⟩, fun _ => rfl, ?_⟩
    intro ip hip hval
    exact absurd hip.symm hval
  | some found =>
    rw [hres] at hscans
    obtain ⟨havailable, hleast⟩ := hscans.least
    have hval : found ≠ .invalid := by
      rintro rfl
      cases havailable.valid
    refine ⟨⟨some found, hscans, rfl⟩, ⟨?_, ?_⟩, fun hnone => absurd hnone hval, ?_⟩
    · exact fun hnone => absurd hnone hval
    · exact fun hnone => absurd havailable (hnone found)
    · rintro ip rfl _
      exact ⟨havailable, hleast, fun other => lease?_set table other _⟩

/-- A pool up to the last address of the family, with a lease on its first address
and one on its last. -/
def leasedEnds : LeaseTable :=
  (newLeaseTable.set ⟨.ip4 0xfffffffd, "02:00:00:00:00:01", "", "a", 20, false⟩).set
    ⟨.ip4 0xffffffff, "02:00:00:00:00:02", "", "b", 10, false⟩

/-- The last address is taken as soon as its lease has expired. -/
theorem allocate_exact_last : let skip := fun ip => ip == Addr.ip4 0xfffffffe
    let lease : Lease := ⟨.invalid, "02:00:00:00:00:03", "", "c", 30, false⟩
    let allocate := fun now =>
      leasedEnds.allocate now (.ip4 0xfffffffd) (.ip4 0xffffffff) skip lease
    ((allocate 10).1 = .invalid ∧
        ∀ ip, ¬ Available leasedEnds 10 (.ip4 0xfffffffd) (.ip4 0xffffffff) skip ip) ∧
      (allocate 11).1 = .ip4 0xffffffff ∧
      (allocate 11).2.lease? (.ip4 0xffffffff) =
        some { lease with ip := .ip4 0xffffffff } := by
  intro skip lease allocate
  obtain ⟨-, hnone, -⟩ :=
    allocate_exact leasedEnds 10 (.ip4 0xfffffffd) (.ip4 0xffffffff) rfl skip lease
  obtain ⟨-, -, -, hsome⟩ :=
    allocate_exact leasedEnds 11 (.ip4 0xfffffffd) (.ip4 0xffffffff) rfl skip lease
  have hlast : (allocate 11).1 = .ip4 0xffffffff := by decide
  exact ⟨⟨by decide, hnone.mp (by decide)⟩, hlast, (hsome _ hlast (by decide)).2.2 _⟩

end Allocation

end LeaseTable

end GvSwitch.Gateway
