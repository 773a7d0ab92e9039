import GvSwitch.Gateway.Binding
import Mathlib.Logic.Function.Basic

/-!
# Promises

What a server has told its clients, apart from what its lease table says: for
each address the client it was last promised to and until when.  A promise is
kept as long as the table backs it with a lease of that client that runs at
least as long.
-/

namespace GvSwitch.Gateway

open Foundation LeaseTable

structure Promise where
  key : String
  expiry : Int
  deriving DecidableEq, Repr

abbrev Promises := Addr → Option Promise

namespace Promises

def empty : Promises := fun _ => none

def endIf (promised : Promises) (ended : Addr → Promise → Bool) : Promises :=
  fun ip => (promised ip).filter fun promise => !ended ip promise

def make (promised : Promises) (ip : Addr) (promise : Promise) : Promises :=
  Function.update promised ip (some promise)

theorem endIf_eq_some_iff (promised : Promises) (ended : Addr → Promise → Bool)
    (ip : Addr) (promise : Promise) :
    promised.endIf ended ip = some promise ↔
      promised ip = some promise ∧ ended ip promise = false := by
  simp [endIf, Option.filter_eq_some_iff]

end Promises

/-- Every promise that still runs is backed by a lease of its client. -/
structure Backed (table : LeaseTable) (now : Int) (promised : Promises) : Prop where
  invalid : promised .invalid = none
  lease : ∀ ip promise, promised ip = some promise → now ≤ promise.expiry →
    ∃ lease, table.lease? ip = some lease ∧ lease.key = promise.key ∧
      promise.expiry ≤ lease.expiry

section Backed

variable {table : LeaseTable} {now : Int} {promised : Promises}

theorem backed_empty (table : LeaseTable) (now : Int) : Backed table now .empty :=
  ⟨rfl, fun _ _ hprom => nomatch hprom⟩

section Kept

variable (h : Backed table now promised)

include h

theorem Backed.advance {later : Int} (hlater : now ≤ later) : Backed table later promised :=
  ⟨h.invalid, fun ip promise hprom hruns =>
    h.lease ip promise hprom (Int.le_trans hlater hruns)⟩

theorem Backed.endIf (ended : Addr → Promise → Bool) :
    Backed table now (promised.endIf ended) := by
  refine ⟨by simp [Promises.endIf, h.invalid], fun ip promise hprom hruns => ?_⟩
  exact h.lease ip promise ((Promises.endIf_eq_some_iff _ _ _ _).mp hprom).1 hruns

/-- Another table will do if it kept the leases of the promises that run. -/
theorem Backed.retable {after : LeaseTable}
    (hkept : ∀ ip promise lease, promised ip = some promise → now ≤ promise.expiry →
      table.lease? ip = some lease → lease.key = promise.key →
        promise.expiry ≤ lease.expiry → after.lease? ip = some lease) :
    Backed after now promised := by
  refine ⟨h.invalid, fun ip promise hprom hruns => ?_⟩
  obtain ⟨lease, hl, hkey, hexpiry⟩ := h.lease ip promise hprom hruns
  exact ⟨lease, hkept ip promise lease hprom hruns hl hkey hexpiry, hkey, hexpiry⟩

theorem Backed.expireSweep : Backed (table.expireSweep now) now promised := by
  refine h.retable fun ip promise lease _ hruns hl _ hexpiry => ?_
  rw [LeaseTable.expireSweep, LeaseTable.lease?_filter, hl]
  simp only [Option.filter_some, Lease.expired]
  rw [if_pos]
  simp
  omega

theorem Backed.drop (ip : Addr)
    (hended : ∀ promise, promised ip = some promise → promise.expiry < now) :
    Backed (table.drop ip) now promised := by
  refine h.retable fun other promise lease hprom hruns hl _ _ => ?_
  rw [lease?_drop, if_neg, hl]
  rintro rfl
  exact absurd (hended promise hprom) (Int.not_lt.mpr hruns)

theorem Backed.forceRelease (ip : Addr) :
    Backed (table.drop ip) now (promised.endIf fun other _ => other == ip) := by
  refine (h.endIf _).drop ip fun promise hprom => ?_
  have ho := ((Promises.endIf_eq_some_iff _ _ _ _).mp hprom).2
  simp at ho

theorem Backed.releaseByPort (portID : String) :
    Backed (table.releaseByPort portID) now
      (promised.endIf fun ip _ => (table.lease? ip).any (·.portID == portID)) := by
  refine (h.endIf _).retable fun ip promise lease hprom _ hl _ _ => ?_
  have hp := ((Promises.endIf_eq_some_iff _ _ _ _).mp hprom).2
  rw [hl, Option.any_some] at hp
  rw [LeaseTable.releaseByPort, LeaseTable.lease?_filter, hl, Option.filter_some, if_pos]
  simpa using hp

theorem Backed.set (lease : Lease)
    (hkept : ∀ promise, promised lease.ip = some promise → now ≤ promise.expiry →
      lease.key = promise.key ∧ promise.expiry ≤ lease.expiry) :
    Backed (table.set lease) now promised := by
  refine ⟨h.invalid, fun ip promise hprom hruns => ?_⟩
  by_cases hip : ip = lease.ip
  · subst hip
    exact ⟨lease, by simp [lease?_set], hkept promise hprom hruns⟩
  · obtain ⟨held, hh, hkey, hexpiry⟩ := h.lease ip promise hprom hruns
    exact ⟨held, by rw [lease?_set, if_neg hip, hh], hkey, hexpiry⟩

theorem Backed.book (lease : Lease) (hval : lease.ip.isValid = true) :
    Backed (table.set lease) now (promised.make lease.ip ⟨lease.key, lease.expiry⟩) := by
  constructor
  · have hne : Addr.invalid ≠ lease.ip := by
      intro heq
      rw [← heq] at hval
      cases hval
    rw [Promises.make, Function.update_of_ne hne, h.invalid]
  · intro ip promise hprom hruns
    rw [lease?_set]
    by_cases hip : ip = lease.ip
    · subst hip
      simp only [Promises.make, Function.update_self, Option.some.injEq] at hprom
      subst hprom
      exact ⟨lease, if_pos rfl, rfl, Int.le_refl _⟩
    · rw [Promises.make, Function.update_of_ne hip] at hprom
      rw [if_neg hip]
      exact h.lease ip promise hprom hruns

/-- An address nobody else uses is promised to nobody else. -/
theorem Backed.key_eq {ip : Addr} {promise : Promise}
    (hprom : promised ip = some promise) (hruns : now ≤ promise.expiry)
    {mac clientID : String} (huse : table.inUse now ip mac clientID = false) :
    promise.key = clientKey mac clientID := by
  obtain ⟨lease, hl, hkey, hexpiry⟩ := h.lease ip promise hprom hruns
  rw [← hkey]
  exact (inUse_eq_false_iff _ _ _ _ _).mp huse lease hl (Int.le_trans hruns hexpiry)

end Kept

end Backed

end GvSwitch.Gateway
