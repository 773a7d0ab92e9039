import GvSwitch.Foundation.Bytes

/-!
# One's-complement sums

Words of sixteen bits are added with an end-around carry, the last byte of an
odd string as the high half of a word.  Zero has two representations: a sum is
0 only if every word is, and 0xffff for every other multiple of 65535.
-/

namespace GvSwitch.Foundation

def words : Bytes → List Nat
  | [] => []
  | [last] => [last.toNat * 256]
  | high :: low :: rest => (high.toNat * 256 + low.toNat) :: words rest

def wordSum (buf : Bytes) : Nat := (words buf).sum

def endAround (sum word : Nat) : Nat :=
  if sum + word < 65536 then sum + word else sum + word - 65535

def checksum (buf : Bytes) (initial : Nat) : Nat := (words buf).foldl endAround initial

/-- The sixteen bits that stand for a sum. -/
def folded (sum : Nat) : Nat :=
  if sum = 0 then 0 else (sum - 1) % 65535 + 1

variable (buf rest : Bytes) (sum : Nat)

theorem lt_of_mem_words : ∀ word ∈ words buf, word < 65536 := by
  fun_induction words buf with
  | case1 => simp
  | case2 last =>
    have hlast := last.toNat_lt
    simp
    omega
  | case3 high low rest ih =>
    have hhigh := high.toNat_lt
    have hlow := low.toNat_lt
    simp only [List.mem_cons, forall_eq_or_imp]
    exact ⟨by omega, ih⟩

theorem wordSum_append (heven : buf.length % 2 = 0) :
    wordSum (buf ++ rest) = wordSum buf + wordSum rest := by
  fun_induction words buf with
  | case1 => simp [wordSum, words]
  | case2 last => simp at heven
  | case3 high low tail ih =>
    simp only [List.length_cons] at heven
    have htail := ih (by omega)
    simp only [wordSum, words, List.cons_append, List.sum_cons] at htail ⊢
    omega

theorem endAround_folded {word : Nat} (h : word < 65536) :
    endAround (folded sum) word = folded (sum + word) := by
  unfold endAround folded
  split <;> split <;> split <;> omega

theorem checksum_folded : checksum buf (folded sum) = folded (sum + wordSum buf) := by
  have hwords := lt_of_mem_words buf
  unfold checksum wordSum
  generalize words buf = list at hwords
  induction list generalizing sum with
  | nil => rfl
  | cons word rest ih =>
    rw [List.foldl_cons, endAround_folded _ (hwords word (by simp)), List.sum_cons,
      ← Nat.add_assoc]
    exact ih _ fun other ho => hwords other (by simp [ho])

theorem checksum_zero : checksum buf 0 = folded (wordSum buf) := by
  simpa [folded] using checksum_folded buf 0

@[simp] theorem length_putBE16 (value : Nat) : (putBE16 value).length = 2 := rfl

@[simp] theorem length_putBE32 (value : Nat) : (putBE32 value).length = 4 := rfl

theorem wordSum_putBE16 {value : Nat} (h : value < 65536) : wordSum (putBE16 value) = value := by
  simp [wordSum, words, putBE16]
  omega

theorem wordSum_putBE32 {value : Nat} (h : value < 65536) : wordSum (putBE32 value) = value := by
  simp [wordSum, words, putBE32, putBE16]
  omega

/-- The complement of a sum completes it to 0xffff. -/
theorem folded_add_complement : folded (sum + (0xffff - folded sum)) = 0xffff := by
  unfold folded
  split <;> split <;> omega

theorem complement_ne_zero_iff (h : sum ≠ 0) : 0xffff - folded sum ≠ 0 ↔ ¬ 65535 ∣ sum := by
  unfold folded
  split <;> omega

end GvSwitch.Foundation
