import UnifyMatterBridge.Lib.FirstFit
import Mathlib.Data.Nat.Bitwise

/-! Fields of a number, given by masks of one bit or several. -/
namespace BitField

variable {mask other k : ℕ}

/-- The position of the lowest bit of a mask; 0 if it has none. -/
def firstBit (mask : ℕ) : ℕ := (FirstFit.search mask.testBit 0 (mask.log2 + 1)).getD 0

theorem least_firstBit (h : mask ≠ 0) :
    FirstFit.Least mask.testBit 0 (mask.log2 + 1) (firstBit mask) := by
  cases hsearch : FirstFit.search mask.testBit 0 (mask.log2 + 1) with
  | none =>
    have hlog := FirstFit.search_eq_none.mp hsearch mask.log2 (Nat.zero_le _) (by omega)
    rw [Nat.testBit_log2 h] at hlog
    cases hlog
  | some n =>
    have hn : firstBit mask = n := by
      rw [firstBit, hsearch, Option.getD_some]
    exact hn ▸ FirstFit.search_eq_some.mp hsearch

theorem testBit_firstBit (h : mask ≠ 0) : mask.testBit (firstBit mask) = true :=
  (least_firstBit h).2.2.1

theorem firstBit_le (h : mask.testBit k = true) : firstBit mask ≤ k := by
  have hne : mask ≠ 0 := by
    rintro rfl
    rw [Nat.zero_testBit] at h
    cases h
  by_contra hlt
  have hclear := (least_firstBit hne).2.2.2 k (Nat.zero_le k) (by omega)
  rw [h] at hclear
  cases hclear

theorem firstBit_lt {bits : ℕ} (hne : mask ≠ 0) (h : mask < 2 ^ bits) : firstBit mask < bits := by
  have hle : 2 ^ firstBit mask ≤ mask := Nat.ge_two_pow_of_testBit (testBit_firstBit hne)
  exact (Nat.pow_lt_pow_iff_right (by decide)).mp (hle.trans_lt h)

/-- A mask is a single bit if it has no bit but its lowest. -/
theorem eq_two_pow_iff (hne : mask ≠ 0) :
    mask = 2 ^ firstBit mask ↔ ∀ k, mask.testBit k = true → k = firstBit mask := by
  constructor
  · intro h k hk
    rw [h, Nat.testBit_two_pow] at hk
    exact (of_decide_eq_true hk).symm
  · intro h
    refine Nat.eq_of_testBit_eq fun k => ?_
    rw [Nat.testBit_two_pow]
    cases hk : mask.testBit k with
    | true => rw [h k hk, decide_eq_true rfl]
    | false =>
      have hfirst : firstBit mask ≠ k := by
        rintro rfl
        rw [testBit_firstBit hne] at hk
        cases hk
      rw [decide_eq_false hfirst]

theorem testBit_of_disjoint (h : mask &&& other = 0) (hk : mask.testBit k = true) :
    other.testBit k = false := by
  have hand : (mask &&& other).testBit k = false := by
    rw [h, Nat.zero_testBit]
  rwa [Nat.testBit_and, hk, Bool.true_and] at hand

theorem or_firstBit_and {n : ℕ} (hne : mask ≠ 0) (hn : n &&& other = 0)
    (h : mask &&& other = 0) : (n ||| 2 ^ firstBit mask) &&& other = 0 := by
  have hbit : other.testBit (firstBit mask) = false :=
    testBit_of_disjoint h (testBit_firstBit hne)
  rw [Nat.and_or_distrib_right, hn, Nat.zero_or, Nat.and_comm, Nat.and_two_pow, hbit]
  exact Nat.zero_mul _

end BitField
