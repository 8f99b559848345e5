import Mathlib.Algebra.Order.Field.Rat
import Mathlib.Algebra.Order.Field.Power
import Mathlib.Tactic.FieldSimp
import Mathlib.Tactic.Linarith
import Mathlib.Tactic.Ring
/-!
Rounding to the nearest, first to whole numbers and then to mantissas of twenty-four bits. The
unit is the least positive single, so that every finite magnitude is a whole number of units.
-/
namespace AmbientSound

/-- `j` is nearest to `q`; between two whole numbers it is the even one. -/
structure Nearest (q : ℚ) (j : ℕ) : Prop where
  le_half : q ≤ j + 1 / 2
  half_le : j ≤ q + 1 / 2
  even_above : q = j + 1 / 2 → j % 2 = 0
  even_below : j = q + 1 / 2 → j % 2 = 0

theorem nearest_self (j : ℕ) : Nearest j j where
  le_half := by linarith
  half_le := by linarith
  even_above := by
    intro same
    linarith
  even_below := by
    intro same
    linarith

theorem Nearest.mono {q r : ℚ} {j k : ℕ} (hj : Nearest q j) (hk : Nearest r k) (le : q ≤ r) :
    j ≤ k := by
  by_contra above
  have next : k + 1 ≤ j := by omega
  have cast : (k : ℚ) + 1 ≤ j := by exact_mod_cast next
  have low := hj.half_le
  have high := hk.le_half
  -- only a tie leaves room, and a tie would make both neighbours even
  have tie : (j : ℚ) = k + 1 := by linarith
  have even := hj.even_below (by linarith)
  have even' := hk.even_above (by linarith)
  have same : j = k + 1 := by exact_mod_cast tie
  omega

/-- `n` units are `q` units rounded: the mantissa is nearest, and the exponent is that of `q`. -/
def Rounds (q : ℚ) (n : ℕ) : Prop :=
  ∃ k j : ℕ, n = j * 2 ^ k ∧ Nearest (q / 2 ^ k) j ∧ q < 2 ^ (k + 24) ∧ (k = 0 ∨ 2 ^ (k + 23) ≤ q)

def Exactly (n : ℕ) : Prop := ∃ k j : ℕ, n = j * 2 ^ k ∧ j < 2 ^ 24 ∧ (k = 0 ∨ 2 ^ 23 ≤ j)

theorem rounds_self {n : ℕ} (exact : Exactly n) : Rounds n n := by
  obtain ⟨k, j, rfl, small, large⟩ := exact
  have pos : (0 : ℚ) < 2 ^ k := by positivity
  refine ⟨k, j, rfl, ?_, ?_, ?_⟩
  · have same : ((j * 2 ^ k : ℕ) : ℚ) / 2 ^ k = j := by
      push_cast
      field_simp
    rw [same]
    exact nearest_self j
  · have below : (j : ℚ) < 2 ^ 24 := by exact_mod_cast small
    push_cast
    calc (j : ℚ) * 2 ^ k < 2 ^ 24 * 2 ^ k := mul_lt_mul_of_pos_right below pos
      _ = 2 ^ (k + 24) := by ring
  · rcases large with none | large
    · exact .inl none
    · have above : (2 : ℚ) ^ 23 ≤ j := by exact_mod_cast large
      refine .inr ?_
      push_cast
      calc (2 : ℚ) ^ (k + 23) = 2 ^ 23 * 2 ^ k := by ring
        _ ≤ j * 2 ^ k := mul_le_mul_of_nonneg_right above pos.le

theorem Nearest.le_two_pow {q : ℚ} {j e : ℕ} (h : Nearest q j) (below : q ≤ 2 ^ e) :
    j ≤ 2 ^ e := by
  have power := nearest_self (2 ^ e)
  push_cast at power
  exact h.mono power below

theorem Nearest.two_pow_le {q : ℚ} {j e : ℕ} (h : Nearest q j) (above : 2 ^ e ≤ q) :
    2 ^ e ≤ j := by
  have power := nearest_self (2 ^ e)
  push_cast at power
  exact power.mono h above

/-- A quotient by a power of two that leaves twenty-four bits, or fewer in the least binade. -/
theorem Nearest.rounds {x q : ℚ} {n k j : ℕ} (near : Nearest (x / 2 ^ n) j)
    (same : q * 2 ^ n = x * 2 ^ k) (length : x < 2 ^ (n + 24))
    (least : k = 0 ∨ 2 ^ (n + 23) ≤ x) :
    j ≤ 2 ^ 24 ∧ (k = 0 ∨ 2 ^ 23 ≤ j) ∧ Rounds q (j * 2 ^ k) := by
  have power : (0 : ℚ) < 2 ^ n := by positivity
  have split : q = x / 2 ^ n * 2 ^ k := by
    field_simp
    linarith
  rw [pow_add] at length least
  have short : x / 2 ^ n < 2 ^ 24 := by
    rw [div_lt_iff₀ power]
    linarith
  have long : k = 0 ∨ 2 ^ 23 ≤ x / 2 ^ n := by
    refine least.imp_right ?_
    intro least
    rw [le_div_iff₀ power]
    linarith
  refine ⟨near.le_two_pow short.le, long.imp_right near.two_pow_le, k, j, rfl, ?_, ?_, ?_⟩
  · have quotient : q / 2 ^ k = x / 2 ^ n := by rw [split]; field_simp
    rw [quotient]
    exact near
  · rw [split, pow_add, mul_comm (2 ^ k)]
    exact mul_lt_mul_of_pos_right short (by positivity)
  · rw [split, pow_add, mul_comm (2 ^ k)]
    exact long.imp_right fun long => mul_le_mul_of_nonneg_right long (by positivity)

theorem Rounds.mono {q r : ℚ} {m n : ℕ} (hm : Rounds q m) (hn : Rounds r n) (le : q ≤ r) :
    m ≤ n := by
  obtain ⟨k, i, rfl, near, below, above⟩ := hm
  obtain ⟨l, j, rfl, near', below', above'⟩ := hn
  have unit : (0 : ℚ) < 2 ^ k := by positivity
  have unit' : (0 : ℚ) < 2 ^ l := by positivity
  have exponents : k ≤ l := by
    rcases above with none | above
    · omega
    · have powers : (2 : ℚ) ^ (k + 23) < 2 ^ (l + 24) := by linarith
      have := (pow_lt_pow_iff_right₀ (by norm_num : (1 : ℚ) < 2)).mp powers
      omega
  rcases Nat.eq_or_lt_of_le exponents with rfl | less
  · have quotients : q / 2 ^ k ≤ r / 2 ^ k := div_le_div_of_nonneg_right le unit.le
    exact Nat.mul_le_mul_right _ (near.mono near' quotients)
  · -- the smaller number is at most the power of two with which the larger binade begins
    have top : i ≤ 2 ^ 24 := by
      refine near.le_two_pow ?_
      rw [div_le_iff₀ unit]
      calc q ≤ 2 ^ (k + 24) := below.le
        _ = 2 ^ 24 * 2 ^ k := by ring
    have bottom : 2 ^ 23 ≤ j := by
      refine near'.two_pow_le ?_
      rw [le_div_iff₀ unit']
      calc (2 : ℚ) ^ 23 * 2 ^ l = 2 ^ (l + 23) := by ring
        _ ≤ r := above'.resolve_left (by omega)
    calc i * 2 ^ k ≤ 2 ^ 24 * 2 ^ k := Nat.mul_le_mul_right _ top
      _ = 2 ^ (24 + k) := (Nat.pow_add 2 24 k).symm
      _ ≤ 2 ^ (23 + l) := Nat.pow_le_pow_right (by decide) (by omega)
      _ = 2 ^ 23 * 2 ^ l := Nat.pow_add 2 23 l
      _ ≤ j * 2 ^ l := Nat.mul_le_mul_right _ bottom

theorem Rounds.unique {q : ℚ} {m n : ℕ} (hm : Rounds q m) (hn : Rounds q n) : m = n :=
  Nat.le_antisymm (hm.mono hn le_rfl) (hn.mono hm le_rfl)

theorem Rounds.le_of_le {q : ℚ} {m n : ℕ} (h : Rounds q m) (exact : Exactly n) (le : q ≤ n) :
    m ≤ n :=
  h.mono (rounds_self exact) le

theorem Rounds.ge_of_ge {q : ℚ} {m n : ℕ} (h : Rounds q n) (exact : Exactly m) (le : m ≤ q) :
    m ≤ n :=
  (rounds_self exact).mono h le

theorem exactly_zero : Exactly 0 := ⟨0, 0, rfl, by decide, .inl rfl⟩

theorem exactly_two_pow (e : ℕ) : Exactly (2 ^ e) := by
  by_cases small : e < 24
  · exact ⟨0, 2 ^ e, by simp, Nat.pow_lt_pow_right (by decide) small, .inl rfl⟩
  · refine ⟨e - 23, 2 ^ 23, ?_, by decide, .inr le_rfl⟩
    rw [← Nat.pow_add]
    congr 1
    omega

theorem exactly_mul_two_pow {j : ℕ} (small : j ≤ 2 ^ 24) (k : ℕ) : Exactly (j * 2 ^ k) := by
  induction k generalizing j with
  | zero =>
    rcases Nat.eq_or_lt_of_le small with rfl | less
    · simpa using exactly_two_pow 24
    · exact ⟨0, j, rfl, less, .inl rfl⟩
  | succ k ih =>
    rcases Nat.eq_or_lt_of_le small with rfl | less
    · have power := exactly_two_pow (24 + (k + 1))
      rwa [Nat.pow_add] at power
    · by_cases large : 2 ^ 23 ≤ j
      · exact ⟨k + 1, j, rfl, less, .inr large⟩
      · have twice : j * 2 ^ (k + 1) = j * 2 * 2 ^ k := by
          rw [Nat.pow_succ']
          ring
        rw [twice]
        exact ih (by omega)

end AmbientSound
