import AmbientSound.Proofs.Number.Shares
import AmbientSound.Random.Draw
/-!
What draws give: a single is at least zero and below one, and a number is below its bound.
-/
namespace AmbientSound

namespace Single

theorem step_weighs : Weighs (1 / 16777216) (2 ^ 125) := by
  have shape : (1 / 16777216 : Float32).toModel.unpack =
      .finite .positive (2 ^ 23) (-47) (by decide) := rfl
  rw [Weighs, shape]
  exact ⟨⟨by norm_num, by norm_num, .inl le_rfl⟩, by decide +kernel, fun _ => rfl⟩

theorem steps_weighs {n : ℕ} (small : n ≤ 2 ^ 24) :
    Weighs (ofNat n * (1 / 16777216)) (n * 2 ^ 125) := by
  have units : ((n * oneUnits : ℕ) : ℚ) * (2 ^ 125 : ℕ) / oneUnits = (n * 2 ^ 125 : ℕ) := by
    have some : (oneUnits : ℚ) ≠ 0 := Nat.cast_ne_zero.mpr (Nat.two_pow_pos 149).ne'
    push_cast
    field_simp
  have product := mul_gives (ofNat_weighs small) step_weighs
  rw [units] at product
  refine product.exactly (exactly_mul_two_pow small 125) ?_
  refine Nat.lt_of_le_of_lt ?_ (mul_oneUnits_lt small)
  exact Nat.mul_le_mul_left n (Nat.pow_le_pow_right (by decide) (by decide))

theorem le_of_lt {x y : Float32} (less : x < y) : x ≤ y := by
  rw [lt_iff_unpacked, Float.Model.UnpackedFloat.lt, beq_iff_eq] at less
  rw [le_iff_unpacked, Float.Model.UnpackedFloat.le, less]
  rfl

theorem not_one_le {x : Float32} (low : 0 ≤ x) (high : x < 1) : ¬ 1 ≤ x := by
  obtain ⟨n, weighs, -⟩ := (share_iff x).mpr ⟨low, le_of_lt high⟩
  have less := (lt_iff weighs one_weighs).mp high
  rw [le_iff one_weighs weighs]
  exact Nat.not_le.mpr less

end Single

namespace Source

variable (s : Source)

theorem unit_range : 0 ≤ s.unit.1 ∧ s.unit.1 < 1 := by
  have bits : (s.word.1 >>> 8).toNat < 2 ^ 24 := by
    rw [UInt32.toNat_shiftRight]
    have word := s.word.1.toNat_lt
    simp only [UInt32.reduceToNat, Nat.reduceMod, Nat.shiftRight_eq_div_pow]
    omega
  have weighs := Single.steps_weighs bits.le
  constructor
  · exact (Single.le_iff Single.zero_weighs weighs).mpr (Nat.zero_le _)
  · refine (Single.lt_iff weighs Single.one_weighs).mpr ?_
    rw [Single.oneUnits_eq]
    exact Nat.mul_lt_mul_of_pos_right bits (Nat.two_pow_pos 125)

theorem product_div_lt (v : UInt64) {n : ℕ} (pos : 0 < n) : v.toNat * n / UInt64.size < n := by
  apply Nat.div_lt_of_lt_mul
  exact Nat.mul_lt_mul_of_pos_right v.toNat_lt pos

def afterTries (n : ℕ) : Source := ⟨s.key, s.taken + 2 * n⟩

/-- The number that the next try gives, accepted or not, and the source behind it. -/
def attempt (n : ℕ) : ℕ × Source := (s.doubleWord.1.toNat * n / UInt64.size, s.afterTries 1)

def Accepts (n : ℕ) : Prop := s.doubleWord.1.toNat * n % UInt64.size ≤ acceptedLow n

/-- With so much fuel the outcome is that of the first try that is accepted, as it would be without
an end to the tries, unless as many have failed as there is fuel: then the next one counts. -/
theorem belowFuel_eq (fuel n : ℕ) : ∃ k ≤ fuel, (∀ j < k, ¬ (s.afterTries j).Accepts n) ∧
    (k < fuel → (s.afterTries k).Accepts n) ∧ belowFuel fuel n s = (s.afterTries k).attempt n := by
  induction fuel generalizing s with
  | zero => exact ⟨0, Nat.le_refl 0, by simp, by simp, rfl⟩
  | succ fuel ih =>
    by_cases accepted : s.Accepts n
    · exact ⟨0, Nat.zero_le _, by simp, fun _ => accepted, if_pos accepted⟩
    · obtain ⟨k, most, failed, good, ends⟩ := ih (s.afterTries 1)
      have later (j : ℕ) : (s.afterTries 1).afterTries j = s.afterTries (j + 1) := by
        simp only [afterTries, Source.mk.injEq, true_and]
        omega
      simp only [later] at failed good ends
      refine ⟨k + 1, by omega, ?_, fun more => good (by omega), (if_neg accepted).trans ends⟩
      intro j before
      cases j with
      | zero => exact accepted
      | succ j => exact failed j (by omega)

theorem belowFuel_lt (fuel : ℕ) {n : ℕ} (pos : 0 < n) : (belowFuel fuel n s).1 < n := by
  obtain ⟨k, -, -, -, ends⟩ := s.belowFuel_eq fuel n
  rw [ends]
  exact product_div_lt _ pos

theorem below_lt {n : ℕ} (pos : 0 < n) : (s.below n).1 < n := s.belowFuel_lt 256 pos

end Source

end AmbientSound
