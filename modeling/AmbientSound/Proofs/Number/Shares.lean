import AmbientSound.Proofs.Number.Single
/-!
Singles from zero to one. Their products and complements stay there, however they are rounded, and
so does the quotient of two whole numbers once it is below one.
-/
namespace AmbientSound

open Float.Model.UnpackedFloat

namespace Single

/-- A single from zero to one. A zero may have either sign. -/
def Share (x : Float32) : Prop := ∃ n, Weighs x n ∧ n ≤ oneUnits

theorem oneUnits_lt_overflow : oneUnits < overflow :=
  pow_lt_pow_right₀ Nat.one_lt_two (by decide)

theorem overflow_pos : 0 < overflow := Nat.zero_lt_of_lt oneUnits_lt_overflow

theorem zero_share : Share 0 := ⟨0, zero_weighs, Nat.zero_le _⟩

theorem one_share : Share 1 := ⟨oneUnits, one_weighs, le_rfl⟩

theorem clampUnit_share {x : Float32} (number : x.isNaN = false) : Share (clampUnit x) := by
  obtain ⟨n, le, weighs⟩ := clampUnit_weighs number
  exact ⟨n, weighs, le⟩

theorem share_iff (x : Float32) : Share x ↔ 0 ≤ x ∧ x ≤ 1 := by
  constructor
  · rintro ⟨n, weighs, le⟩
    exact ⟨(le_iff zero_weighs weighs).mpr (Nat.zero_le n), (le_iff weighs one_weighs).mpr le⟩
  · rintro ⟨low, high⟩
    rcases below_or_beyond_or_weighs (isNaN_of_le low) with ⟨-, below⟩ | ⟨-, -, beyond⟩ | ⟨n, weighs⟩
    · exact absurd low below
    · exact absurd high beyond
    · exact ⟨n, weighs, (le_iff weighs one_weighs).mp high⟩

theorem clampUnit_share_iff (x : Float32) : Share (clampUnit x) ↔ x.isNaN = false := by
  constructor
  · rintro ⟨n, weighs, -⟩
    by_contra nan
    rw [Bool.not_eq_false] at nan
    rw [clampUnit, clamp_nan nan] at weighs
    rw [isNaN_of_weighs weighs] at nan
    cases nan
  · exact clampUnit_share

/-- A share of something is not more than it: that much is a single itself, and rounding does not
cross it. -/
theorem part_of_gives {y z : Float32} {n k : ℕ} (h : Gives z (n * k / oneUnits)) (small : n ≤ oneUnits)
    (hy : Weighs y k) : ∃ r, Weighs z r ∧ r ≤ k := by
  have whole : (0 : ℚ) < oneUnits := by exact_mod_cast Nat.two_pow_pos 149
  have above : ((0 : ℕ) : ℚ) ≤ n * k / oneUnits := by
    rw [Nat.cast_zero]
    positivity
  have below : (n * k / oneUnits : ℚ) ≤ k := by
    rw [div_le_iff₀ whole, mul_comm (k : ℚ)]
    exact_mod_cast Nat.mul_le_mul_right k small
  obtain ⟨r, product, -, high⟩ := h.between exactly_zero hy.exactly above below (lt_overflow hy)
  exact ⟨r, product, high⟩

theorem mul_le_mul_of_weighs {x y x' y' : Float32} {n k n' k' p q : ℕ} (hx : Weighs x n)
    (hy : Weighs y k) (hx' : Weighs x' n') (hy' : Weighs y' k') (small : Weighs (x * y) p)
    (large : Weighs (x' * y') q) (le : n * k ≤ n' * k') : x * y ≤ x' * y' := by
  rw [le_iff small large]
  refine (mul_gives hx hy).mono (mul_gives hx' hy') ?_ small large
  have whole : (0 : ℚ) < oneUnits := by exact_mod_cast Nat.two_pow_pos 149
  refine div_le_div_of_nonneg_right ?_ whole.le
  exact_mod_cast le

section Neutral

variable {x y : Float32} {k : ℕ}

theorem Weighs.one_sub_zero (hx : Weighs x 0) : Weighs (1 - x) oneUnits := by
  have rest : Gives (1 - x) oneUnits := by simpa using sub_gives one_weighs hx (Nat.zero_le _)
  exact rest.exactly one_weighs.exactly oneUnits_lt_overflow

theorem Weighs.one_mul (hx : Weighs x oneUnits) (hy : Weighs y k) : Weighs (x * y) k := by
  have product := mul_gives hx hy
  have whole : (0 : ℚ) < oneUnits := by exact_mod_cast Nat.two_pow_pos 149
  rw [mul_div_cancel_left₀ _ whole.ne'] at product
  exact product.exactly hy.exactly (lt_overflow hy)

theorem Weighs.zero_add (hx : Weighs x 0) (hy : Weighs y k) : Weighs (x + y) k := by
  have sum : Gives (x + y) k := by simpa using add_gives hx hy
  exact sum.exactly hy.exactly (lt_overflow hy)

end Neutral

namespace Share

variable {x y z : Float32}

theorem number (h : Share x) : x.isNaN = false := by
  obtain ⟨n, weighs, -⟩ := h
  exact isNaN_of_weighs weighs

theorem nonneg (h : Share x) : 0 ≤ x := ((share_iff x).mp h).1

theorem le_one (h : Share x) : x ≤ 1 := ((share_iff x).mp h).2

theorem le_refl (h : Share x) : x ≤ x := by
  obtain ⟨n, weighs, -⟩ := h
  exact (le_iff weighs weighs).mpr le_rfl

theorem mul_weighs (hx : Share x) {k : ℕ} (hy : Weighs y k) : ∃ r, Weighs (x * y) r ∧ r ≤ k := by
  obtain ⟨n, weighs, small⟩ := hx
  exact part_of_gives (mul_gives weighs hy) small hy

theorem weighs_mul (hy : Share y) {n : ℕ} (hx : Weighs x n) : ∃ r, Weighs (x * y) r ∧ r ≤ n := by
  obtain ⟨k, weighs, small⟩ := hy
  have product := mul_gives hx weighs
  rw [mul_comm (n : ℚ)] at product
  exact part_of_gives product small hx

theorem mul (hx : Share x) (hy : Share y) : Share (x * y) := by
  obtain ⟨k, weighs, le⟩ := hy
  obtain ⟨r, product, high⟩ := hx.mul_weighs weighs
  exact ⟨r, product, high.trans le⟩

theorem mul_le (hx : Share x) (hy : Share y) : x * y ≤ y := by
  obtain ⟨k, weighs, le⟩ := hy
  obtain ⟨r, product, high⟩ := hx.mul_weighs weighs
  exact (le_iff product weighs).mpr high

theorem mul_le_left (hx : Share x) (hy : Share y) : x * y ≤ x := by
  obtain ⟨n, weighs, -⟩ := hx
  obtain ⟨r, product, high⟩ := hy.weighs_mul weighs
  exact (le_iff product weighs).mpr high

theorem mul_mono (hz : Share z) (hx : Share x) (hy : Share y) (le : x ≤ y) : z * x ≤ z * y := by
  obtain ⟨p, small, -⟩ := hz.mul hx
  obtain ⟨q, large, -⟩ := hz.mul hy
  obtain ⟨f, factor, -⟩ := hz
  obtain ⟨n, weighs, -⟩ := hx
  obtain ⟨k, weighs', -⟩ := hy
  have order := (le_iff weighs weighs').mp le
  exact mul_le_mul_of_weighs factor weighs factor weighs' small large (Nat.mul_le_mul_left f order)

theorem mul_mono_left {k : ℕ} (hx : Share x) (hy : Share y) (le : x ≤ y) (hz : Weighs z k) :
    x * z ≤ y * z := by
  obtain ⟨p, small, -⟩ := hx.mul_weighs hz
  obtain ⟨q, large, -⟩ := hy.mul_weighs hz
  obtain ⟨n, weighs, -⟩ := hx
  obtain ⟨m, weighs', -⟩ := hy
  have order := (le_iff weighs weighs').mp le
  exact mul_le_mul_of_weighs weighs hz weighs' hz small large (Nat.mul_le_mul_right k order)

theorem add_weighs (hx : Share x) (hy : Share y) : ∃ r, Weighs (x + y) r := by
  obtain ⟨n, weighs, le⟩ := hx
  obtain ⟨k, weighs', le'⟩ := hy
  have below : (n : ℚ) + k ≤ (2 * oneUnits : ℕ) := by exact_mod_cast by omega
  obtain ⟨r, sum, -, -⟩ := (add_gives weighs weighs').between exactly_zero
    (exactly_mul_two_pow (by decide) 149) (by push_cast; positivity) below
    (mul_oneUnits_lt (by decide))
  exact ⟨r, sum⟩

theorem add_mono (hz : Share z) (hx : Share x) (hy : Share y) (le : x ≤ y) : z + x ≤ z + y := by
  obtain ⟨p, small⟩ := hz.add_weighs hx
  obtain ⟨q, large⟩ := hz.add_weighs hy
  obtain ⟨f, summand, -⟩ := hz
  obtain ⟨n, weighs, -⟩ := hx
  obtain ⟨k, weighs', -⟩ := hy
  have order := (le_iff weighs weighs').mp le
  rw [le_iff small large]
  refine (add_gives summand weighs).mono (add_gives summand weighs') ?_ small large
  exact_mod_cast Nat.add_le_add_left order f

theorem one_sub (h : Share x) : Share (1 - x) := by
  obtain ⟨n, weighs, le⟩ := h
  have less : (n : ℚ) ≤ oneUnits := by exact_mod_cast le
  have above : ((0 : ℕ) : ℚ) ≤ oneUnits - n := by
    rw [Nat.cast_zero]
    exact sub_nonneg.mpr less
  have below : (oneUnits - n : ℚ) ≤ oneUnits := sub_le_self _ (Nat.cast_nonneg n)
  obtain ⟨r, rest, -, high⟩ := (sub_gives one_weighs weighs le).between exactly_zero
    one_weighs.exactly above below oneUnits_lt_overflow
  exact ⟨r, rest, high⟩

theorem one_sub_anti (hx : Share x) (hy : Share y) (le : x ≤ y) : 1 - y ≤ 1 - x := by
  obtain ⟨p, small, -⟩ := hy.one_sub
  obtain ⟨q, large, -⟩ := hx.one_sub
  obtain ⟨n, weighs, most⟩ := hx
  obtain ⟨k, weighs', most'⟩ := hy
  have order := (le_iff weighs weighs').mp le
  rw [le_iff small large]
  refine (sub_gives one_weighs weighs' most').mono (sub_gives one_weighs weighs most) ?_ small large
  exact sub_le_sub_left (by exact_mod_cast order) _

end Share

theorem infinity_div {y : Float32} {k : ℕ} (hy : Weighs y k) (pos : 0 < k) :
    infinity / y = infinity := by
  have shape := hy.shape
  generalize unpacked : y.toModel.unpack = u at shape
  change Float32.ofModel (.pack (.div .binary32 infinity.toModel.unpack y.toModel.unpack)) = _
  rw [unpacked]
  cases shape with
  | zero s => exact absurd pos (Nat.lt_irrefl 0)
  | finite m b e positive small exponent large => rfl

theorem div_infinity {x : Float32} {n : ℕ} (hx : Weighs x n) : Weighs (x / infinity) 0 := by
  have shape := hx.shape
  generalize unpacked : x.toModel.unpack = u at shape
  have zero (s : Sign) : Weighs (Float32.ofModel (.pack (.zero s))) 0 :=
    weighs_pack (carries_zero s) overflow_pos
  change Weighs (Float32.ofModel (.pack (.div .binary32 x.toModel.unpack infinity.toModel.unpack))) 0
  rw [unpacked]
  cases shape with
  | zero s => exact zero _
  | finite m b e positive small exponent large => exact zero _

theorem oneUnits_le_of_rounds {n d : ℕ} (pos : 0 < n)
    (rounds : Rounds ((n * oneUnits : ℕ) : ℚ) d) : oneUnits ≤ d := by
  have one : Exactly oneUnits := exactly_two_pow 149
  apply rounds.ge_of_ge one
  exact_mod_cast Nat.le_mul_of_pos_left oneUnits pos

/-- A quotient of whole numbers that is at least one is not rounded below one, even when one or
both of them are too large for a single. -/
theorem ofNat_div_not_lt_one {n k : ℕ} (pos : 0 < n) (le : n ≤ k) : ¬ ofNat k / ofNat n < 1 := by
  obtain ⟨d, roundsN, weighsN, infiniteN⟩ := ofNat_gives n
  obtain ⟨c, roundsK, weighsK, infiniteK⟩ := ofNat_gives k
  have order : d ≤ c := roundsN.mono roundsK (by exact_mod_cast Nat.mul_le_mul_right oneUnits le)
  have one : Exactly oneUnits := exactly_two_pow 149
  have some : 0 < d := (Nat.two_pow_pos 149).trans_le (oneUnits_le_of_rounds pos roundsN)
  -- A whole number too large for a single is infinite, and then the quotient is not rounded at all.
  by_cases fitsN : d < overflow
  · have divisor := weighsN fitsN
    by_cases fitsK : c < overflow
    · have den : (0 : ℚ) < d := by exact_mod_cast some
      have above : (oneUnits : ℚ) ≤ c * oneUnits / d := by
        rw [le_div_iff₀ den, mul_comm]
        exact_mod_cast Nat.mul_le_mul_right oneUnits order
      rcases (div_gives (weighsK fitsK) divisor some).ge one above with ⟨r, weighs, large⟩ | large
      · rw [lt_iff weighs one_weighs]
        omega
      · rw [large]
        decide +kernel
    · rw [infiniteK (by omega), infinity_div divisor some]
      decide +kernel
  · rw [infiniteK (by omega), infiniteN (by omega)]
    decide +kernel

def nextToOne : ℕ := (2 ^ 24 - 1) * 2 ^ 125

theorem oneUnits_eq : oneUnits = 2 ^ 24 * 2 ^ 125 := Nat.pow_add 2 24 125

theorem exactly_nextToOne : Exactly nextToOne := exactly_mul_two_pow (by decide) 125

theorem nextToOne_lt : nextToOne < oneUnits := by
  rw [nextToOne, oneUnits_eq]
  exact Nat.mul_lt_mul_of_pos_right (by decide) (Nat.two_pow_pos 125)

theorem part_le_nextToOne {n k : ℕ} (less : k < n) (small : n ≤ 2 ^ 24) :
    k * oneUnits ≤ nextToOne * n := by
  have part : k * 2 ^ 24 ≤ (2 ^ 24 - 1) * n := by omega
  calc k * oneUnits = k * 2 ^ 24 * 2 ^ 125 := by rw [oneUnits_eq, Nat.mul_assoc]
    _ ≤ (2 ^ 24 - 1) * n * 2 ^ 125 := Nat.mul_le_mul_right _ part
    _ = nextToOne * n := Nat.mul_right_comm _ _ _

theorem ofNat_div_gives {n k : ℕ} (pos : 0 < n) (le : k ≤ n) (small : n ≤ 2 ^ 24) :
    Gives (ofNat k / ofNat n) (k * oneUnits / n) := by
  have one : (oneUnits : ℚ) ≠ 0 := Nat.cast_ne_zero.mpr (Nat.two_pow_pos 149).ne'
  have den : (n : ℚ) ≠ 0 := Nat.cast_ne_zero.mpr pos.ne'
  have quotient := div_gives (ofNat_weighs (le.trans small)) (ofNat_weighs small)
    (Nat.mul_pos pos (Nat.two_pow_pos 149))
  have same : ((k * oneUnits : ℕ) * oneUnits / (n * oneUnits : ℕ) : ℚ) = k * oneUnits / n := by
    push_cast
    field_simp
  rwa [same] at quotient

theorem ofNat_div_le_one {n k : ℕ} (pos : 0 < n) (le : k ≤ n) (small : n ≤ 2 ^ 24) :
    Share (ofNat k / ofNat n) := by
  have den : (0 : ℚ) < n := by exact_mod_cast pos
  have below : (k * oneUnits / n : ℚ) ≤ oneUnits := by
    rw [div_le_iff₀ den, mul_comm]
    exact mul_le_mul_of_nonneg_left (by exact_mod_cast le) (Nat.cast_nonneg _)
  obtain ⟨r, weighs, -, high⟩ := (ofNat_div_gives pos le small).between exactly_zero
    one_weighs.exactly (by rw [Nat.cast_zero]; positivity) below oneUnits_lt_overflow
  exact ⟨r, weighs, high⟩

theorem ofNat_div_lt_one {n k : ℕ} (less : k < n) (small : n ≤ 2 ^ 24) : ofNat k / ofNat n < 1 := by
  have pos : 0 < n := by omega
  have den : (0 : ℚ) < n := by exact_mod_cast pos
  have above : ((0 : ℕ) : ℚ) ≤ k * oneUnits / n := by
    rw [Nat.cast_zero]
    exact div_nonneg (mul_nonneg (Nat.cast_nonneg _) (Nat.cast_nonneg _)) den.le
  have below : (k * oneUnits / n : ℚ) ≤ nextToOne := by
    rw [div_le_iff₀ den]
    exact_mod_cast part_le_nextToOne less small
  obtain ⟨r, weighs, -, high⟩ := (ofNat_div_gives pos less.le small).between exactly_zero
    exactly_nextToOne above below (nextToOne_lt.trans oneUnits_lt_overflow)
  rw [lt_iff weighs one_weighs]
  exact high.trans_lt nextToOne_lt

/-- If a quotient of whole numbers is below one, what is divided fits a single, though the divisor
may be too large for one. -/
theorem parts_of_ofNat_div {n k : ℕ} (pos : 0 < n) (less : ofNat k / ofNat n < 1) :
    ∃ c, Weighs (ofNat k) c ∧ ((∃ d, 0 < d ∧ Weighs (ofNat n) d) ∨ ofNat n = infinity) := by
  have bounded : ¬ infinity < 1 := by decide +kernel
  obtain ⟨d, rounds, weighsN, infiniteN⟩ := ofNat_gives n
  obtain ⟨c, -, weighsK, infiniteK⟩ := ofNat_gives k
  have some : 0 < d := (Nat.two_pow_pos 149).trans_le (oneUnits_le_of_rounds pos rounds)
  by_cases fitsK : c < overflow
  · refine ⟨c, weighsK fitsK, ?_⟩
    by_cases fitsN : d < overflow
    · exact .inl ⟨d, some, weighsN fitsN⟩
    · exact .inr (infiniteN (by omega))
  · rw [infiniteK (by omega)] at less
    by_cases fitsN : d < overflow
    · rw [infinity_div (weighsN fitsN) some] at less
      exact absurd less bounded
    · -- Infinity by infinity is not a number, and that is not below one either.
      rw [infiniteN (by omega)] at less
      exact absurd less (by decide +kernel)

/-- A quotient of whole numbers that is below one is not below zero, even when the divisor is too
large for a single. -/
theorem ofNat_div_share {n k : ℕ} (pos : 0 < n) (less : ofNat k / ofNat n < 1) :
    Share (ofNat k / ofNat n) := by
  obtain ⟨c, dividend, ⟨d, some, divisor⟩ | infinite⟩ := parts_of_ofNat_div pos less
  · obtain ⟨r, -, weighs, infinite⟩ := div_gives dividend divisor some
    by_cases fits : r < overflow
    · have quotient := weighs fits
      exact ⟨r, quotient, ((lt_iff quotient one_weighs).mp less).le⟩
    · rw [infinite (by omega)] at less
      exact absurd less (by decide +kernel)
  · rw [infinite]
    exact ⟨0, div_infinity dividend, Nat.zero_le _⟩

theorem ofNat_div_mono {n j k : ℕ} (pos : 0 < n) (le : j ≤ k) (less : ofNat k / ofNat n < 1) :
    ofNat j / ofNat n < 1 ∧ ofNat j / ofNat n ≤ ofNat k / ofNat n := by
  obtain ⟨r, quotient, -⟩ := ofNat_div_share pos less
  obtain ⟨c, dividend, divisor⟩ := parts_of_ofNat_div pos less
  obtain ⟨b, smaller, most⟩ := (ofNat_gives j).below (ofNat_gives k)
    (by exact_mod_cast Nat.mul_le_mul_right oneUnits le) dividend
  have part : ∃ p, Weighs (ofNat j / ofNat n) p ∧ p ≤ r := by
    rcases divisor with ⟨d, some, divisor⟩ | infinite
    · have order : (b * oneUnits / d : ℚ) ≤ c * oneUnits / d := by
        refine div_le_div_of_nonneg_right ?_ (Nat.cast_nonneg d)
        exact_mod_cast Nat.mul_le_mul_right oneUnits most
      exact (div_gives smaller divisor some).below (div_gives dividend divisor some) order quotient
    · rw [infinite]
      exact ⟨0, div_infinity smaller, Nat.zero_le r⟩
  obtain ⟨p, weighs, low⟩ := part
  rw [lt_iff quotient one_weighs] at less
  rw [lt_iff weighs one_weighs, le_iff weighs quotient]
  exact ⟨by omega, low⟩

end Single

end AmbientSound
