import AmbientSound.Proofs.Number.Packing
import AmbientSound.Proofs.Number.Rounding
/-!
The operations on unpacked numbers that are not below zero, in units of the least positive single.
Each of them gives the exact result, rounded once.
-/
namespace AmbientSound

open Float.Model (Format UnpackedFloat totalExponent)
open Float.Model.UnpackedFloat

/-- `u` is a number of `n` units. A zero may have either sign. -/
structure Carries (u : UnpackedFloat) (n : ℕ) : Prop where
  canonical : Canonical u
  weight : units u = n
  sign : 0 < n → signOf u = .positive

theorem Carries.exactly {u : UnpackedFloat} {n : ℕ} (h : Carries u n) : Exactly n := by
  rw [← h.weight]
  exact exactly_units h.canonical

theorem carries_zero (s : Sign) : Carries (.zero s) 0 :=
  ⟨trivial, rfl, fun pos => absurd pos (Nat.lt_irrefl 0)⟩

theorem RoundsTo.carries {u : UnpackedFloat} {q : ℚ} (h : RoundsTo q .positive u) :
    ∃ r, Rounds q r ∧ Carries u r :=
  ⟨units u, h.rounds, h.canonical, rfl, fun _ => h.sign⟩

/-- A number of units is a zero, or a mantissa under a positive sign. -/
inductive Carries.Shape : UnpackedFloat → ℕ → Prop where
  | zero (s : Sign) : Shape (.zero s) 0
  | finite (m b : ℕ) (e : ℤ) (pos : 0 < m) (small : m < 2 ^ 24) (exponent : (b : ℤ) = e + 149)
      (large : 2 ^ 23 ≤ m ∨ b = 0) : Shape (.finite .positive m e pos) (m * 2 ^ b)

theorem Carries.shape {u : UnpackedFloat} {n : ℕ} (h : Carries u n) : Shape u n := by
  obtain ⟨canonical, rfl, sign⟩ := h
  cases u with
  | zero s => exact .zero s
  | finite s m e pos =>
    obtain ⟨small, low, large⟩ := canonical
    obtain rfl : s = .positive := sign (Nat.mul_pos pos (Nat.two_pow_pos _))
    exact .finite m _ e pos small (Int.toNat_of_nonneg (by omega)) (large.imp_right (by omega))
  | infinity s => exact canonical.elim
  | notANumber => exact canonical.elim

section Normalizing

variable {m : ℕ} {e : ℤ} {q : ℚ} {a b : ℕ}

theorem round_spec (s : Sign) (pos : 0 < m) (scale : (b : ℤ) = e + 149 + a)
    (value : q * 2 ^ a = m * 2 ^ b) : RoundsTo q s (round .binary32 s m e) := by
  have target := target_eq m e
  generalize amount : (e - max ((m.log2 : ℤ) + e - 23) (-149)).toNat = n at *
  have bits := log2_shiftLeft pos n
  have lowered : round .binary32 s m e =
      roundWithAccuracy .binary32 s (m <<< n) (e - n) .exact := by
    unfold UnpackedFloat.round
    rw [target]
    simp only [decreaseExponent, amount]
  rw [lowered]
  have shifted : (b : ℤ) = e - n + 149 + ((a + n : ℕ) : ℤ) := by
    push_cast
    omega
  refine roundWithAccuracy_spec s (Marks.exact _) ?_ shifted ?_
  · rw [bits]
    push_cast
    omega
  · rw [Nat.shiftLeft_eq, pow_add]
    push_cast
    calc q * (2 ^ a * 2 ^ n) = q * 2 ^ a * 2 ^ n := by ring
      _ = m * 2 ^ n * 2 ^ b := by rw [value]; ring

theorem normalize_spec (m : ℕ) (s : Sign) (scale : (b : ℤ) = e + 149 + a)
    (value : q * 2 ^ a = m * 2 ^ b) :
    ∃ r, Rounds q r ∧ Carries (normalize .binary32 (m : ℤ) e s) r := by
  by_cases zero : m = 0
  · subst zero
    have none : q = 0 := by
      have unscaled : (2 : ℚ) ^ a ≠ 0 := by positivity
      have product : q * 2 ^ a = 0 := by rw [value]; push_cast; ring
      exact (mul_eq_zero.mp product).resolve_right unscaled
    rw [none]
    exact ⟨0, by exact_mod_cast rounds_self exactly_zero, carries_zero s⟩
  · have pos : 0 < m := Nat.pos_of_ne_zero zero
    have order : compare (m : ℤ) 0 = .gt := Int.compare_eq_gt.mpr (by omega)
    unfold UnpackedFloat.normalize
    rw [order, Int.toNat_natCast]
    exact (round_spec .positive pos scale value).carries

theorem ofNat_spec (n : ℕ) : ∃ r, Rounds ((n * 2 ^ 149 : ℕ) : ℚ) r ∧ Carries (ofNat .binary32 n) r :=
  normalize_spec (a := 0) (b := 149) n .positive (by norm_num) (by push_cast; ring)

end Normalizing

section Operations

variable {u v : UnpackedFloat} {n k : ℕ}

theorem lowered_eq {m b l : ℕ} {e low : ℤ} (exponent : (b : ℤ) = e + 149)
    (bottom : (l : ℤ) = low + 149) (le : low ≤ e) :
    (decreaseExponent m e low).1 * 2 ^ l = m * 2 ^ b := by
  simp only [decreaseExponent, Nat.shiftLeft_eq]
  rw [Nat.mul_assoc, ← Nat.pow_add]
  congr 2
  omega

theorem add_spec (hu : Carries u n) (hv : Carries v k) :
    ∃ r, Rounds (n + k) r ∧ Carries (add .binary32 u v) r := by
  cases hu.shape with
  | zero s =>
    cases hv.shape with
    | zero t =>
      refine ⟨0, by simpa using rounds_self exactly_zero, ?_⟩
      cases s <;> cases t <;> exact carries_zero _
    | finite m b e pos small exponent large =>
      exact ⟨_, by simpa using rounds_self hv.exactly, hv⟩
  | finite m b e pos small exponent large =>
    cases hv.shape with
    | zero t => exact ⟨_, by simpa using rounds_self hu.exactly, hu⟩
    | finite m' b' e' pos' small' exponent' large' =>
      have low : ((min b b' : ℕ) : ℤ) = min e e' + 149 := by omega
      have left := lowered_eq (m := m) exponent low (min_le_left e e')
      have right := lowered_eq (m := m') exponent' low (min_le_right e e')
      refine normalize_spec (a := 0) ((decreaseExponent m e (min e e')).1 +
        (decreaseExponent m' e' (min e e')).1) .positive (by rw [low]; simp) ?_
      rw [pow_zero, mul_one]
      norm_cast
      rw [Nat.add_mul, left, right]

theorem sub_spec (hu : Carries u n) (hv : Carries v k) (le : k ≤ n) :
    ∃ r, Rounds (n - k) r ∧ Carries (sub .binary32 u v) r := by
  cases hu.shape with
  | zero s =>
    cases hv.shape with
    | zero t =>
      refine ⟨0, by simpa using rounds_self exactly_zero, ?_⟩
      cases s <;> cases t <;> exact carries_zero _
    | finite m b e pos small exponent large =>
      have := Nat.mul_pos pos (Nat.two_pow_pos b)
      omega
  | finite m b e pos small exponent large =>
    cases hv.shape with
    | zero t => exact ⟨_, by simpa using rounds_self hu.exactly, hu⟩
    | finite m' b' e' pos' small' exponent' large' =>
      have low : ((min b b' : ℕ) : ℤ) = min e e' + 149 := by omega
      have left := lowered_eq (m := m) exponent low (min_le_left e e')
      have right := lowered_eq (m := m') exponent' low (min_le_right e e')
      generalize lowered : (decreaseExponent m e (min e e')).1 = x at left
      generalize lowered' : (decreaseExponent m' e' (min e e')).1 = y at right
      rw [← left, ← right] at le ⊢
      have order : y ≤ x := Nat.le_of_mul_le_mul_right le (Nat.two_pow_pos _)
      have difference : (Sign.positive.apply x - Sign.positive.apply y : ℤ) = ((x - y : ℕ) : ℤ) := by
        simp only [Sign.apply]
        omega
      unfold sub
      simp only [lowered, lowered']
      rw [difference]
      refine normalize_spec (a := 0) (x - y) .positive (by rw [low]; simp) ?_
      push_cast [order]
      ring

theorem mul_spec (hu : Carries u n) (hv : Carries v k) :
    ∃ r, Rounds (n * k / 2 ^ 149) r ∧ Carries (mul .binary32 u v) r := by
  cases hu.shape with
  | zero s =>
    refine ⟨0, by simpa using rounds_self exactly_zero, ?_⟩
    cases hv.shape <;> exact carries_zero _
  | finite m b e pos small exponent large =>
    cases hv.shape with
    | zero t => exact ⟨0, by simpa using rounds_self exactly_zero, carries_zero _⟩
    | finite m' b' e' pos' small' exponent' large' =>
      have low : e + e' ≤ max (((m * m').log2 : ℤ) + (e + e') - 23) (-149) := by
        by_cases many : 2 ^ 23 ≤ m * m'
        · have bits := (Nat.le_log2 (Nat.mul_pos pos pos').ne').mpr many
          omega
        · have few : m ≤ m * m' := Nat.le_mul_of_pos_right m pos'
          have few' : m' ≤ m * m' := Nat.le_mul_of_pos_left m' pos
          omega
      refine (roundWithAccuracy_spec (a := 149) (b := b + b') .positive (Marks.exact (m * m'))
        low ?_ ?_).carries
      · push_cast
        omega
      · push_cast
        rw [div_mul_cancel₀ _ (by positivity), pow_add]
        ring

theorem marks_div (m d : ℕ) (pos : 0 < d) :
    Marks (.ofMantissaAndAccuracy (m / d) (accuracyOfFraction (m % d) d)) (m / d : ℚ) := by
  have den : (0 : ℚ) < d := by exact_mod_cast pos
  have parts : ((m / d : ℕ) : ℚ) * d + ((m % d : ℕ) : ℚ) = m := by
    exact_mod_cast Nat.div_add_mod' m d
  have less : ((m % d : ℕ) : ℚ) < d := by exact_mod_cast Nat.mod_lt m pos
  have split : (m / d : ℚ) = ((m / d : ℕ) : ℚ) + ((m % d : ℕ) : ℚ) / d := by
    rw [← parts]
    field_simp
  generalize m / d = w at split
  generalize m % d = r at split less
  rw [split]
  unfold accuracyOfFraction
  split
  · rename_i none
    simp [none, Marks, ExtendedMantissa.ofMantissaAndAccuracy]
  · rename_i some
    have rest : (0 : ℚ) < r := by exact_mod_cast Nat.pos_of_ne_zero some
    have positive : (0 : ℚ) < r / d := div_pos rest den
    have below : (r : ℚ) / d < 1 := (div_lt_iff₀ den).mpr (by linarith)
    cases order : compare (2 * r) d with
    | lt =>
      have half : (2 : ℚ) * r < d := by exact_mod_cast Nat.compare_eq_lt.mp order
      have part : (r : ℚ) / d < 1 / 2 := by
        rw [div_lt_iff₀ den]
        linarith
      exact ⟨by linarith, by linarith⟩
    | eq =>
      have half : (2 : ℚ) * r = d := by exact_mod_cast Nat.compare_eq_eq.mp order
      have part : (r : ℚ) / d = 1 / 2 := by
        rw [div_eq_iff den.ne']
        linarith
      change (w : ℚ) + r / d = w + 1 / 2
      rw [part]
    | gt =>
      have half : (d : ℚ) < 2 * r := by exact_mod_cast Nat.compare_eq_gt.mp order
      have part : 1 / 2 < (r : ℚ) / d := by
        rw [lt_div_iff₀ den]
        linarith
      exact ⟨by linarith, by linarith⟩

theorem quotient_low {m m' c p : ℕ} {e e' t least : ℤ} (pos : 0 < m) (pos' : 0 < m')
    (room : t ≤ max ((m.log2 : ℤ) + e - (m'.log2 + e') - (p + 1)) least)
    (count : (c : ℤ) = e - e' - t) : t ≤ max (((m <<< c / m').log2 : ℤ) + t - p) least := by
  by_cases bottom : t ≤ least
  · omega
  · have bits := log2_shiftLeft pos c
    have long : 2 ^ (m'.log2 + 1 + p) ≤ m <<< c := by
      refine (Nat.le_log2 (Nat.shiftLeft_pos_iff.mpr pos).ne').mp ?_
      omega
    have many : 2 ^ p ≤ m <<< c / m' := by
      rw [Nat.le_div_iff_mul_le pos']
      calc 2 ^ p * m' ≤ 2 ^ p * 2 ^ (m'.log2 + 1) := Nat.mul_le_mul_left _ Nat.lt_log2_self.le
        _ = 2 ^ (m'.log2 + 1 + p) := by rw [← Nat.pow_add, Nat.add_comm]
        _ ≤ m <<< c := long
    have nonzero : m <<< c / m' ≠ 0 := by
      have : 0 < 2 ^ p := Nat.two_pow_pos p
      omega
    have mantissa := (Nat.le_log2 nonzero).mpr many
    omega

theorem div_spec (hu : Carries u n) (hv : Carries v k) (pos : 0 < k) :
    ∃ r, Rounds (n * 2 ^ 149 / k) r ∧ Carries (div .binary32 u v) r := by
  cases hv.shape with
  | zero t => exact absurd pos (Nat.lt_irrefl 0)
  | finite m' b' e' pos' small' exponent' large' =>
    cases hu.shape with
    | zero s => exact ⟨0, by simpa using rounds_self exactly_zero, carries_zero _⟩
    | finite m b e pos small exponent large =>
      have target : Format.binary32.targetExponent (totalExponent m e - totalExponent m' e') =
          max ((m.log2 : ℤ) + e - (m'.log2 + e') - 24) (-149) := by
        simp only [Format.targetExponent, totalExponent, Format.mantissaBits, Format.minExponent]
        norm_num
        omega
      generalize lowest : min (e - e') (max ((m.log2 : ℤ) + e - (m'.log2 + e') - 24) (-149)) = t
      obtain ⟨c, count⟩ : ∃ c : ℕ, (c : ℤ) = e - e' - t := ⟨(e - e' - t).toNat, by omega⟩
      have core : divCore .binary32 m e m' e' =
          (m <<< c / m', t, accuracyOfFraction (m <<< c % m') m') := by
        have amount : (e - e' - t).toNat = c := by omega
        unfold divCore
        simp only [target, lowest, amount]
      have result : div .binary32 (.finite .positive m e pos) (.finite .positive m' e' pos') =
          roundWithAccuracy .binary32 .positive (m <<< c / m') t
            (accuracyOfFraction (m <<< c % m') m') := by
        simp only [div, core]
        rfl
      have low : t ≤ max (((m <<< c / m').log2 : ℤ) + t - (23 : ℕ)) (-149) :=
        quotient_low pos pos' (by push_cast; omega) count
      rw [result]
      refine (roundWithAccuracy_spec (a := c + b') (b := b + 149) .positive (marks_div _ m' pos')
        low (by push_cast; omega) ?_).carries
      have den : (m' : ℚ) ≠ 0 := by exact_mod_cast pos'.ne'
      rw [Nat.shiftLeft_eq]
      push_cast
      field_simp
      ring

end Operations

end AmbientSound
