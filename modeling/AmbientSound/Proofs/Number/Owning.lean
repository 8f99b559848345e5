import AmbientSound.Number.Numeral
import AmbientSound.Proofs.Number.Units
/-!
The reals that a number owns are those that round to it: up to half a step away, and below the start
of a binade up to a quarter. A quotient that a number owns is rounded to it.
-/
namespace AmbientSound

open Float.Model (Format UnpackedFloat totalExponent)
open Float.Model.UnpackedFloat

variable {F : Format} {s : Sign} {m : ℕ} {e : ℤ} {x y : ℚ}

theorem Nearest.unique {j k : ℕ} (hj : Nearest x j) (hk : Nearest x k) : j = k :=
  Nat.le_antisymm (hj.mono hk le_rfl) (hk.mono hj le_rfl)

/-- `x` steps of the exponent `e` round to `m * 2 ^ e`. -/
structure Owns (F : Format) (m : ℕ) (e : ℤ) (x : ℚ) : Prop where
  near : Nearest x m
  start : m = 2 ^ F.mantissaBitsWithoutImplicit → F.minExponent < e → m - 1 / 4 ≤ x

theorem two_zpow_lt_iff {a b : ℤ} : (2 : ℚ) ^ a < 2 ^ b ↔ a < b :=
  zpow_lt_zpow_iff_right₀ (by norm_num)

theorem Owns.lt (h : Owns F m e x) (placed : F.targetExponent (totalExponent m e) = e) :
    x < 2 ^ (F.mantissaBitsWithoutImplicit + 1) := by
  obtain ⟨short, -⟩ := placed_iff.mp placed
  have bits : m + 1 ≤ 2 ^ (F.mantissaBitsWithoutImplicit + 1) :=
    Nat.lt_log2_self.trans_le (Nat.pow_le_pow_right (by decide) (by omega))
  have whole : (m : ℚ) + 1 ≤ 2 ^ (F.mantissaBitsWithoutImplicit + 1) := by exact_mod_cast bits
  linarith [h.near.le_half]

theorem Owns.first (h : Owns F m e x) (bits : m.log2 = F.mantissaBitsWithoutImplicit)
    (less : x < 2 ^ F.mantissaBitsWithoutImplicit) : m = 2 ^ F.mantissaBitsWithoutImplicit := by
  have some := F.hm
  refine Nat.le_antisymm (h.near.le_two_pow less.le) ?_
  rw [← bits]
  refine Nat.log2_self_le ?_
  rintro rfl
  simp at bits
  omega

/-- What the first number of a binade owns is in that binade or in the one below. -/
theorem Owns.binade (h : Owns F m e x) (first : m = 2 ^ F.mantissaBitsWithoutImplicit)
    (above : F.minExponent < e) : (2 : ℚ) ^ ((F.mantissaBitsWithoutImplicit : ℤ) - 1) ≤ x := by
  have some := F.hm
  have start := h.start first above
  have double : (2 : ℚ) ^ F.mantissaBitsWithoutImplicit =
      2 * 2 ^ ((F.mantissaBitsWithoutImplicit : ℤ) - 1) := by
    rw [← zpow_natCast, ← zpow_one_add₀ (by norm_num)]
    congr 1
    omega
  have one : (1 : ℚ) ≤ 2 ^ ((F.mantissaBitsWithoutImplicit : ℤ) - 1) :=
    one_le_zpow₀ (by norm_num) (by omega)
  rw [first] at start
  push_cast at start
  linarith

section Target

variable {k : ℕ} {t a : ℤ}

theorem log2_add_lt (above : k ≤ y) (value : y * 2 ^ t = x * 2 ^ e) (some_ : k ≠ 0)
    (less : x < 2 ^ a) : k.log2 + t < a + e := by
  have step (a : ℤ) : (0 : ℚ) < 2 ^ a := by positivity
  have bits : 2 ^ k.log2 ≤ k := Nat.log2_self_le some_
  have whole : (2 : ℚ) ^ (k.log2 : ℤ) ≤ k := by
    rw [zpow_natCast]
    exact_mod_cast bits
  refine two_zpow_lt_iff.mp ?_
  calc (2 : ℚ) ^ (k.log2 + t) = 2 ^ (k.log2 : ℤ) * 2 ^ t := zpow_add₀ (by norm_num) _ _
    _ ≤ y * 2 ^ t := mul_le_mul_of_nonneg_right (whole.trans above) (step t).le
    _ = x * 2 ^ e := value
    _ < 2 ^ a * 2 ^ e := mul_lt_mul_of_pos_right less (step e)
    _ = 2 ^ (a + e) := (zpow_add₀ (by norm_num) _ _).symm

theorem lt_log2_add (below : y < k + 1) (value : y * 2 ^ t = x * 2 ^ e) (le : 2 ^ a ≤ x) :
    a + e < k.log2 + 1 + t := by
  have step (a : ℤ) : (0 : ℚ) < 2 ^ a := by positivity
  have less : k + 1 ≤ 2 ^ (k.log2 + 1) := Nat.lt_log2_self
  have whole : (k : ℚ) + 1 ≤ 2 ^ ((k.log2 : ℤ) + 1) := by exact_mod_cast less
  refine two_zpow_lt_iff.mp ?_
  calc (2 : ℚ) ^ (a + e) = 2 ^ a * 2 ^ e := zpow_add₀ (by norm_num) _ _
    _ ≤ x * 2 ^ e := mul_le_mul_of_nonneg_right le (step e).le
    _ = y * 2 ^ t := value.symm
    _ < 2 ^ ((k.log2 : ℤ) + 1) * 2 ^ t :=
      mul_lt_mul_of_pos_right (below.trans_le whole) (step t)
    _ = 2 ^ (k.log2 + 1 + t) := (zpow_add₀ (by norm_num) _ _).symm

theorem Owns.target_le (h : Owns F m e x) (placed : F.targetExponent (totalExponent m e) = e)
    (above : k ≤ y) (value : y * 2 ^ t = x * 2 ^ e)
    (low : t ≤ F.targetExponent (totalExponent k t)) :
    F.targetExponent (totalExponent k t) ≤ e := by
  have some := F.hm
  obtain ⟨-, least, -⟩ := placed_iff.mp placed
  simp only [Format.targetExponent, totalExponent, Format.mantissaBits] at low ⊢
  by_cases none : k = 0
  · simp only [none, Nat.log2_zero] at low ⊢
    omega
  · have room : x < 2 ^ ((F.mantissaBitsWithoutImplicit : ℤ) + 1) := by exact_mod_cast h.lt placed
    have := log2_add_lt above value none room
    omega

/-- The exponent at which an owned real is rounded is that of its owner, or the next lower one. -/
theorem Owns.target (h : Owns F m e x) (placed : F.targetExponent (totalExponent m e) = e)
    (above : k ≤ y) (below : y < k + 1) (value : y * 2 ^ t = x * 2 ^ e)
    (low : t ≤ F.targetExponent (totalExponent k t)) :
    F.targetExponent (totalExponent k t) = e ∨
      F.targetExponent (totalExponent k t) = e - 1 ∧ m - 1 / 4 ≤ x ∧ x ≤ m := by
  obtain ⟨-, -, normal⟩ := placed_iff.mp placed
  have most := h.target_le placed above value low
  have least : max ((k.log2 : ℤ) + t - F.mantissaBitsWithoutImplicit) F.minExponent ≤
      F.targetExponent (totalExponent k t) := by
    simp only [Format.targetExponent, totalExponent, Format.mantissaBits]
    omega
  by_cases bottom : e = F.minExponent
  · left
    omega
  have bits : m.log2 = F.mantissaBitsWithoutImplicit := normal.resolve_right bottom
  rcases le_or_gt ((2 : ℚ) ^ F.mantissaBitsWithoutImplicit) x with within | less
  · rw [← zpow_natCast] at within
    have := lt_log2_add below value within
    left
    omega
  -- only from below a binade is there a choice
  · have first := h.first bits less
    have := lt_log2_add below value (h.binade first (by omega))
    by_cases same : F.targetExponent (totalExponent k t) = e
    · exact .inl same
    · refine .inr ⟨by omega, h.start first (by omega), ?_⟩
      rw [first]
      push_cast
      exact less.le

end Target

/-- At the exponent of its rounding an owned real has its owner, shifted, as nearest whole number. -/
theorem Owns.nearest (h : Owns F m e x) {t : ℤ} (target : t = e ∨ t = e - 1 ∧ m - 1 / 4 ≤ x ∧ x ≤ m) :
    ∃ n : ℕ, t = e - n ∧ Nearest (x * 2 ^ n) (m <<< n) := by
  rcases target with rfl | ⟨rfl, start, stop⟩
  · exact ⟨0, by simp, by simpa using h.near⟩
  · have even : m <<< 1 % 2 = 0 := by omega
    have double : ((m <<< 1 : ℕ) : ℚ) = 2 * m := by
      push_cast [Nat.shiftLeft_eq]
      ring
    refine ⟨1, by simp, ?_, ?_, fun _ => even, fun _ => even⟩
    · rw [double]
      linarith
    · rw [double]
      linarith

theorem Owns.roundWithAccuracy (h : Owns F m e x) (placed : F.targetExponent (totalExponent m e) = e)
    (s : Sign) (pos : 0 < m) {k : ℕ} {t : ℤ} {accuracy : Accuracy}
    (marks : Marks (.ofMantissaAndAccuracy k accuracy) y) (value : y * 2 ^ t = x * 2 ^ e)
    (low : t ≤ F.targetExponent (totalExponent k t)) :
    UnpackedFloat.roundWithAccuracy F s k t accuracy = .finite s m e pos := by
  have above := marks.le
  have below := marks.lt
  rw [mantissa_ofAccuracy] at above below
  obtain ⟨n, target, near⟩ := h.nearest (h.target placed above below value low)
  obtain ⟨i, shift⟩ : ∃ i : ℕ, (i : ℤ) = e - n - t := ⟨(e - n - t).toNat, by omega⟩
  have first : shiftToTargetExponent F k t accuracy =
      (ExtendedMantissa.ofMantissaAndAccuracy k accuracy >>> i, e - n) := by
    have amount : (e - n - t).toNat = i := by omega
    have sum : t + (i : ℤ) = e - n := by omega
    simp only [shiftToTargetExponent, target, shiftToExponent, amount, sum]
  have same : y / 2 ^ i = x * 2 ^ n := by
    have power : (2 : ℚ) ^ (i : ℤ) ≠ 0 := by positivity
    have power' : (2 : ℚ) ^ t ≠ 0 := by positivity
    rw [← zpow_natCast, ← zpow_natCast, div_eq_iff power]
    refine mul_right_cancel₀ power' ?_
    calc y * 2 ^ t = x * 2 ^ e := value
      _ = x * 2 ^ ((n : ℤ) + i + t) := by rw [shift]; congr 2; ring
      _ = x * 2 ^ (n : ℤ) * 2 ^ (i : ℤ) * 2 ^ t := by
        rw [zpow_add₀ (by norm_num), zpow_add₀ (by norm_num)]
        ring
  have rounded : (ExtendedMantissa.ofMantissaAndAccuracy k accuracy >>> i).roundedMantissa = m <<< n := by
    refine Nearest.unique ?_ near
    rw [← same]
    exact (marks.shiftRight i).nearest
  have second := shiftToTargetExponent_shiftLeft placed pos n
  simp only [UnpackedFloat.roundWithAccuracy, first, rounded, second, pos.ne', ↓reduceDIte]

theorem Owns.div (h : Owns F m e x) (placed : F.targetExponent (totalExponent m e) = e)
    (pos : 0 < m) {n d : ℕ} (some_ : 0 < n) (whole : 0 < d) (value : (n : ℚ) / d = x * 2 ^ e) :
    UnpackedFloat.div F (.finite .positive n 0 some_) (.finite .positive d 0 whole) =
      .finite .positive m e pos := by
  have target : F.targetExponent (totalExponent n 0 - totalExponent d 0) =
      max ((n.log2 : ℤ) + 0 - (d.log2 + 0) - (F.mantissaBitsWithoutImplicit + 1)) F.minExponent := by
    simp only [Format.targetExponent, totalExponent, Format.mantissaBits]
    push_cast
    congr 1
    omega
  generalize lowest : min (0 - 0) (max ((n.log2 : ℤ) + 0 - (d.log2 + 0) -
    (F.mantissaBitsWithoutImplicit + 1)) F.minExponent) = t
  obtain ⟨c, count⟩ : ∃ c : ℕ, (c : ℤ) = 0 - 0 - t := ⟨(0 - 0 - t).toNat, by omega⟩
  have core : divCore F n 0 d 0 = (n <<< c / d, t, accuracyOfFraction (n <<< c % d) d) := by
    have amount : (0 - 0 - t).toNat = c := by omega
    unfold divCore
    simp only [target, lowest, amount]
  have result : UnpackedFloat.div F (.finite .positive n 0 some_) (.finite .positive d 0 whole) =
      UnpackedFloat.roundWithAccuracy F .positive (n <<< c / d) t
        (accuracyOfFraction (n <<< c % d) d) := by
    simp only [UnpackedFloat.div, core]
    rfl
  rw [result]
  refine h.roundWithAccuracy placed .positive pos (marks_div _ d whole) ?_ ?_
  · have den : (d : ℚ) ≠ 0 := by exact_mod_cast whole.ne'
    have power : (2 : ℚ) ^ c * 2 ^ t = 1 := by
      rw [← zpow_natCast, ← zpow_add₀ (by norm_num), count]
      norm_num
    rw [← value, Nat.shiftLeft_eq]
    push_cast
    calc (n : ℚ) * 2 ^ c / d * 2 ^ t = n / d * (2 ^ c * 2 ^ t) := by ring
      _ = n / d := by rw [power, mul_one]
  · have low : t ≤ max (((n <<< c / d).log2 : ℤ) + t - F.mantissaBitsWithoutImplicit)
        F.minExponent := quotient_low some_ whole (by omega) count
    simp only [Format.targetExponent, totalExponent, Format.mantissaBits]
    omega

section Doubles

variable {n k : ℕ}

theorem Owns.places_le (h : Owns .binary64 m e x)
    (placed : Format.binary64.targetExponent (totalExponent m e) = e) (pos : 0 < m)
    (value : (n : ℚ) / 10 ^ k = x * 2 ^ e) : k ≤ 2048 + n.log2 := by
  have least : Format.binary64.minExponent = -1074 := by decide
  obtain ⟨-, low, -⟩ := placed_iff.mp placed
  have half : (2 : ℚ) ^ (-1 : ℤ) ≤ x := by
    have one : (1 : ℚ) ≤ m := by exact_mod_cast pos
    have near := h.near.half_le
    rw [zpow_neg_one]
    linarith
  have ten : (2 : ℚ) ^ (k : ℤ) ≤ 10 ^ k := by
    rw [zpow_natCast]
    exact pow_le_pow_left₀ (by norm_num) (by norm_num) k
  have room : (n : ℚ) < 2 ^ ((n.log2 : ℤ) + 1) := by
    have less : n < 2 ^ (n.log2 + 1) := Nat.lt_log2_self
    have whole : (n : ℚ) < 2 ^ (n.log2 + 1) := by exact_mod_cast less
    have same : (2 : ℚ) ^ ((n.log2 : ℤ) + 1) = 2 ^ (n.log2 + 1) := by norm_cast
    rwa [same]
  have powers : (2 : ℚ) ^ (k + (-1 + e)) < 2 ^ ((n.log2 : ℤ) + 1) := by
    have positive : (0 : ℚ) < 10 ^ k := by positivity
    calc (2 : ℚ) ^ (k + (-1 + e)) = 2 ^ (k : ℤ) * (2 ^ (-1 : ℤ) * 2 ^ e) := by
          rw [zpow_add₀ (by norm_num), zpow_add₀ (by norm_num)]
      _ ≤ 10 ^ k * (x * 2 ^ e) := by gcongr
      _ = n := by rw [← value, mul_div_cancel₀ _ positive.ne']
      _ < 2 ^ ((n.log2 : ℤ) + 1) := room
  have := two_zpow_lt_iff.mp powers
  omega

theorem Owns.ofScientific (h : Owns .binary64 m e x)
    (placed : Format.binary64.targetExponent (totalExponent m e) = e) (pos : 0 < m) (some_ : 0 < n)
    (places : 0 < k) (value : (n : ℚ) / 10 ^ k = x * 2 ^ e) :
    UnpackedFloat.ofScientific .binary64 n (-k) = .finite .positive m e pos := by
  have few := h.places_le placed pos value
  have notLarge : ¬ (-k : ℤ) > 2 ^ Format.binary64.exponentBits := by
    simp only
    omega
  have notSmall : ¬ (-k : ℤ) < -(2 ^ Format.binary64.exponentBits + n.log2) := by
    simp only
    omega
  have power : (-(-k : ℤ)).toNat = k := by omega
  have negative : ¬ 0 ≤ (-k : ℤ) := by omega
  unfold UnpackedFloat.ofScientific
  simp only [some_.ne', notLarge, notSmall, negative, power, ↓reduceDIte, ↓reduceIte]
  exact h.div placed pos some_ (Nat.pow_pos (by decide)) (by push_cast; exact value)

def signOfNegative (negative : Bool) : Sign := if negative then .negative else .positive

/-- A numeral that a double owns is nearest to it. -/
theorem Owns.numeral (h : Owns .binary64 m e x) (held : Held .binary64 m e) (pos : 0 < m)
    (negative : Bool) {whole fraction : List ℕ} (some_ : 0 < digitsValue 10 (whole ++ fraction))
    (behind : fraction ≠ [])
    (value : (digitsValue 10 (whole ++ fraction) : ℚ) / 10 ^ fraction.length = x * 2 ^ e) :
    Numeral.nearest ⟨negative, whole, fraction, false, []⟩ =
      .ofModel (.pack (.finite (signOfNegative negative) m e pos)) := by
  have scientific := h.ofScientific held.placed pos some_ (List.length_pos_of_ne_nil behind) value
  have places : Numeral.written ⟨negative, whole, fraction, false, []⟩ - fraction.length =
      -(fraction.length : ℤ) := by
    change (0 : ℤ) - fraction.length = _
    omega
  have unsigned : (Float.ofModel (.ofScientific (digitsValue 10 (whole ++ fraction))
      (-(fraction.length : ℤ)))) = .ofModel (.pack (.finite .positive m e pos)) :=
    congrArg (fun u => Float.ofModel (.pack u)) scientific
  rw [Numeral.nearest, places, unsigned]
  cases negative with
  | false => rfl
  | true =>
    have back := held.unpack_pack .positive pos
    change Float.ofModel (.pack (unpack .binary64 (pack .binary64
      (.finite .positive m e pos))).neg) = _
    rw [back]
    rfl

end Doubles

end AmbientSound
