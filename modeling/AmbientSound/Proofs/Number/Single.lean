import AmbientSound.Number.Exact
import AmbientSound.Proofs.Number.Units
/-!
Singles that are not below zero, by their number of units: what packing keeps, how they compare,
and what the operations and the clamps on them give.
-/
namespace AmbientSound

open Float.Model (Format UnpackedFloat)
open Float.Model.UnpackedFloat

section Packing

theorem held_iff {s : Sign} {m : ℕ} {e : ℤ} (pos : 0 < m) :
    Held .binary32 m e ↔ Canonical (.finite s m e pos) ∧ e ≤ 104 := by
  have least : Format.binary32.minExponent = -149 := by decide
  have bias : Format.binary32.exponentBias = 127 := by decide
  have short : m.log2 ≤ 23 ↔ m < 2 ^ 24 := by
    rw [← Nat.log2_lt pos.ne', Nat.lt_succ_iff]
  have long : 23 ≤ m.log2 ↔ 2 ^ 23 ≤ m := Nat.le_log2 pos.ne'
  constructor
  · intro held
    obtain ⟨few, low, normal⟩ := placed_iff.mp held.placed
    have fits := held.fits
    simp only at few normal fits
    refine ⟨⟨short.mp few, by omega, ?_⟩, by omega⟩
    exact normal.imp (fun bits => long.mp bits.ge) (by omega)
  · rintro ⟨⟨small, low, large⟩, high⟩
    refine ⟨placed_iff.mpr ⟨short.mpr small, by omega, ?_⟩, ?_⟩
    · exact large.imp (fun more => Nat.le_antisymm (short.mpr small) (long.mpr more)) (by omega)
    · simp only
      omega

theorem mantissa_lt {m b : ℕ} (small : m < 2 ^ 24) (low : b ≤ 253) :
    m * 2 ^ b < 2 ^ 24 * 2 ^ 253 :=
  Nat.mul_lt_mul_of_lt_of_le small (Nat.pow_le_pow_right (by decide) low) (Nat.two_pow_pos 253)

theorem pack_overflow {u : UnpackedFloat} {n : ℕ} (h : Carries u n) (large : 2 ^ 277 ≤ n) :
    pack .binary32 u = pack .binary32 (.infinity .positive) := by
  cases h.shape with
  | zero s => omega
  | finite m b e pos small exponent _ =>
    have top : 254 ≤ b := by
      by_contra low
      have most := mantissa_lt small (b := b) (by omega)
      rw [← Nat.pow_add] at most
      omega
    have bias : Format.binary32.exponentBias = 127 := by decide
    refine (pack_beyond .positive pos ?_).trans rfl
    simp only
    omega

theorem unpack_pack {u : UnpackedFloat} {n : ℕ} (h : Carries u n) (fits : n < 2 ^ 277) :
    unpack .binary32 (pack .binary32 u) = u := by
  have canonical := h.canonical
  cases h.shape with
  | zero s => exact unpack_packedZero
  | finite m b e pos small exponent large =>
    have top : b < 254 := by
      by_contra high
      have bottom : 2 ^ 23 ≤ m := large.resolve_right (by omega)
      have least : 2 ^ 23 * 2 ^ 254 ≤ m * 2 ^ b :=
        Nat.mul_le_mul bottom (Nat.pow_le_pow_right (by decide) (by omega))
      rw [← Nat.pow_add] at least
      omega
    exact ((held_iff pos).mpr ⟨canonical, by omega⟩).unpack_pack .positive pos

theorem unpack_canonical (b : BitVec 32) (finite : (unpack .binary32 b).isFinite = true) :
    Canonical (unpack .binary32 b) := by
  have shape := unpacks (F := .binary32) single_wide b
  generalize unpack .binary32 b = u at shape finite
  cases shape with
  | infinity top none => cases finite
  | notANumber top some => cases finite
  | zero bottom none => trivial
  | finite s m e pos held packed => exact ((held_iff pos).mp held).1

theorem unpack_units_lt (b : BitVec 32) : units (unpack .binary32 b) < 2 ^ 24 * 2 ^ 253 := by
  have shape := unpacks (F := .binary32) single_wide b
  generalize unpack .binary32 b = u at shape
  have nothing : 0 < 2 ^ 24 * 2 ^ 253 := mantissa_lt (m := 0) (b := 0) (by decide) (by decide)
  cases shape with
  | finite s m e pos held packed =>
    obtain ⟨⟨small, low, -⟩, high⟩ := (held_iff (s := s) pos).mp held
    exact mantissa_lt small (by omega)
  | _ => exact nothing

end Packing

theorem compare_spec {u v : UnpackedFloat} {n k : ℕ} (hu : Carries u n) (hv : Carries v k) :
    UnpackedFloat.compare u v = some (compare n k) := by
  have shifts {m m' b b' : ℕ} (small : m < 2 ^ 24) (large : 2 ^ 23 ≤ m' ∨ b' = 0) (less : b < b') :
      m * 2 ^ b < m' * 2 ^ b' := by
    calc m * 2 ^ b < 2 ^ 24 * 2 ^ b := Nat.mul_lt_mul_of_pos_right small (Nat.two_pow_pos b)
      _ = 2 ^ 23 * 2 ^ (b + 1) := by rw [← Nat.pow_add, ← Nat.pow_add]; congr 1; omega
      _ ≤ 2 ^ 23 * 2 ^ b' := Nat.mul_le_mul_left _ (Nat.pow_le_pow_right (by decide) less)
      _ ≤ m' * 2 ^ b' := Nat.mul_le_mul_right _ (large.resolve_right (by omega))
  cases hu.shape with
  | zero s =>
    cases hv.shape with
    | zero t => rfl
    | finite m b e pos small exponent large =>
      exact congrArg some (Nat.compare_eq_lt.mpr (Nat.mul_pos pos (Nat.two_pow_pos b))).symm
  | finite m b e pos small exponent large =>
    cases hv.shape with
    | zero t =>
      exact congrArg some (Nat.compare_eq_gt.mpr (Nat.mul_pos pos (Nat.two_pow_pos b))).symm
    | finite m' b' e' pos' small' exponent' large' =>
      change some ((compare e e').then (compare m m')) = _
      rcases Int.lt_trichotomy e e' with less | rfl | more
      · have order : compare e e' = .lt := Int.compare_eq_lt.mpr less
        rw [order, Nat.compare_eq_lt.mpr (shifts small large' (by omega))]
        rfl
      · obtain rfl : b = b' := by omega
        have order : compare e e = .eq := Int.compare_eq_eq.mpr rfl
        have power := Nat.two_pow_pos b
        rw [order]
        change some (compare m m') = _
        rcases Nat.lt_trichotomy m m' with less | rfl | more
        · rw [Nat.compare_eq_lt.mpr less,
            Nat.compare_eq_lt.mpr (Nat.mul_lt_mul_of_pos_right less power)]
        · rw [Nat.compare_eq_eq.mpr rfl, Nat.compare_eq_eq.mpr rfl]
        · rw [Nat.compare_eq_gt.mpr more,
            Nat.compare_eq_gt.mpr (Nat.mul_lt_mul_of_pos_right more power)]
      · have order : compare e e' = .gt := Int.compare_eq_gt.mpr more
        rw [order, Nat.compare_eq_gt.mpr (shifts small' large (by omega))]
        rfl

namespace Single

/-- `x` is a single of `n` units. -/
def Weighs (x : Float32) (n : ℕ) : Prop := Carries x.toModel.unpack n

def oneUnits : ℕ := 2 ^ 149

def overflow : ℕ := 2 ^ 277

theorem mul_oneUnits_lt {n : ℕ} (small : n ≤ 2 ^ 24) : n * oneUnits < overflow := by
  have powers : 2 ^ 24 * oneUnits = 2 ^ 173 := (Nat.pow_add 2 24 149).symm
  have room : 2 ^ 173 < overflow := pow_lt_pow_right₀ Nat.one_lt_two (by decide)
  have most := Nat.mul_le_mul_right oneUnits small
  omega

theorem zero_weighs : Weighs 0 0 := carries_zero .positive

theorem one_weighs : Weighs 1 oneUnits := by
  have shape : (1 : Float32).toModel.unpack = .finite .positive (2 ^ 23) (-23) (by decide) := rfl
  rw [Weighs, shape]
  exact ⟨⟨by norm_num, by norm_num, .inl le_rfl⟩, by decide +kernel, fun _ => rfl⟩

section Order

variable {x y : Float32} {n k : ℕ}

theorem lt_iff_unpacked (x y : Float32) :
    x < y ↔ UnpackedFloat.lt x.toModel.unpack y.toModel.unpack = true :=
  decide_eq_true_iff (p := x.toModel < y.toModel)

theorem le_iff_unpacked (x y : Float32) :
    x ≤ y ↔ UnpackedFloat.le x.toModel.unpack y.toModel.unpack = true :=
  decide_eq_true_iff (p := x.toModel ≤ y.toModel)

theorem lt_iff (hx : Weighs x n) (hy : Weighs y k) : x < y ↔ n < k := by
  rw [lt_iff_unpacked, UnpackedFloat.lt, compare_spec hx hy]
  simp [Nat.compare_eq_lt]

theorem le_iff (hx : Weighs x n) (hy : Weighs y k) : x ≤ y ↔ n ≤ k := by
  rw [le_iff_unpacked, UnpackedFloat.le, compare_spec hx hy]
  simp [Nat.isLE_compare]

theorem isFinite_of_weighs (hx : Weighs x n) : x.isFinite = true := by
  change UnpackedFloat.isFinite x.toModel.unpack = true
  have finite := hx.canonical
  revert finite
  cases x.toModel.unpack <;> simp [Canonical, UnpackedFloat.isFinite]

theorem isNaN_of_weighs (hx : Weighs x n) : x.isNaN = false := by
  change UnpackedFloat.isNaN x.toModel.unpack = false
  have finite := hx.canonical
  revert finite
  cases x.toModel.unpack <;> simp [Canonical, UnpackedFloat.isNaN]

theorem weighs_unique (hx : Weighs x n) (hx' : Weighs x k) : n = k :=
  hx.weight.symm.trans hx'.weight

theorem lt_overflow (hx : Weighs x n) : n < overflow := by
  have small : units x.toModel.unpack < _ := unpack_units_lt x.toModel.toBits.toBitVec
  rw [hx.weight, ← Nat.pow_add] at small
  unfold overflow
  omega

theorem weighs_of_finite (finite : x.isFinite = true) (nonneg : 0 ≤ x) : ∃ n, Weighs x n := by
  have canonical : Canonical x.toModel.unpack :=
    unpack_canonical x.toModel.toBits.toBitVec finite
  change UnpackedFloat.isFinite x.toModel.unpack = true at finite
  rw [le_iff_unpacked] at nonneg
  cases shape : x.toModel.unpack with
  | notANumber =>
    rw [shape] at finite
    cases finite
  | infinity s =>
    rw [shape] at finite
    cases finite
  | zero s =>
    refine ⟨0, ?_⟩
    rw [Weighs, shape]
    exact carries_zero s
  | finite s m e pos =>
    cases s with
    | negative =>
      rw [shape] at nonneg
      cases nonneg
    | positive =>
      rw [shape] at canonical
      refine ⟨units (.finite .positive m e pos), ?_⟩
      rw [Weighs, shape]
      exact ⟨canonical, rfl, fun _ => rfl⟩

end Order

section Operations

variable {x y : Float32} {n k : ℕ}

theorem weighs_pack {u : UnpackedFloat} (h : Carries u n) (fits : n < overflow) :
    Weighs (.ofModel (.pack u)) n := by
  have kept : (Float32.ofModel (.pack u)).toModel.unpack = u := unpack_pack h fits
  rw [Weighs, kept]
  exact h

/-- `x` is the given exact value rounded, and infinity if that is too large for a single. -/
def Gives (x : Float32) (q : ℚ) : Prop :=
  ∃ r, Rounds q r ∧ (r < overflow → Weighs x r) ∧ (overflow ≤ r → x = infinity)

theorem gives_of_spec {u : UnpackedFloat} {q : ℚ}
    (h : ∃ r, Rounds q r ∧ Carries u r) : Gives (.ofModel (.pack u)) q := by
  obtain ⟨r, rounds, carries⟩ := h
  refine ⟨r, rounds, weighs_pack carries, ?_⟩
  intro large
  have packed := pack_overflow carries large
  simp only [infinity, Float32.Model.pack, packed]

theorem add_gives (hx : Weighs x n) (hy : Weighs y k) : Gives (x + y) (n + k) :=
  gives_of_spec (add_spec hx hy)

theorem sub_gives (hx : Weighs x n) (hy : Weighs y k) (le : k ≤ n) : Gives (x - y) (n - k) :=
  gives_of_spec (sub_spec hx hy le)

theorem mul_gives (hx : Weighs x n) (hy : Weighs y k) : Gives (x * y) (n * k / oneUnits) := by
  rw [oneUnits]
  push_cast
  exact gives_of_spec (mul_spec hx hy)

theorem div_gives (hx : Weighs x n) (hy : Weighs y k) (pos : 0 < k) :
    Gives (x / y) (n * oneUnits / k) := by
  rw [oneUnits]
  push_cast
  exact gives_of_spec (div_spec hx hy pos)

theorem ofNat_gives (n : ℕ) : Gives (ofNat n) ((n * oneUnits : ℕ) : ℚ) := gives_of_spec (ofNat_spec n)

/-- Between two singles rounding stays between them. -/
theorem Gives.between {q : ℚ} {lo hi : ℕ} (h : Gives x q) (low : Exactly lo) (high : Exactly hi)
    (above : lo ≤ q) (below : q ≤ hi) (fits : hi < overflow) :
    ∃ r, Weighs x r ∧ lo ≤ r ∧ r ≤ hi := by
  obtain ⟨r, rounds, weighs, -⟩ := h
  have top := rounds.le_of_le high below
  exact ⟨r, weighs (by omega), rounds.ge_of_ge low above, top⟩

theorem Gives.exactly (h : Gives x n) (exact : Exactly n) (fits : n < overflow) : Weighs x n := by
  obtain ⟨r, rounds, weighs, -⟩ := h
  obtain rfl := rounds.unique (rounds_self exact)
  exact weighs fits

theorem ofNat_weighs {n : ℕ} (small : n ≤ 2 ^ 24) : Weighs (ofNat n) (n * oneUnits) :=
  (ofNat_gives n).exactly (exactly_mul_two_pow small 149) (mul_oneUnits_lt small)

theorem Gives.ge {q : ℚ} {lo : ℕ} (h : Gives x q) (low : Exactly lo) (above : lo ≤ q) :
    (∃ r, Weighs x r ∧ lo ≤ r) ∨ x = infinity := by
  obtain ⟨r, rounds, weighs, infinite⟩ := h
  by_cases fits : r < overflow
  · exact .inl ⟨r, weighs fits, rounds.ge_of_ge low above⟩
  · exact .inr (infinite (by omega))

theorem not_weighs_infinity : ¬ Weighs infinity n := by
  intro weighs
  have finite := isFinite_of_weighs weighs
  revert finite
  decide +kernel

theorem Gives.rounds {q : ℚ} (h : Gives x q) (weighs : Weighs x n) : Rounds q n := by
  obtain ⟨r, rounds, fits, infinite⟩ := h
  by_cases small : r < overflow
  · rwa [weighs_unique weighs (fits small)]
  · rw [infinite (by omega)] at weighs
    exact absurd weighs not_weighs_infinity

theorem Gives.mono {q r : ℚ} (hx : Gives x q) (hy : Gives y r) (le : q ≤ r) (weighs : Weighs x n)
    (weighs' : Weighs y k) : n ≤ k :=
  (hx.rounds weighs).mono (hy.rounds weighs') le

theorem Gives.below {q r : ℚ} (hx : Gives x q) (hy : Gives y r) (le : q ≤ r)
    (weighs : Weighs y k) : ∃ n, Weighs x n ∧ n ≤ k := by
  obtain ⟨n, rounds, fits, -⟩ := hx
  have most := rounds.mono (hy.rounds weighs) le
  exact ⟨n, fits (most.trans_lt (lt_overflow weighs)), most⟩

end Operations

section Clamps

variable {lo hi x : Float32} {l h n : ℕ}

theorem clamp_eq_self (hlo : Weighs lo l) (hhi : Weighs hi h) (hx : Weighs x n) (above : l ≤ n)
    (below : n ≤ h) : clamp lo hi x = x := by
  have notBelow : ¬ x < lo := by rw [lt_iff hx hlo]; omega
  have notAbove : ¬ hi < x := by rw [lt_iff hhi hx]; omega
  rw [clamp, if_neg notBelow, if_neg notAbove]

theorem clamp_weighs (hlo : Weighs lo l) (hhi : Weighs hi h) (hx : Weighs x n) (order : l ≤ h) :
    Weighs (clamp lo hi x) (max l (min h n)) := by
  unfold clamp
  by_cases low : x < lo
  · have less := (lt_iff hx hlo).mp low
    rw [if_pos low]
    convert hlo using 1
    omega
  · have notLess := (lt_iff hx hlo).not.mp low
    rw [if_neg low]
    by_cases high : hi < x
    · have more := (lt_iff hhi hx).mp high
      rw [if_pos high]
      convert hhi using 1
      omega
    · have notMore := (lt_iff hhi hx).not.mp high
      rw [if_neg high]
      convert hx using 1
      omega

theorem clampUnit_eq_self (hx : Weighs x n) (le : n ≤ oneUnits) : clampUnit x = x :=
  clamp_eq_self zero_weighs one_weighs hx (Nat.zero_le n) le

theorem clamp_mono {y : Float32} {k : ℕ} (hlo : Weighs lo l) (hhi : Weighs hi h) (order : l ≤ h)
    (hx : Weighs x n) (hy : Weighs y k) (le : n ≤ k) : clamp lo hi x ≤ clamp lo hi y := by
  rw [le_iff (clamp_weighs hlo hhi hx order) (clamp_weighs hlo hhi hy order)]
  omega

/-- A number is below zero, or so large that it is above one, or a number of units. -/
theorem below_or_beyond_or_weighs (number : x.isNaN = false) :
    (x < 0 ∧ ¬ 0 ≤ x) ∨ (¬ x < 0 ∧ 1 < x ∧ ¬ x ≤ 1) ∨ ∃ n, Weighs x n := by
  have canonical := unpack_canonical x.toModel.toBits.toBitVec
  have named : unpack .binary32 x.toModel.toBits.toBitVec = x.toModel.unpack := rfl
  rw [named] at canonical
  simp only [lt_iff_unpacked, le_iff_unpacked]
  cases shape : x.toModel.unpack with
  | notANumber =>
    have nan : x.isNaN = true := by
      change UnpackedFloat.isNaN x.toModel.unpack = true
      rw [shape]
      rfl
    rw [nan] at number
    cases number
  | infinity s =>
    cases s with
    | negative => exact .inl ⟨rfl, Bool.false_ne_true⟩
    | positive => exact .inr (.inl ⟨Bool.false_ne_true, rfl, Bool.false_ne_true⟩)
  | zero s =>
    refine .inr (.inr ⟨0, ?_⟩)
    rw [Weighs, shape]
    exact carries_zero s
  | finite s m e pos =>
    cases s with
    | negative => exact .inl ⟨rfl, Bool.false_ne_true⟩
    | positive =>
      rw [shape] at canonical
      refine .inr (.inr ⟨units (.finite .positive m e pos), ?_⟩)
      rw [Weighs, shape]
      exact ⟨canonical rfl, rfl, fun _ => rfl⟩

theorem clampUnit_weighs (number : x.isNaN = false) :
    ∃ n, n ≤ oneUnits ∧ Weighs (clampUnit x) n := by
  rcases below_or_beyond_or_weighs number with ⟨less, -⟩ | ⟨notLess, more, -⟩ | ⟨m, weighs⟩
  · rw [clampUnit, clamp, if_pos less]
    exact ⟨0, Nat.zero_le _, zero_weighs⟩
  · rw [clampUnit, clamp, if_neg notLess, if_pos more]
    exact ⟨oneUnits, le_rfl, one_weighs⟩
  · exact ⟨_, by omega, clamp_weighs zero_weighs one_weighs weighs (Nat.zero_le _)⟩

theorem unpack_nan (nan : x.isNaN = true) : x.toModel.unpack = .notANumber := by
  change UnpackedFloat.isNaN x.toModel.unpack = true at nan
  cases shape : x.toModel.unpack with
  | notANumber => rfl
  | _ =>
    rw [shape] at nan
    cases nan

theorem isNaN_of_le {y : Float32} (le : x ≤ y) : y.isNaN = false := by
  by_contra nan
  rw [Bool.not_eq_false] at nan
  rw [le_iff_unpacked, unpack_nan nan] at le
  cases first : x.toModel.unpack <;> rw [first] at le <;> cases le

theorem not_nan_le (nan : x.isNaN = true) (y : Float32) : ¬ x ≤ y := by
  rw [le_iff_unpacked, unpack_nan nan]
  exact Bool.false_ne_true

theorem clamp_nan (nan : x.isNaN = true) : clamp lo hi x = x := by
  have notBelow : ¬ x < lo := by
    rw [lt_iff_unpacked, unpack_nan nan]
    exact Bool.false_ne_true
  have notAbove : ¬ hi < x := by
    rw [lt_iff_unpacked, unpack_nan nan]
    cases hi.toModel.unpack <;> exact Bool.false_ne_true
  rw [clamp, if_neg notBelow, if_neg notAbove]

/-- A second clamp finds nothing left to move, whether or not there is a number. -/
theorem clampUnit_idem (x : Float32) : clampUnit (clampUnit x) = clampUnit x := by
  cases number : x.isNaN with
  | true =>
    have same : clampUnit x = x := clamp_nan number
    rw [same, same]
  | false =>
    obtain ⟨n, le, weighs⟩ := clampUnit_weighs number
    exact clampUnit_eq_self weighs le

end Clamps

end Single

end AmbientSound
