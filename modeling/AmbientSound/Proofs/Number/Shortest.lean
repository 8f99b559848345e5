import AmbientSound.Number.Shortest
import AmbientSound.Proofs.Number.Owning
/-!
The digits that are chosen for a double are a decimal that the double owns: the choice is among such
decimals, and with seventeen digits there always is one.
-/
namespace AmbientSound

open Float.Model (Format UnpackedFloat totalExponent)
open Float.Model.UnpackedFloat

theorem pow_toNat {b : ℚ} (some_ : b ≠ 0) (t : ℤ) : b ^ t.toNat = b ^ t * b ^ (-t).toNat := by
  rw [← zpow_natCast, ← zpow_natCast, ← zpow_add₀ some_]
  congr 1
  omega

namespace Decimal

def value (d : Decimal) : ℚ := d.digits * 10 ^ d.exponent

theorem digits_ne_zero {d : Decimal} (positive : 0 < d.value) : d.digits ≠ 0 := by
  intro zero
  rw [value, zero, Nat.cast_zero, zero_mul] at positive
  exact lt_irrefl _ positive

theorem stripZeros_value (fuel : ℕ) (d : Decimal) : (stripZeros fuel d).value = d.value := by
  induction fuel generalizing d with
  | zero => rfl
  | succ fuel ih =>
    rw [stripZeros]
    split
    · rename_i round
      rw [ih]
      have whole : d.digits = d.digits / 10 * 10 := (Nat.div_mul_cancel (Nat.dvd_of_mod_eq_zero round.2)).symm
      have cast : (d.digits : ℚ) = (d.digits / 10 : ℕ) * 10 := by exact_mod_cast whole
      rw [value, value, cast, zpow_add_one₀ (by norm_num)]
      ring
    · rfl

theorem lt_ten_pow_digitCount (n : ℕ) : n < 10 ^ digitCount n :=
  (Nat.length_toDigits_le_iff (by decide) Nat.length_toDigits_pos).mp le_rfl

theorem ten_pow_le_of_digitCount {n k : ℕ} (some_ : 0 < n) (less : k < digitCount n) : 10 ^ k ≤ n := by
  by_contra above
  cases k with
  | zero => omega
  | succ k =>
    have few := (Nat.length_toDigits_le_iff (by decide) (Nat.succ_pos k)).mpr (not_le.mp above)
    exact absurd less (not_lt.mpr few)

section Exponents

variable {num den : ℕ}

theorem pow_mul_le_of_test {g : ℤ} (test : (if 0 ≤ g then decide (den * Nat.pow 10 g.toNat ≤ num)
    else decide (den ≤ num * Nat.pow 10 (-g).toNat)) = true) : (10 : ℚ) ^ g * den ≤ num := by
  have power := pow_toNat (b := 10) (by norm_num) g
  split at test
  · rename_i nonneg
    have least : (den : ℚ) * 10 ^ g.toNat ≤ num := by exact_mod_cast decide_eq_true_iff.mp test
    have none : (-g).toNat = 0 := by omega
    rw [none, pow_zero, mul_one] at power
    rwa [← power, mul_comm]
  · rename_i negative
    have least : (den : ℚ) ≤ num * 10 ^ (-g).toNat := by exact_mod_cast decide_eq_true_iff.mp test
    have none : g.toNat = 0 := by omega
    rw [none, pow_zero] at power
    calc (10 : ℚ) ^ g * den ≤ 10 ^ g * (num * 10 ^ (-g).toNat) :=
          mul_le_mul_of_nonneg_left least (by positivity)
      _ = num * (10 ^ g * 10 ^ (-g).toNat) := by ring
      _ = num := by rw [← power, mul_one]

theorem pow_lengths_mul_le (some_ : 0 < num) :
    (10 : ℚ) ^ ((digitCount num - digitCount den : ℤ) - 1) * den ≤ num := by
  have long : 0 < digitCount num := Nat.length_toDigits_pos
  have above : (10 : ℚ) ^ ((digitCount num : ℤ) - 1) ≤ num := by
    have least : 10 ^ (digitCount num - 1) ≤ num := ten_pow_le_of_digitCount some_ (by omega)
    have same : (digitCount num : ℤ) - 1 = (digitCount num - 1 : ℕ) := by omega
    rw [same, zpow_natCast]
    exact_mod_cast least
  have below : (den : ℚ) ≤ 10 ^ (digitCount den : ℤ) := by
    rw [zpow_natCast]
    exact_mod_cast (lt_ten_pow_digitCount den).le
  calc (10 : ℚ) ^ ((digitCount num - digitCount den : ℤ) - 1) * den
      ≤ 10 ^ ((digitCount num - digitCount den : ℤ) - 1) * 10 ^ (digitCount den : ℤ) :=
        mul_le_mul_of_nonneg_left below (by positivity)
    _ = 10 ^ ((digitCount num : ℤ) - 1) := by
      rw [← zpow_add₀ (by norm_num)]
      congr 1
      omega
    _ ≤ num := above

theorem exponentOf_le (some_ : 0 < num) (whole : 0 < den) :
    (10 : ℚ) ^ exponentOf num den ≤ num / den := by
  have bottom : (0 : ℚ) < den := by exact_mod_cast whole
  have less : (10 : ℚ) ^ ((digitCount num - digitCount den : ℤ) - 1) * den ≤ num :=
    pow_lengths_mul_le some_
  rw [le_div_iff₀ bottom, exponentOf]
  generalize (digitCount num - digitCount den : ℤ) = g at *
  have reached := @pow_mul_le_of_test num den g
  generalize (if 0 ≤ g then decide (den * Nat.pow 10 g.toNat ≤ num)
    else decide (den ≤ num * Nat.pow 10 (-g).toNat)) = test at *
  cases test with
  | true => exact reached rfl
  | false => exact less

end Exponents

end Decimal

namespace Exact

variable {x : Exact} {tie : Tie} {t : ℤ} {digits : ℕ}

def magnitude (x : Exact) : ℚ := x.mantissa * 2 ^ x.exponent

theorem ratio_pos (some_ : 0 < x.mantissa) : 0 < x.ratio.1 ∧ 0 < x.ratio.2 := by
  unfold ratio
  split
  · exact ⟨Nat.shiftLeft_pos_iff.mpr some_, Nat.one_pos⟩
  · exact ⟨some_, Nat.shiftLeft_pos_iff.mpr Nat.one_pos⟩

theorem ratio_eq (x : Exact) : (x.ratio.1 : ℚ) / x.ratio.2 = x.magnitude := by
  have power := pow_toNat (b := 2) (by norm_num) x.exponent
  unfold ratio magnitude
  split
  · rename_i nonneg
    have none : (-x.exponent).toNat = 0 := by omega
    rw [none, pow_zero, mul_one] at power
    push_cast [Nat.shiftLeft_eq]
    rw [power, div_one]
  · rename_i negative
    have none : x.exponent.toNat = 0 := by omega
    have positive : (0 : ℚ) < 2 ^ (-x.exponent).toNat := by positivity
    rw [none, pow_zero] at power
    push_cast [Nat.shiftLeft_eq]
    rw [one_mul, div_eq_iff positive.ne', mul_assoc, ← power, mul_one]

def steps (x : Exact) (digits : ℕ) (t : ℤ) : ℚ := digits * 10 ^ t / 2 ^ x.exponent

/-- A quarter of the step below the start of a binade, else a half. -/
def gap (x : Exact) : ℚ := if x.atBinadeStart .double then 1 / 4 else 1 / 2

theorem quarters_below (some_ : 0 < x.mantissa) :
    ((4 * x.mantissa - (if x.atBinadeStart .double then 1 else 2) : ℕ) : ℚ) =
      4 * (x.mantissa - x.gap) := by
  rw [gap, Nat.cast_sub (by split <;> omega)]
  split <;> push_cast <;> ring

theorem owns_iff (some_ : 0 < x.mantissa) : x.owns .double digits t = true ↔
    if x.mantissa % 2 = 0 then x.mantissa - x.gap ≤ x.steps digits t ∧ x.steps digits t ≤ x.mantissa + 1 / 2
    else x.mantissa - x.gap < x.steps digits t ∧ x.steps digits t < x.mantissa + 1 / 2 := by
  generalize scale : Nat.pow 10 t.toNat <<< (2 - x.exponent).toNat = a
  generalize unit : Nat.pow 10 (-t).toNat <<< (x.exponent - 2).toNat = u
  have point : ((digits * a : ℕ) : ℚ) = x.steps digits t * (4 * u) := by
    have ten := pow_toNat (b := 10) (by norm_num) t
    have two := pow_toNat (b := 2) (by norm_num) (2 - x.exponent)
    have four : (2 : ℚ) ^ (2 - x.exponent) = 4 / 2 ^ x.exponent := by
      rw [zpow_sub₀ (by norm_num)]
      norm_num
    rw [neg_sub, four] at two
    rw [← scale, ← unit, steps]
    push_cast [Nat.shiftLeft_eq, Nat.pow_eq]
    rw [ten, two]
    ring
  have low : (((4 * x.mantissa - if x.atBinadeStart .double then 1 else 2) * u : ℕ) : ℚ) =
      (x.mantissa - x.gap) * (4 * u) := by
    rw [Nat.cast_mul, quarters_below some_]
    ring
  have high : (((4 * x.mantissa + 2) * u : ℕ) : ℚ) = (x.mantissa + 1 / 2) * (4 * u) := by
    push_cast
    ring
  have positive : (0 : ℚ) < 4 * u := by
    have some_ : 0 < u := by
      rw [← unit]
      exact Nat.shiftLeft_pos_iff.mpr (Nat.pow_pos (by decide))
    have cast : (0 : ℚ) < u := by exact_mod_cast some_
    linarith
  have le_iff {p q : ℕ} {y z : ℚ} (left : (p : ℚ) = y * (4 * u)) (right : (q : ℚ) = z * (4 * u)) :
      (p ≤ q ↔ y ≤ z) ∧ (p < q ↔ y < z) := by
    rw [← Nat.cast_le (α := ℚ), ← Nat.cast_lt (α := ℚ), left, right]
    exact ⟨mul_le_mul_iff_left₀ positive, mul_lt_mul_iff_left₀ positive⟩
  unfold owns
  simp only [scale, unit]
  split
  · rw [decide_eq_true_iff, (le_iff low point).1, (le_iff point high).1]
  · rw [decide_eq_true_iff, (le_iff low point).2, (le_iff point high).2]

theorem gap_le (x : Exact) : x.gap ≤ 1 / 2 := by
  rw [gap]
  split <;> norm_num

theorem gap_start (start : x.mantissa = 2 ^ Format.binary64.mantissaBitsWithoutImplicit)
    (above : Format.binary64.minExponent < x.exponent) : x.gap = 1 / 4 := by
  refine if_pos ?_
  rw [atBinadeStart, Bool.and_eq_true, beq_iff_eq, decide_eq_true_iff]
  exact ⟨start, above⟩

theorem owned (some_ : 0 < x.mantissa) (h : x.owns .double digits t = true) :
    Owns .binary64 x.mantissa x.exponent (x.steps digits t) := by
  have bounds := (owns_iff some_).mp h
  have gap_le := x.gap_le
  split at bounds
  · rename_i even
    refine ⟨⟨bounds.2, by linarith, fun _ => even, fun _ => even⟩, fun start above => ?_⟩
    rw [gap_start start above] at bounds
    exact bounds.1
  · refine ⟨⟨bounds.2.le, by linarith, fun same => ?_, fun same => ?_⟩, fun start above => ?_⟩
    · exact absurd same bounds.2.ne
    · linarith
    · rw [gap_start start above] at bounds
      exact bounds.1.le

theorem owns_of_close (some_ : 0 < x.mantissa) (close : |x.steps digits t - x.mantissa| < x.gap) :
    x.owns .double digits t = true := by
  have gap_le := x.gap_le
  obtain ⟨low, high⟩ := abs_lt.mp close
  rw [owns_iff some_]
  split <;> constructor <;> linarith

def nearestMultiple (tie : Tie) (x : Exact) (t : ℤ) : ℕ :=
  let num := x.ratio.1 * Nat.pow 10 (-t).toNat
  let den := x.ratio.2 * Nat.pow 10 t.toNat
  if tie.roundsUp (num / den) (num % den) den then num / den + 1 else num / den

theorem neighbour_eq (tie : Tie) (g : Grid) (x : Exact) (t : ℤ) : ∃ second, x.neighbour tie g t =
    if x.owns g (x.nearestMultiple tie t) t then some (x.nearestMultiple tie t)
    else if x.owns g second t then some second else none := ⟨_, rfl⟩

theorem owns_of_neighbour {g : Grid} (h : x.neighbour tie g t = some digits) :
    x.owns g digits t = true := by
  obtain ⟨second, same⟩ := x.neighbour_eq tie g t
  rw [same] at h
  split at h
  · rename_i first
    obtain rfl := Option.some.inj h
    exact first
  · split at h
    · rename_i second
      obtain rfl := Option.some.inj h
      exact second
    · cases h

theorem roundsUp_half (tie : Tie) (below rest den : ℕ) :
    if tie.roundsUp below rest den then den ≤ 2 * rest else 2 * rest ≤ den := by
  split
  · rename_i up
    cases tie with
    | even =>
      simp only [Tie.roundsUp, Bool.or_eq_true, Bool.and_eq_true, decide_eq_true_eq, beq_iff_eq] at up
      omega
    | away => exact decide_eq_true_iff.mp up
  · rename_i down
    cases tie with
    | even =>
      simp only [Tie.roundsUp, Bool.or_eq_true, decide_eq_true_eq, not_or, not_lt] at down
      exact down.1
    | away => exact (not_le.mp (decide_eq_true_iff.not.mp down)).le

theorem abs_rounded_sub_le (tie : Tie) (num : ℕ) {den : ℕ} (whole : 0 < den) :
    |((if tie.roundsUp (num / den) (num % den) den then num / den + 1 else num / den : ℕ) : ℚ) -
      num / den| ≤ 1 / 2 := by
  have bottom : (0 : ℚ) < den := by exact_mod_cast whole
  have parts : (num : ℚ) / den = (num / den : ℕ) + (num % den : ℕ) / den := by
    have split : (num : ℚ) = (num / den : ℕ) * den + (num % den : ℕ) := by
      exact_mod_cast (Nat.div_add_mod' num den).symm
    rw [split]
    field_simp
  have less : ((num % den : ℕ) : ℚ) / den < 1 := by
    rw [div_lt_one bottom]
    exact_mod_cast Nat.mod_lt num whole
  have nonneg : 0 ≤ ((num % den : ℕ) : ℚ) / den := by positivity
  have half := roundsUp_half tie (num / den) (num % den) den
  rw [parts]
  split at half
  · rename_i up
    have above : 1 / 2 ≤ ((num % den : ℕ) : ℚ) / den := by
      rw [le_div_iff₀ bottom]
      have cast : (den : ℚ) ≤ 2 * (num % den : ℕ) := by exact_mod_cast half
      linarith
    rw [if_pos up, abs_le]
    push_cast
    constructor <;> linarith
  · rename_i down
    have below : ((num % den : ℕ) : ℚ) / den ≤ 1 / 2 := by
      rw [div_le_iff₀ bottom]
      have cast : 2 * ((num % den : ℕ) : ℚ) ≤ den := by exact_mod_cast half
      linarith
    rw [if_neg down, abs_le]
    constructor <;> linarith

/-- On a grid that is fine enough there is a decimal that rounds to the number. -/
theorem neighbour_ne_none (tie : Tie) (some_ : 0 < x.mantissa)
    (fine : 10 ^ t / 2 ^ x.exponent < 2 * x.gap) : x.neighbour tie .double t ≠ none := by
  have ten : (0 : ℚ) < 10 ^ t := by positivity
  have two : (0 : ℚ) < 2 ^ x.exponent := by positivity
  obtain ⟨above, below⟩ := ratio_pos some_
  have near : |(x.nearestMultiple tie t : ℚ) - x.magnitude / 10 ^ t| ≤ 1 / 2 := by
    have whole : 0 < x.ratio.2 * Nat.pow 10 t.toNat := Nat.mul_pos below (Nat.pow_pos (by decide))
    have quotient : ((x.ratio.1 * Nat.pow 10 (-t).toNat : ℕ) : ℚ) /
        (x.ratio.2 * Nat.pow 10 t.toNat : ℕ) = x.magnitude / 10 ^ t := by
      have power := pow_toNat (b := 10) (by norm_num) t
      have positive : (0 : ℚ) < 10 ^ (-t).toNat := by positivity
      have positive' : (0 : ℚ) < x.ratio.2 := by exact_mod_cast below
      rw [← ratio_eq]
      push_cast [Nat.pow_eq]
      rw [power]
      field_simp
    rw [← quotient]
    exact abs_rounded_sub_le tie _ whole
  have close : |x.steps (x.nearestMultiple tie t) t - x.mantissa| < x.gap := by
    have scaled : x.steps (x.nearestMultiple tie t) t - x.mantissa =
        (x.nearestMultiple tie t - x.magnitude / 10 ^ t) * (10 ^ t / 2 ^ x.exponent) := by
      rw [steps, magnitude]
      field_simp
    rw [scaled, abs_mul, abs_of_pos (div_pos ten two)]
    calc _ ≤ 1 / 2 * (10 ^ t / 2 ^ x.exponent) :=
          mul_le_mul_of_nonneg_right near (div_pos ten two).le
      _ < x.gap := by linarith
  obtain ⟨second, same⟩ := x.neighbour_eq tie .double t
  rw [same, if_pos (owns_of_close some_ close)]
  exact Option.some_ne_none _

/-- The seventeenth digit is fine enough. -/
theorem seventeen_digits (held : Held .binary64 x.mantissa x.exponent) (some_ : 0 < x.mantissa)
    (top : (10 : ℚ) ^ t ≤ x.magnitude) : (10 : ℚ) ^ (t - 16) / 2 ^ x.exponent < 2 * x.gap := by
  have two : (0 : ℚ) < 2 ^ x.exponent := by positivity
  have most : (10 : ℚ) ^ t / 2 ^ x.exponent ≤ x.mantissa := by
    rw [div_le_iff₀ two]
    exact top
  have split : (10 : ℚ) ^ (t - 16) / 2 ^ x.exponent = 10 ^ t / 2 ^ x.exponent / 10 ^ 16 := by
    rw [zpow_sub₀ (by norm_num)]
    norm_cast
    ring
  rw [split, div_lt_iff₀ (by norm_num), gap]
  split
  · rename_i start
    rw [atBinadeStart, Bool.and_eq_true, beq_iff_eq] at start
    have mantissa : x.mantissa = 2 ^ 52 := start.1
    rw [mantissa] at most
    norm_num at most ⊢
    linarith
  · have short : x.mantissa < 2 ^ 53 := by
      refine (Nat.log2_lt some_.ne').mp ?_
      exact Nat.lt_succ_of_le (placed_iff.mp held.placed).1
    have whole : (x.mantissa : ℚ) < 2 ^ 53 := by exact_mod_cast short
    norm_num
    linarith

theorem shortest_owned (held : Held .binary64 x.mantissa x.exponent) (some_ : 0 < x.mantissa)
    (tie : Tie) : Owns .binary64 x.mantissa x.exponent
      ((x.shortest tie .double).value / 2 ^ x.exponent) := by
  have bounds := ratio_pos some_
  have top := Decimal.exponentOf_le bounds.1 bounds.2
  rw [ratio_eq] at top
  have fine := seventeen_digits held some_ top
  have last := neighbour_ne_none tie some_ fine
  unfold shortest
  dsimp only
  cases found : (List.range 17).findSome? fun (n : ℕ) =>
      (x.neighbour tie .double (Decimal.exponentOf x.ratio.1 x.ratio.2 - n)).map fun digits =>
        Decimal.stripZeros 20 ⟨digits, Decimal.exponentOf x.ratio.1 x.ratio.2 - n⟩ with
  | none =>
    rw [List.findSome?_eq_none_iff] at found
    have none := found 16 (by decide)
    rw [Option.map_eq_none_iff] at none
    exact absurd none last
  | some d =>
    obtain ⟨n, -, same⟩ := List.exists_of_findSome?_eq_some found
    obtain ⟨digits, neighbour, rfl⟩ := Option.map_eq_some_iff.mp same
    rw [Option.getD_some, Decimal.stripZeros_value]
    exact owned some_ (owns_of_neighbour neighbour)

theorem shortest_pos (held : Held .binary64 x.mantissa x.exponent) (some_ : 0 < x.mantissa)
    (tie : Tie) : 0 < (x.shortest tie .double).value := by
  have two : (0 : ℚ) < 2 ^ x.exponent := by positivity
  have half := (shortest_owned held some_ tie).near.half_le
  have one : (1 : ℚ) ≤ x.mantissa := by exact_mod_cast some_
  rw [← div_mul_cancel₀ (x.shortest tie .double).value two.ne']
  exact mul_pos (by linarith) two

end Exact

end AmbientSound
