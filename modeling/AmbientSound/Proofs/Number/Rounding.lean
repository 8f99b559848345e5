import Mathlib
import AmbientSound.Proofs.Number.Nearest
/-!
The rounding that every operation on singles ends with. A mantissa with its two residual bits says
where an exact number is among the whole and half numbers, shifting it keeps that, and so the
result is the exact number rounded once.
-/
namespace AmbientSound

open Float.Model (Format UnpackedFloat totalExponent)
open Float.Model.UnpackedFloat

def Marks : ExtendedMantissa → ℚ → Prop
  | ⟨m, false, false⟩, q => q = m
  | ⟨m, false, true⟩, q => m < q ∧ q < m + 1 / 2
  | ⟨m, true, false⟩, q => q = m + 1 / 2
  | ⟨m, true, true⟩, q => m + 1 / 2 < q ∧ q < m + 1

namespace Marks

variable {em : ExtendedMantissa} {q : ℚ}

theorem exact (m : ℕ) : Marks (.ofMantissaAndAccuracy m .exact) m := rfl

theorem le (h : Marks em q) : em.mantissa ≤ q := by
  obtain ⟨m, round, sticky⟩ := em
  cases round <;> cases sticky <;> simp only [Marks] at h ⊢ <;> linarith

theorem lt (h : Marks em q) : q < em.mantissa + 1 := by
  obtain ⟨m, round, sticky⟩ := em
  cases round <;> cases sticky <;> simp only [Marks] at h ⊢ <;> linarith

theorem nearest (h : Marks em q) : Nearest q em.roundedMantissa := by
  obtain ⟨m, round, sticky⟩ := em
  match round, sticky, h with
  | false, false, h =>
    obtain rfl : q = m := h
    exact nearest_self m
  | false, true, ⟨low, high⟩ =>
    have here : (⟨m, false, true⟩ : ExtendedMantissa).roundedMantissa = m := rfl
    rw [here]
    constructor <;> intros <;> linarith
  | true, true, ⟨low, high⟩ =>
    have next : (⟨m, true, true⟩ : ExtendedMantissa).roundedMantissa = m + 1 := rfl
    rw [next]
    constructor <;> push_cast <;> intros <;> linarith
  | true, false, h =>
    have tie : (⟨m, true, false⟩ : ExtendedMantissa).roundedMantissa = m + m % 2 := rfl
    have half : q = m + 1 / 2 := h
    rw [tie, half]
    rcases Nat.mod_two_eq_zero_or_one m with even | odd
    · rw [even]
      constructor <;> push_cast <;> intros <;> first | linarith | omega
    · rw [odd]
      constructor <;> push_cast <;> intros <;> first | linarith | omega

theorem shiftRightOne (h : Marks em q) : Marks em.shiftRightOne (q / 2) := by
  obtain ⟨m, round, sticky⟩ := em
  have split : ((m % 2 : ℕ) : ℚ) + 2 * ((m / 2 : ℕ) : ℚ) = m := by
    exact_mod_cast Nat.mod_add_div m 2
  rcases Nat.mod_two_eq_zero_or_one m with even | odd
  · rw [even] at split
    push_cast at split
    cases round <;> cases sticky <;>
      simp only [ExtendedMantissa.shiftRightOne, even, Marks, Bool.or_false, Bool.or_true,
        bne_self_eq_false] at h ⊢ <;> first | constructor <;> linarith | linarith
  · rw [odd] at split
    push_cast at split
    have set : ((1 : ℕ) != 0) = true := rfl
    cases round <;> cases sticky <;>
      simp only [ExtendedMantissa.shiftRightOne, odd, set, Marks, Bool.or_false, Bool.or_true]
        at h ⊢ <;> first | constructor <;> linarith | linarith

theorem shiftRight (h : Marks em q) (n : ℕ) : Marks (em >>> n) (q / 2 ^ n) := by
  change Marks (n.repeat ExtendedMantissa.shiftRightOne em) _
  induction n with
  | zero => simpa [Nat.repeat] using h
  | succ n ih =>
    have once := ih.shiftRightOne
    rwa [div_div, ← pow_succ] at once

end Marks

def units : UnpackedFloat → ℕ
  | .finite _ m e _ => m * 2 ^ (e + 149).toNat
  | _ => 0

/-- The form of the finite singles, except that the exponent may be too large for one. -/
def Canonical : UnpackedFloat → Prop
  | .finite _ m e _ => m < 2 ^ 24 ∧ -149 ≤ e ∧ (2 ^ 23 ≤ m ∨ e = -149)
  | .zero _ => True
  | _ => False

def signOf : UnpackedFloat → Sign
  | .finite s _ _ _ => s
  | .zero s => s
  | .infinity s => s
  | .notANumber => .positive

/-- `u` is `q` units rounded, under the given sign. -/
structure RoundsTo (q : ℚ) (s : Sign) (u : UnpackedFloat) : Prop where
  canonical : Canonical u
  rounds : Rounds q (units u)
  sign : signOf u = s

theorem exactly_units {u : UnpackedFloat} (h : Canonical u) : Exactly (units u) := by
  cases u with
  | finite s m e pos =>
    obtain ⟨small, low, large⟩ := h
    refine ⟨(e + 149).toNat, m, rfl, small, ?_⟩
    rcases large with large | bottom
    · exact .inr large
    · exact .inl (by omega)
  | _ => exact exactly_zero

theorem target_eq (m : ℕ) (e : ℤ) : Format.binary32.targetExponent (totalExponent m e) =
    max ((m.log2 : ℤ) + e - 23) (-149) := by
  simp only [Format.targetExponent, totalExponent, Format.mantissaBits, Format.minExponent]
  norm_num
  omega

theorem shift_full {t : ℤ} (low : -149 ≤ t) :
    shiftToTargetExponent .binary32 (2 ^ 24) t .exact = (⟨2 ^ 23, false, false⟩, t + 1) := by
  have target : Format.binary32.targetExponent (totalExponent (2 ^ 24) t) = t + 1 := by
    rw [target_eq, Nat.log2_two_pow]
    omega
  have one : (t + 1 - t).toNat = 1 := by omega
  rw [shiftToTargetExponent, target, shiftToExponent]
  simp only [one]
  rfl

theorem shift_short {j : ℕ} {t : ℤ} (less : j < 2 ^ 24) (low : -149 ≤ t) :
    shiftToTargetExponent .binary32 j t .exact = (⟨j, false, false⟩, t) := by
  have bits : j.log2 < 24 := by
    by_cases zero : j = 0
    · simp [zero]
    · exact (Nat.log2_lt zero).mpr less
  have target : Format.binary32.targetExponent (totalExponent j t) ≤ t := by
    rw [target_eq]
    omega
  have none : (Format.binary32.targetExponent (totalExponent j t) - t).toNat = 0 := by omega
  rw [shiftToTargetExponent, shiftToExponent]
  simp only [none, Int.natCast_zero, add_zero]
  rfl

theorem carry_spec (s : Sign) {j : ℕ} {t : ℤ} (small : j ≤ 2 ^ 24) (low : -149 ≤ t)
    (large : 2 ^ 23 ≤ j ∨ t = -149) {u : UnpackedFloat}
    (h : u = if h : (shiftToTargetExponent .binary32 j t .exact).1.mantissa = 0 then .zero s
      else .finite s (shiftToTargetExponent .binary32 j t .exact).1.mantissa
        (shiftToTargetExponent .binary32 j t .exact).2 (Nat.pos_of_ne_zero h)) :
    Canonical u ∧ units u = j * 2 ^ (t + 149).toNat ∧ signOf u = s := by
  rcases Nat.eq_or_lt_of_le small with rfl | less
  · rw [shift_full low] at h
    subst h
    refine ⟨⟨by norm_num, by omega, .inl le_rfl⟩, ?_, rfl⟩
    have more : (t + 1 + 149).toNat = (t + 149).toNat + 1 := by omega
    change 2 ^ 23 * 2 ^ (t + 1 + 149).toNat = 2 ^ 24 * 2 ^ (t + 149).toNat
    rw [more, Nat.pow_succ]
    omega
  · rw [shift_short less low] at h
    simp only at h
    split at h
    · rename_i zero
      subst h
      exact ⟨trivial, by simp [units, zero], rfl⟩
    · subst h
      exact ⟨⟨less, low, large⟩, rfl, rfl⟩

theorem mantissa_ofAccuracy (m : ℕ) (accuracy : Accuracy) :
    (ExtendedMantissa.ofMantissaAndAccuracy m accuracy).mantissa = m := by
  rcases accuracy with _ | order
  · rfl
  · cases order <;> rfl

theorem shift_bounds {m : ℕ} {e : ℤ} {n : ℕ} {x : ℚ} (above : m ≤ x) (below : x < m + 1)
    (shift : max ((m.log2 : ℤ) + e - 23) (-149) = e + n) :
    x < 2 ^ (n + 24) ∧ (e + n = -149 ∨ 2 ^ (n + 23) ≤ x) := by
  constructor
  · have bits : m + 1 ≤ 2 ^ (m.log2 + 1) := Nat.lt_log2_self
    have room : 2 ^ (m.log2 + 1) ≤ 2 ^ (n + 24) := Nat.pow_le_pow_right (by decide) (by omega)
    have whole : ((m + 1 : ℕ) : ℚ) ≤ ((2 ^ (n + 24) : ℕ) : ℚ) := by exact_mod_cast bits.trans room
    push_cast at whole
    linarith
  · by_cases bottom : e + n = -149
    · exact .inl bottom
    · have exponent : m.log2 = n + 23 := by omega
      have nonzero : m ≠ 0 := by
        rintro rfl
        simp at exponent
      have bits := Nat.log2_self_le nonzero
      rw [exponent] at bits
      have whole : ((2 ^ (n + 23) : ℕ) : ℚ) ≤ m := by exact_mod_cast bits
      push_cast at whole
      exact .inr (by linarith)

/-- The exact number is `x` units of the exponent `e`, which is `q` units of the least one. -/
theorem roundWithAccuracy_spec (s : Sign) {m : ℕ} {e : ℤ} {accuracy : Accuracy} {x q : ℚ}
    (marks : Marks (.ofMantissaAndAccuracy m accuracy) x)
    (low : e ≤ max ((m.log2 : ℤ) + e - 23) (-149)) {a b : ℕ} (scale : (b : ℤ) = e + 149 + a)
    (value : q * 2 ^ a = x * 2 ^ b) :
    RoundsTo q s (roundWithAccuracy .binary32 s m e accuracy) := by
  obtain ⟨n, shift⟩ : ∃ n : ℕ, max ((m.log2 : ℤ) + e - 23) (-149) = e + n :=
    ⟨_, by rw [Int.toNat_of_nonneg (sub_nonneg.mpr low)]; ring⟩
  obtain ⟨k, unit⟩ : ∃ k : ℕ, e + n + 149 = k := ⟨(e + n + 149).toNat, by omega⟩
  have first : shiftToTargetExponent .binary32 m e accuracy =
      (ExtendedMantissa.ofMantissaAndAccuracy m accuracy >>> n, e + n) := by
    rw [shiftToTargetExponent, target_eq, shift, shiftToExponent]
    have amount : (e + n - e).toNat = n := by omega
    simp only [amount]
  have above := marks.le
  have below := marks.lt
  rw [mantissa_ofAccuracy] at above below
  obtain ⟨length, least⟩ := shift_bounds above below shift
  have same : q * 2 ^ n = x * 2 ^ k := by
    have powers : (2 : ℚ) ^ b * 2 ^ n = 2 ^ k * 2 ^ a := by
      rw [← pow_add, ← pow_add]
      congr 1
      omega
    have unscaled : (2 : ℚ) ^ a ≠ 0 := by positivity
    refine mul_right_cancel₀ unscaled ?_
    calc q * 2 ^ n * 2 ^ a = q * 2 ^ a * 2 ^ n := by ring
      _ = x * (2 ^ b * 2 ^ n) := by rw [value]; ring
      _ = x * 2 ^ k * 2 ^ a := by rw [powers]; ring
  have near := (marks.shiftRight n).nearest
  obtain ⟨top, normal, rounds⟩ := near.rounds same length (least.imp_left (by omega))
  have result : roundWithAccuracy .binary32 s m e accuracy =
      if h : (shiftToTargetExponent .binary32
        (ExtendedMantissa.ofMantissaAndAccuracy m accuracy >>> n).roundedMantissa (e + n)
          .exact).1.mantissa = 0 then .zero s
      else .finite s _ (shiftToTargetExponent .binary32
        (ExtendedMantissa.ofMantissaAndAccuracy m accuracy >>> n).roundedMantissa (e + n)
          .exact).2 (Nat.pos_of_ne_zero h) := by
    unfold roundWithAccuracy
    rw [first]
  obtain ⟨canonical, weight, sign⟩ := carry_spec s top (by omega)
    (normal.symm.imp_right (by omega)) result
  refine ⟨canonical, ?_, sign⟩
  rw [weight, unit, Int.toNat_natCast]
  exact rounds

end AmbientSound
