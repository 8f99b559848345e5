import Mathlib.Data.Finset.Prod
import Mathlib.Data.List.ProdSigma
import AmbientSound.Proofs.Census.Cuboid
import AmbientSound.Proofs.Number.Shares
/-!
When an observer is inside. The quotient of two counts is rounded, and so is the threshold it is
compared with, but on squares of any sensible size the comparison is that of the exact fractions.
-/
namespace AmbientSound

open Single

theorem card_filter_eq_countP {α : Type} [DecidableEq α] {l : List α} {s : Finset α}
    (distinct : l.Nodup) (mem : ∀ a, a ∈ l ↔ a ∈ s) (P : α → Prop) [DecidablePred P] :
    (s.filter P).card = l.countP fun a => P a := by
  have same : s.filter P = (l.filter fun a => P a).toFinset := by
    ext a
    simp [mem]
  rw [same, List.toFinset_card_of_nodup (distinct.filter _), List.countP_eq_length_filter]

namespace Roof

section Threshold

theorem threshold_weighs : Weighs threshold (9227469 * 2 ^ 125) := by
  have shape : threshold.toModel.unpack = .finite .positive 9227469 (-24) (by decide) := rfl
  rw [Weighs, shape]
  exact ⟨⟨by norm_num, by norm_num, .inl (by norm_num)⟩, by decide +kernel, fun _ => rfl⟩

theorem rounds_in_binade {q : ℚ} {j : ℕ} (low : j - 1 / 2 < q) (high : q < j + 1 / 2)
    (small : q < 2 ^ 24) (large : 2 ^ 23 ≤ q) : Rounds (q * 2 ^ 125) (j * 2 ^ 125) := by
  have power : (0 : ℚ) < 2 ^ 125 := by positivity
  refine ⟨125, j, rfl, ?_, ?_, .inr ?_⟩
  · rw [mul_div_cancel_right₀ q power.ne']
    exact ⟨high.le, by linarith, fun tie => by linarith, fun tie => by linarith⟩
  · calc q * 2 ^ 125 < 2 ^ 24 * 2 ^ 125 := mul_lt_mul_of_pos_right small power
      _ = 2 ^ (125 + 24) := by rw [← pow_add]
  · calc (2 : ℚ) ^ (125 + 23) = 2 ^ 23 * 2 ^ 125 := by rw [← pow_add]
      _ ≤ q * 2 ^ 125 := mul_le_mul_of_nonneg_right large power.le

/-- A fraction with a small denominator that is below eleven twentieths is so by enough to be rounded
to a single below the threshold. -/
theorem threshold_le_iff {n k : ℕ} (pos : 0 < n) (le : k ≤ n) (small : n ≤ 2 ^ 21) :
    threshold ≤ ofNat k / ofNat n ↔ 11 * n ≤ 20 * k := by
  have den : (0 : ℚ) < n := by exact_mod_cast pos
  have quotient := ofNat_div_gives pos le (small.trans (by decide))
  have one : (oneUnits : ℚ) = 2 ^ 24 * 2 ^ 125 := by exact_mod_cast oneUnits_eq
  have scaled : (k * oneUnits / n : ℚ) = k * 2 ^ 24 / n * 2 ^ 125 := by
    rw [one]
    ring
  rw [scaled] at quotient
  have power : (0 : ℚ) ≤ 2 ^ 125 := by positivity
  obtain ⟨r, weighs, -⟩ := ofNat_div_le_one pos le (small.trans (by decide))
  rw [le_iff threshold_weighs weighs]
  have rounds := quotient.rounds weighs
  constructor
  · intro reached
    by_contra short
    have missing : (20 * k + 1 : ℚ) ≤ 11 * n := by exact_mod_cast Nat.lt_of_not_le short
    have many : (n : ℚ) ≤ 2 ^ 21 := by exact_mod_cast small
    have below : (k * 2 ^ 24 / n : ℚ) ≤ 9227468.4 := by
      rw [div_le_iff₀ den]
      linarith
    have top := rounds.mono (rounds_in_binade (q := 9227468.4) (j := 9227468) (by norm_num)
      (by norm_num) (by norm_num) (by norm_num)) (mul_le_mul_of_nonneg_right below power)
    omega
  · intro enough
    have part : (11 * n : ℚ) ≤ 20 * k := by exact_mod_cast enough
    have above : (9227468.8 : ℚ) ≤ k * 2 ^ 24 / n := by
      rw [le_div_iff₀ den]
      linarith
    exact (rounds_in_binade (q := 9227468.8) (j := 9227469) (by norm_num) (by norm_num)
      (by norm_num) (by norm_num)).mono rounds (mul_le_mul_of_nonneg_right above power)

end Threshold

section Columns

variable (w : World) (radius : ℕ) (p : Position)

def square : Finset (ℤ × ℤ) :=
  (Finset.range (2 * radius + 1) ×ˢ Finset.range (2 * radius + 1)).image fun i =>
    (p.x - radius + i.1, p.z - radius + i.2)

def sampled : Finset (ℤ × ℤ) := (square radius p).filter fun c => (w.surface c.1 c.2).isSome = true

def covered : Finset (ℤ × ℤ) :=
  (square radius p).filter fun c => ∃ h ∈ w.surface c.1 c.2, p.y + 1 < h

theorem columns_eq : columns radius p =
    (spread radius ×ˢ spread radius).map fun d => (p.x + d.1, p.z + d.2) := by
  simp [columns, SProd.sprod, List.product, List.map_flatMap, Function.comp_def]

theorem spread_nodup (n : ℕ) : (spread n).Nodup := by
  refine List.Nodup.map_on ?_ List.nodup_range
  intro i _ j _ same
  omega

theorem columns_nodup : (columns radius p).Nodup := by
  rw [columns_eq]
  refine List.Nodup.map_on ?_ ((spread_nodup radius).product (spread_nodup radius))
  intro a _ b _ same
  obtain ⟨first, second⟩ := Prod.mk.inj same
  exact Prod.ext (by omega) (by omega)

theorem mem_square (c : ℤ × ℤ) : c ∈ square radius p ↔
    (p.x - radius ≤ c.1 ∧ c.1 ≤ p.x + radius) ∧ (p.z - radius ≤ c.2 ∧ c.2 ≤ p.z + radius) := by
  simp only [square, Finset.mem_image, Finset.mem_product, Finset.mem_range, Prod.exists]
  constructor
  · rintro ⟨i, j, ⟨hi, hj⟩, rfl⟩
    simp only
    omega
  · rintro ⟨hx, hz⟩
    exact ⟨(c.1 - p.x + radius).toNat, (c.2 - p.z + radius).toNat, ⟨by omega, by omega⟩,
      Prod.ext (by simp only; omega) (by simp only; omega)⟩

theorem mem_columns (c : ℤ × ℤ) : c ∈ columns radius p ↔ c ∈ square radius p := by
  simp only [columns_eq, List.mem_map, List.mem_product, Tier.mem_spread, mem_square, Prod.exists]
  constructor
  · rintro ⟨dx, dz, ⟨hx, hz⟩, rfl⟩
    simp only
    omega
  · rintro ⟨hx, hz⟩
    exact ⟨c.1 - p.x, c.2 - p.z, ⟨by omega, by omega⟩, Prod.ext (by simp) (by simp)⟩

theorem length_heights : (heights w radius p).length = (sampled w radius p).card := by
  rw [sampled, card_filter_eq_countP (columns_nodup radius p) (mem_columns radius p), heights,
    List.length_filterMap_eq_countP]
  simp

theorem countP_heights : (heights w radius p).countP (covers p.y) = (covered w radius p).card := by
  rw [covered, card_filter_eq_countP (columns_nodup radius p) (mem_columns radius p), heights,
    List.countP_filterMap]
  refine List.countP_congr ?_
  intro c _
  cases w.surface c.1 c.2 <;> simp [covers]

theorem length_columns : (columns radius p).length = (2 * radius + 1) ^ 2 := by
  simp [columns, spread, List.length_flatMap, Function.comp_def, sq]

theorem length_heights_le : (heights w radius p).length ≤ (2 * radius + 1) ^ 2 :=
  (List.length_filterMap_le _ _).trans_eq (length_columns radius p)

theorem card_covered_le : (covered w radius p).card ≤ (sampled w radius p).card := by
  rw [← length_heights, ← countP_heights]
  exact List.countP_le_length

theorem share_eq : share w radius p =
    if (sampled w radius p).card = 0 then 0
    else ofNat (covered w radius p).card / ofNat (sampled w radius p).card := by
  simp only [share, List.isEmpty_iff, ← List.length_eq_zero_iff, length_heights, countP_heights]

end Columns

section Shares

variable {w : World} {radius : ℕ} {p : Position}

theorem card_sampled_le (small : (2 * radius + 1) ^ 2 ≤ 2 ^ 21) :
    (sampled w radius p).card ≤ 2 ^ 21 := by
  rw [← length_heights]
  exact (length_heights_le w radius p).trans small

theorem threshold_le_share_iff (small : (2 * radius + 1) ^ 2 ≤ 2 ^ 21) :
    threshold ≤ share w radius p ↔ 0 < (sampled w radius p).card ∧
      11 * (sampled w radius p).card ≤ 20 * (covered w radius p).card := by
  have least : ¬ threshold ≤ 0 := by
    rw [le_iff threshold_weighs zero_weighs]
    omega
  rw [share_eq]
  by_cases unknown : (sampled w radius p).card = 0
  · simp [unknown, least]
  · have pos : 0 < (sampled w radius p).card := by omega
    rw [if_neg unknown, threshold_le_iff pos (card_covered_le w radius p) (card_sampled_le small)]
    exact (and_iff_right pos).symm

theorem share_share (small : (2 * radius + 1) ^ 2 ≤ 2 ^ 21) : Share (share w radius p) := by
  rw [share_eq]
  split
  · exact zero_share
  · exact ofNat_div_le_one (by omega) (card_covered_le w radius p)
      ((card_sampled_le small).trans (by decide))

theorem share_congr {v : World} (same : ∀ c ∈ columns radius p, v.surface c.1 c.2 = w.surface c.1 c.2) :
    share v radius p = share w radius p := by
  have heights_eq : heights v radius p = heights w radius p := List.filterMap_congr same
  rw [share, share, heights_eq]

end Shares

inductive Step where
  | update (w : World) (p : Option Position)
  | reset

def step (r : Roof) : Step → Roof
  | .update w p => r.update w p
  | .reset => r.reset

def run (r : Roof) (steps : List Step) : Roof := steps.foldl step r

theorem step_radius (r : Roof) (st : Step) : (r.step st).radius = r.radius := by
  rcases st with ⟨w, _ | p⟩ | _ <;> rfl

theorem run_radius (r : Roof) (steps : List Step) : (r.run steps).radius = r.radius := by
  induction steps generalizing r with
  | nil => rfl
  | cons st rest ih => exact (ih (r.step st)).trans (r.step_radius st)

/-- Whatever was measured before, the observer is inside if and only if at least eleven twentieths of
the known columns of the square, each asked for once, reach over the head. -/
theorem inside_iff (radius : ℤ) (history : List Step) (w : World) (p : Position)
    (small : (2 * radius.toNat + 1) ^ 2 ≤ 2 ^ 21) :
    let before := (start radius).run history
    let after := before.update w (some p)
    (after.isInside = true ↔ 0 < (sampled w radius.toNat p).card ∧
        11 * (sampled w radius.toNat p).card ≤ 20 * (covered w radius.toNat p).card) ∧
      ((before.queries (some p)).Nodup ∧
        (∀ c, c ∈ before.queries (some p) ↔ c ∈ square radius.toNat p) ∧
        ∀ v, (∀ c ∈ before.queries (some p), v.surface c.1 c.2 = w.surface c.1 c.2) →
          before.update v (some p) = after) ∧
      (0 ≤ after.coverage ∧ after.coverage ≤ 1) ∧ after = (start radius).update w (some p) := by
  intro before after
  have same : before.radius = radius.toNat := (start radius).run_radius history
  have measured : after = ⟨radius.toNat, share w radius.toNat p⟩ := by
    rw [← same]
    rfl
  have asked : before.queries (some p) = columns radius.toNat p := by
    rw [← same]
    rfl
  rw [asked, measured]
  refine ⟨?_, ⟨columns_nodup _ p, mem_columns _ p, ?_⟩, (share_iff _).mp (share_share small), rfl⟩
  · rw [isInside, decide_eq_true_iff]
    exact threshold_le_share_iff small
  · intro v agree
    rw [update, same, share_congr agree]

/-- A square of five by five columns of which one row is not loaded, and eleven of the others are
covered. -/
def porch : World :=
  ⟨fun _ _ => .empty, fun x z => if x = 2 then none else if 5 * x + z ≤ -2 then some 80 else some 60,
    .standard⟩

theorem porch_inside_iff :
    (2 * (2 : ℤ).toNat + 1) ^ 2 ≤ 2 ^ 21 ∧ (sampled porch 2 ⟨0, 64, 0⟩).card = 20 ∧
      (covered porch 2 ⟨0, 64, 0⟩).card = 11 ∧
      (((start 2).run [.update porch (some ⟨9, 64, 9⟩), .reset]).update porch
        (some ⟨0, 64, 0⟩)).isInside = true := by
  have small : (2 * (2 : ℤ).toNat + 1) ^ 2 ≤ 2 ^ 21 := by decide
  have known : (sampled porch 2 ⟨0, 64, 0⟩).card = 20 := by decide +kernel
  have roofed : (covered porch 2 ⟨0, 64, 0⟩).card = 11 := by decide +kernel
  refine ⟨small, known, roofed, ?_⟩
  refine (inside_iff 2 [.update porch (some ⟨9, 64, 9⟩), .reset] porch ⟨0, 64, 0⟩ small).1.mpr ?_
  change 0 < (sampled porch 2 ⟨0, 64, 0⟩).card ∧
    11 * (sampled porch 2 ⟨0, 64, 0⟩).card ≤ 20 * (covered porch 2 ⟨0, 64, 0⟩).card
  rw [known, roofed]
  decide

end Roof

end AmbientSound
