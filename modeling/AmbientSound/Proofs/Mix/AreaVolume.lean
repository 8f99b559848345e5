import AmbientSound.Mix.AreaLaw
import AmbientSound.Proofs.Number.Shares
/-!
The area law in the arithmetic of singles. Whatever the rounding does, a region that is there gets
a volume above zero, not below the floor, and at most one.
-/
namespace AmbientSound

open Single

/-- A volume to be heard, and at most full. -/
def Single.Audible (v : Float32) : Prop := ∃ n, Weighs v n ∧ 0 < n ∧ n ≤ oneUnits

theorem Single.one_audible : Audible 1 := ⟨oneUnits, one_weighs, by decide, le_rfl⟩

theorem Single.Audible.pos {v : Float32} (h : Audible v) : 0 < v := by
  obtain ⟨n, weighs, pos, -⟩ := h
  exact (lt_iff zero_weighs weighs).mpr pos

theorem Single.Audible.not_le_zero {v : Float32} (h : Audible v) : ¬ v ≤ 0 := by
  obtain ⟨n, weighs, pos, -⟩ := h
  rw [le_iff weighs zero_weighs]
  omega

theorem Single.Audible.share {v : Float32} (h : Audible v) : Share v := by
  obtain ⟨n, weighs, -, le⟩ := h
  exact ⟨n, weighs, le⟩

theorem Single.Audible.stored {v : Float32} (h : Audible v) : Mix.stored v = v := by
  obtain ⟨n, weighs, -, le⟩ := h
  rw [Mix.stored, isFinite_of_weighs weighs, if_pos rfl, clampUnit_eq_self weighs le]

namespace AreaLaw

def Sane (law : AreaLaw) : Prop := ∃ f, Weighs law.floor f ∧ f ≤ oneUnits

theorem ofFloor_sane {floor : Float32} (number : floor.isNaN = false) : (ofFloor floor).Sane := by
  obtain ⟨f, le, weighs⟩ := clampUnit_weighs number
  exact ⟨f, weighs, le⟩

theorem exactly_oneUnits : Exactly oneUnits := exactly_two_pow 149

theorem oneUnits_pos : 0 < oneUnits := Nat.two_pow_pos 149

theorem count_weighs {n : ℕ} (pos : 0 < n) (fits : n ≤ 2 ^ 32) :
    ∃ c, Weighs (ofNat n) c ∧ Rounds ((n * oneUnits : ℕ) : ℚ) c ∧ oneUnits ≤ c ∧
      c ≤ 2 ^ 32 * oneUnits := by
  obtain ⟨c, rounds, weighs, -⟩ := ofNat_gives n
  have top : Exactly (2 ^ 32 * oneUnits) := by
    rw [oneUnits, ← pow_add]
    exact exactly_two_pow _
  have room : 2 ^ 32 * oneUnits < overflow := by
    rw [oneUnits, ← pow_add]
    exact pow_lt_pow_right₀ Nat.one_lt_two (by decide)
  have below : c ≤ 2 ^ 32 * oneUnits :=
    rounds.le_of_le top (by exact_mod_cast Nat.mul_le_mul_right oneUnits fits)
  have above : oneUnits ≤ c :=
    rounds.ge_of_ge exactly_oneUnits (by exact_mod_cast Nat.le_mul_of_pos_left oneUnits pos)
  exact ⟨c, weighs (by omega), rounds, above, below⟩

theorem share_weighs {count total : ℕ} (pos : 0 < count) (le : count ≤ total)
    (fits : total ≤ 2 ^ 32) :
    ∃ s, Weighs (ofNat count / ofNat total) s ∧ 0 < s ∧ s ≤ oneUnits := by
  obtain ⟨c, hc, roundsC, lowC, -⟩ := count_weighs pos (le.trans fits)
  obtain ⟨t, ht, roundsT, lowT, highT⟩ := count_weighs (pos.trans_le le) fits
  have order : c ≤ t :=
    roundsC.mono roundsT (by exact_mod_cast Nat.mul_le_mul_right oneUnits le)
  have den : (0 : ℚ) < t := by exact_mod_cast oneUnits_pos.trans_le lowT
  have least : 2 ^ 117 * t ≤ c * oneUnits := by
    calc 2 ^ 117 * t ≤ 2 ^ 117 * (2 ^ 32 * oneUnits) := Nat.mul_le_mul_left _ highT
      _ = oneUnits * oneUnits := by rw [← Nat.mul_assoc, ← pow_add]; rfl
      _ ≤ c * oneUnits := Nat.mul_le_mul_right _ lowC
  have most : c * oneUnits ≤ oneUnits * t := by
    rw [Nat.mul_comm oneUnits]
    exact Nat.mul_le_mul_right _ order
  obtain ⟨s, hs, low, high⟩ := (div_gives hc ht (oneUnits_pos.trans_le lowT)).between
    (exactly_two_pow 117) exactly_oneUnits
    (by rw [le_div_iff₀ den]; exact_mod_cast least)
    (by rw [div_le_iff₀ den]; exact_mod_cast most)
    (pow_lt_pow_right₀ Nat.one_lt_two (by decide))
  exact ⟨s, hs, (Nat.two_pow_pos 117).trans_le low, high⟩

theorem blend_weighs {floor share : Float32} {f s : ℕ} (hf : Weighs floor f) (hs : Weighs share s)
    (unit : f ≤ oneUnits) (pos : 0 < s) (whole : s ≤ oneUnits) :
    ∃ y, Weighs (floor + (1 - floor) * share) y ∧ (0 < f ∨ 0 < y) := by
  have base : Share floor := ⟨f, hf, unit⟩
  have most : Share share := ⟨s, hs, whole⟩
  obtain ⟨y, hy⟩ := base.add_weighs (base.one_sub.mul most)
  refine ⟨y, hy, ?_⟩
  rcases Nat.eq_zero_or_pos f with rfl | some
  · -- without a floor nothing is rounded
    have total : Weighs (floor + (1 - floor) * share) s := hf.zero_add (hf.one_sub_zero.one_mul hs)
    obtain rfl : y = s := weighs_unique hy total
    exact .inr pos
  · exact .inl some

section Cases

variable {law : AreaLaw} {count total : ℕ}

theorem volume?_absent (absent : count = 0 ∨ total = 0) : law.volume? count total = some 0 :=
  if_pos absent

theorem volume?_whole (seen : 0 < total) (whole : total ≤ count) :
    law.volume? count total = some 1 := by
  have notAbsent : ¬ (count = 0 ∨ total = 0) := by omega
  rw [volume?, if_neg notAbsent, if_pos whole]

theorem volume?_part (sane : law.Sane) (present : 0 < count) (part : count < total) :
    law.volume? count total = some
      (clamp law.floor 1 (law.floor + (1 - law.floor) * (ofNat count / ofNat total))) := by
  obtain ⟨f, hf, unit⟩ := sane
  have notAbsent : ¬ (count = 0 ∨ total = 0) := by omega
  have bounds : law.floor ≤ 1 := (le_iff hf one_weighs).mpr unit
  rw [volume?, if_neg notAbsent, if_neg (by omega)]
  simp only [clamp?, if_pos bounds]

theorem volume?_audible (sane : law.Sane) (present : 0 < count) (seen : 0 < total)
    (fits : total ≤ 2 ^ 32) :
    ∃ v, law.volume? count total = some v ∧ Audible v ∧ law.floor ≤ v := by
  obtain ⟨f, hf, unit⟩ := id sane
  rcases Nat.lt_or_ge count total with part | whole
  · obtain ⟨s, hs, pos, most⟩ := share_weighs present part.le fits
    obtain ⟨y, hy, some⟩ := blend_weighs hf hs unit pos most
    have clamped := clamp_weighs hf one_weighs hy unit
    refine ⟨_, volume?_part sane present part, ⟨_, clamped, ?_, by omega⟩, ?_⟩
    · have := oneUnits_pos
      omega
    · exact (le_iff hf clamped).mpr (by omega)
  · exact ⟨1, volume?_whole seen whole, one_audible, (le_iff hf one_weighs).mpr unit⟩

end Cases

end AreaLaw

end AmbientSound
