import AmbientSound.Settings.Basic
import AmbientSound.Proofs.Census.Settling
import AmbientSound.Proofs.Mix.AreaVolume
/-!
What sanitizing settings makes certain: censuses of a bounded number of cells, and a floor in the
unit interval.
-/
namespace AmbientSound

namespace Settings

theorem within_mem {lo hi : Int} (order : lo ≤ hi) (n : Int) :
    lo ≤ within lo hi n ∧ within lo hi n ≤ hi := by
  unfold within
  omega

def mostCells : Nat := 129 ^ 3

theorem volume_le_mostCells {t : Tier} (radius : t.radius ≤ widest) (vertical : t.vertical ≤ widest) :
    t.volume ≤ mostCells := by
  have side : t.side ≤ 129 := by
    simp only [Tier.side, widest] at radius ⊢
    omega
  have layers : t.layers ≤ 129 := by
    simp only [Tier.layers, widest] at vertical ⊢
    omega
  have cells : t.cells ≤ mostCells := Nat.mul_le_mul (Nat.mul_le_mul side side) layers
  exact (Nat.min_le_left _ _).trans cells

def tiers (s : Settings) : List Tier :=
  (if s.biome.enabled then [s.biome.scan] else []) ++
    (if s.blocks.enabled then [s.blocks.near, s.farTier] else [])

/-- The ticks of the longest pass, one if no census is enabled. -/
def longestPass (s : Settings) : Nat := (s.tiers.map Tier.slices).foldr max 1

section Sanitized

variable (s : Settings)

theorem volume_biome_le : s.sanitized.biome.scan.volume ≤ mostCells :=
  volume_le_mostCells (within_mem (by decide) _).2 (within_mem (by decide) _).2

theorem volume_near_le : s.sanitized.blocks.near.volume ≤ mostCells :=
  volume_le_mostCells (within_mem (by decide) _).2 (within_mem (by decide) _).2

theorem volume_far_le : s.sanitized.farTier.volume ≤ mostCells :=
  volume_le_mostCells (within_mem (by decide) _).2 (within_mem (by decide) _).2

theorem roofRadius_le : s.sanitized.roofRadius ≤ 16 := (within_mem (by decide) _).2

theorem square_roofRadius_le : (2 * s.sanitized.roofRadius.toNat + 1) ^ 2 ≤ 2 ^ 21 := by
  have most := s.roofRadius_le
  calc (2 * s.sanitized.roofRadius.toNat + 1) ^ 2 ≤ 33 ^ 2 := Nat.pow_le_pow_left (by omega) 2
    _ ≤ 2 ^ 21 := by decide

theorem slices_le_longestPass {t : Tier} (mem : t ∈ s.tiers) : t.slices ≤ s.longestPass := by
  have most {ns : List Nat} {n : Nat} (mem : n ∈ ns) : n ≤ ns.foldr max 1 := by
    induction ns with
    | nil => exact absurd mem List.not_mem_nil
    | cons m rest ih =>
      rcases List.mem_cons.mp mem with rfl | later
      · exact Nat.le_max_left n _
      · exact (ih later).trans (Nat.le_max_right m _)
  exact most (List.mem_map_of_mem mem)

theorem floor_number (number : s.floor.isNaN = false) : s.sanitized.floor.isNaN = false := by
  obtain ⟨n, -, weighs⟩ := Single.clampUnit_weighs number
  exact Single.isNaN_of_weighs weighs

end Sanitized

end Settings

end AmbientSound
