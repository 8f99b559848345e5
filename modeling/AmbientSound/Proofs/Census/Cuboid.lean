import Mathlib.Algebra.Group.Nat.Defs
import Mathlib.Data.List.Nodup
import AmbientSound.Census.Tier
import AmbientSound.World.Roof
/-!
The index of a cell and its place. Counting the indices from zero goes through the cuboid row by
row, every cell once.
-/
namespace AmbientSound

namespace Tier

/-- The cells of the cuboid around a centre: along x, then z, then y. -/
def cuboid (t : Tier) (centre : Position) : List Position :=
  (spread t.vertical.toNat).flatMap fun dy => (spread t.radius.toNat).flatMap fun dz =>
    (spread t.radius.toNat).map fun dx => centre.offset dx dy dz

theorem side_pos (t : Tier) : 0 < t.side := Nat.succ_pos _

theorem layers_pos (t : Tier) : 0 < t.layers := Nat.succ_pos _

theorem cells_pos (t : Tier) : 0 < t.cells :=
  Nat.mul_pos (Nat.mul_pos t.side_pos t.side_pos) t.layers_pos

theorem volume_pos (t : Tier) : 0 < t.volume := by
  have := t.cells_pos
  simp only [volume, UInt64.size]
  omega

theorem volume_eq_cells {t : Tier} (fits : t.volume < 2 ^ 64 - 1) : t.volume = t.cells := by
  simp only [volume, UInt64.size] at fits ⊢
  omega

theorem perTick_pos (t : Tier) : 0 < t.perTick := by
  have volume := t.volume_pos
  have cadence : 0 < max t.cadence 1 := by omega
  exact Nat.div_pos (by omega) cadence

theorem range_mul (m n : Nat) :
    List.range (m * n) = (List.range m).flatMap fun i => (List.range n).map fun j => i * n + j := by
  induction m with
  | zero => simp
  | succ m ih =>
    rw [Nat.succ_mul, List.range_add, ih, List.range_succ, List.flatMap_append]
    simp

theorem spread_eq (n : Nat) :
    spread n = (List.range (2 * n + 1)).map fun i : Nat => (i : Int) - n := rfl

theorem mem_spread (n : Nat) (d : Int) : d ∈ spread n ↔ -n ≤ d ∧ d ≤ n := by
  simp only [spread, List.mem_map, List.mem_range]
  constructor
  · rintro ⟨i, bound, rfl⟩
    omega
  · intro bounds
    exact ⟨(d + n).toNat, by omega, by omega⟩

/-- The digits of an index, the last one twice as wide as the others are long. -/
theorem cell_digits (t : Tier) (c : Position) {y z x : Nat} (hz : z < t.side) (hx : x < t.side) :
    t.cell c (y * (t.side * t.side) + (z * t.side + x)) =
      c.offset ((x : Int) - t.radius.toNat) ((y : Int) - t.vertical.toNat)
        ((z : Int) - t.radius.toNat) := by
  have pos := t.side_pos
  have within : z * t.side + x < t.side * t.side := by
    have row := Nat.mul_le_mul_right t.side (Nat.succ_le_of_lt hz)
    rw [Nat.succ_mul] at row
    omega
  have layer : (y * (t.side * t.side) + (z * t.side + x)) / (t.side * t.side) = y := by
    rw [Nat.mul_comm y, Nat.mul_add_div (Nat.mul_pos pos pos), Nat.div_eq_of_lt within,
      Nat.add_zero]
  have rows : y * (t.side * t.side) + (z * t.side + x) = t.side * (y * t.side + z) + x := by
    rw [Nat.mul_add, Nat.mul_left_comm, Nat.mul_comm t.side z, Nat.add_assoc]
  have row : (y * (t.side * t.side) + (z * t.side + x)) / t.side % t.side = z := by
    rw [rows, Nat.mul_add_div pos, Nat.div_eq_of_lt hx, Nat.add_zero, Nat.mul_comm y,
      Nat.mul_add_mod, Nat.mod_eq_of_lt hz]
  have column : (y * (t.side * t.side) + (z * t.side + x)) % t.side = x := by
    rw [rows, Nat.mul_add_mod, Nat.mod_eq_of_lt hx]
  simp only [cell, layer, row, column]

theorem stretch_eq_cuboid (t : Tier) (c : Position) : t.stretch c 0 t.cells = t.cuboid c := by
  have indices : List.range' 0 t.cells = (List.range t.layers).flatMap fun y =>
      (List.range t.side).flatMap fun z =>
        (List.range t.side).map fun x => y * (t.side * t.side) + (z * t.side + x) := by
    rw [← List.range_eq_range', cells, Nat.mul_comm, range_mul, range_mul]
    simp [List.map_flatMap, Function.comp_def]
  rw [stretch, indices, cuboid]
  simp only [List.map_flatMap, spread_eq, List.flatMap_map, List.map_map]
  refine List.flatMap_congr fun y _ => List.flatMap_congr fun z hz => List.map_congr_left ?_
  intro x hx
  exact t.cell_digits c (List.mem_range.mp hz) (List.mem_range.mp hx)

theorem stretch_append (t : Tier) (c : Position) (start m n : Nat) :
    t.stretch c start m ++ t.stretch c (start + m) n = t.stretch c start (m + n) := by
  simp [stretch, ← List.map_append]

theorem length_stretch (t : Tier) (c : Position) (start count : Nat) :
    (t.stretch c start count).length = count := by
  simp [stretch]

theorem mem_cuboid (t : Tier) (c p : Position) : p ∈ t.cuboid c ↔
    (-t.radius.toNat ≤ p.x - c.x ∧ p.x - c.x ≤ t.radius.toNat) ∧
      (-t.vertical.toNat ≤ p.y - c.y ∧ p.y - c.y ≤ t.vertical.toNat) ∧
        (-t.radius.toNat ≤ p.z - c.z ∧ p.z - c.z ≤ t.radius.toNat) := by
  simp only [cuboid, List.mem_flatMap, List.mem_map, mem_spread]
  constructor
  · rintro ⟨dy, hy, dz, hz, dx, hx, rfl⟩
    simp only [Position.offset]
    omega
  · rintro ⟨hx, hy, hz⟩
    refine ⟨p.y - c.y, hy, p.z - c.z, hz, p.x - c.x, hx, ?_⟩
    cases p
    simp only [Position.offset, Position.mk.injEq]
    omega

theorem cuboid_nodup (t : Tier) (c : Position) : (t.cuboid c).Nodup := by
  rw [← stretch_eq_cuboid, stretch]
  refine List.Nodup.map_on ?_ List.nodup_range'
  intro i _ j _ same
  simp only [cell, Position.offset, Position.mk.injEq] at same
  obtain ⟨columns, layers, rows⟩ := same
  have column : i % t.side = j % t.side := by omega
  have layer : i / t.side / t.side = j / t.side / t.side := by
    rw [Nat.div_div_eq_div_mul, Nat.div_div_eq_div_mul]
    omega
  have row : i / t.side % t.side = j / t.side % t.side := by omega
  have quotients : i / t.side = j / t.side := by
    rw [← Nat.div_add_mod (i / t.side) t.side, layer, row, Nat.div_add_mod]
  rw [← Nat.div_add_mod i t.side, quotients, column, Nat.div_add_mod]

theorem length_cuboid (t : Tier) (c : Position) : (t.cuboid c).length = t.cells := by
  rw [← stretch_eq_cuboid, length_stretch]

end Tier

end AmbientSound
