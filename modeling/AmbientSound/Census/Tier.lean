import AmbientSound.World.Position
/-!
The cuboid that a census covers and the order in which its cells come: along x, then z, then y.
-/
namespace AmbientSound

/-- Extents of a census and the ticks over which one is spread. Negative extents count as zero. -/
structure Tier where
  radius : Int
  vertical : Int
  cadence : Nat
  deriving DecidableEq, Repr

namespace Tier

def side (t : Tier) : Nat := 2 * t.radius.toNat + 1

def layers (t : Tier) : Nat := 2 * t.vertical.toNat + 1

def cells (t : Tier) : Nat := t.side * t.side * t.layers

/-- The number of cells, as far as it fits a word of sixty-four bits. -/
def volume (t : Tier) : Nat := min t.cells (UInt64.size - 1)

def perTick (t : Tier) : Nat := (t.volume + (max t.cadence 1 - 1)) / max t.cadence 1

def cell (t : Tier) (centre : Position) (index : Nat) : Position :=
  centre.offset ((index % t.side : Nat) - t.radius.toNat)
    ((index / (t.side * t.side) : Nat) - t.vertical.toNat)
    ((index / t.side % t.side : Nat) - t.radius.toNat)

def stretch (t : Tier) (centre : Position) (start count : Nat) : List Position :=
  (List.range' start count).map (t.cell centre)

def toDatum (t : Tier) : Datum :=
  .record [("radius", .int t.radius), ("vertical", .int t.vertical),
    ("cadence_ticks", .nat t.cadence)]

def ofDatum? (dialect : Dialect) (d : Datum) : Option Tier := do
  match ← d.fieldsNamed? dialect ["radius", "vertical", "cadence_ticks"] with
  | [radius, vertical, cadence] =>
    return ⟨← Datum.required? radius Datum.asCoordinate?,
      ← Datum.required? vertical Datum.asCoordinate?, ← Datum.required? cadence Datum.asCount?⟩
  | _ => none

end Tier

end AmbientSound
