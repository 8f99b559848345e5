import AmbientSound.IdentMap
import AmbientSound.World.Cell
/-!
What a census found: how many cells belong to each region, and how many were seen at all.
-/
namespace AmbientSound

structure Tally where
  counts : IdentMap .region Nat
  total : Nat
  deriving DecidableEq

namespace Tally

def empty : Tally := ⟨.empty, 0⟩

instance : Inhabited Tally := ⟨empty⟩

def isEmpty (t : Tally) : Bool := t.total == 0

def count (t : Tally) (r : RegionId) : Nat := (t.counts.get? r).getD 0

def addTo (counts : IdentMap .region Nat) (r : RegionId) (n : Nat) : IdentMap .region Nat :=
  counts.insert r ((counts.get? r).getD 0 + n)

def see (t : Tally) : Cell → Tally
  | .unloaded => t
  | .empty => ⟨t.counts, t.total + 1⟩
  | .region r => ⟨addTo t.counts r 1, t.total + 1⟩

def ofCells (cells : List Cell) : Tally := cells.foldl see empty

/-- A tally from claimed counts. Zeros are left out, and the total is at least the sum. -/
def ofCounts (counts : List (RegionId × Nat)) (total : Nat) : Tally :=
  let merged := counts.foldl (fun m e => if e.2 = 0 then m else addTo m e.1 e.2) .empty
  ⟨merged, max total (merged.entries.foldl (fun sum e => sum + e.2) 0)⟩

def leader (best : Option (RegionId × Nat)) (e : RegionId × Nat) : Option (RegionId × Nat) :=
  match best with
  | some b => if e.2 ≤ b.2 then some b else some e
  | none => some e

/-- The region with the largest count, the lowest of several. -/
def dominant (t : Tally) : Option RegionId := (t.counts.entries.foldl leader none).map (·.1)

end Tally

end AmbientSound
