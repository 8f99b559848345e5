import AmbientSound.Ident
import AmbientSound.World.Position
import AmbientSound.World.Realm
/-!
What can be asked of a world. Nothing else of it is ever looked at.
-/
namespace AmbientSound

inductive Cell where
  /-- The cell is not there to be seen, and is not counted. -/
  | unloaded
  /-- The cell belongs to no region. -/
  | empty
  | region (id : RegionId)
  deriving DecidableEq, Repr

def Cell.ofRegion : Option RegionId → Cell
  | none => .empty
  | some r => .region r

def Cell.region? : Cell → Option RegionId
  | .region r => some r
  | _ => none

inductive Layer where
  | biome
  | blocks
  deriving DecidableEq, Repr

def Layer.names : List (String × Layer) := [("Biome", .biome), ("BlockEffect", .blocks)]

def Layer.name : Layer → String
  | .biome => "Biome"
  | .blocks => "BlockEffect"

structure World where
  cell : Layer → Position → Cell
  /-- The height of the surface in a column, unless it is unloaded. -/
  surface : Int → Int → Option Int
  realm : RealmId → Realm

def World.withStandardRealms (w : World) : World := ⟨w.cell, w.surface, .standard⟩

end AmbientSound
