import AmbientSound.World.Cell
import AmbientSound.Number.Exact
/-!
The roof over the observer. The columns of a square are asked for their surface, and the share
of them that reaches over the head says whether the observer is inside.
-/
namespace AmbientSound

def spread (n : Nat) : List Int := (List.range (2 * n + 1)).map fun (i : Nat) => (i : Int) - n

namespace Roof

/-- The columns of the square around a position, in the order in which they are asked for. -/
def columns (radius : Nat) (p : Position) : List (Int × Int) :=
  (spread radius).flatMap fun dx => (spread radius).map fun dz => (p.x + dx, p.z + dz)

def heights (w : World) (radius : Nat) (p : Position) : List Int :=
  (columns radius p).filterMap fun c => w.surface c.1 c.2

def covers (y height : Int) : Bool := decide (y + 1 < height)

/-- The share of known columns with a roof, zero if none is known. -/
def share (w : World) (radius : Nat) (p : Position) : Float32 :=
  let known := heights w radius p
  if known.isEmpty then 0
  else Single.ofNat (known.countP (covers p.y)) / Single.ofNat known.length

def threshold : Float32 := 0.55

end Roof

structure Roof where
  radius : Nat
  coverage : Float32
  deriving DecidableEq

namespace Roof

/-- No roof yet. A negative radius counts as zero. -/
def start (radius : Int) : Roof := ⟨radius.toNat, 0⟩

def update (r : Roof) (w : World) : Option Position → Roof
  | none => ⟨r.radius, 0⟩
  | some p => ⟨r.radius, share w r.radius p⟩

def reset (r : Roof) : Roof := ⟨r.radius, 0⟩

def isInside (r : Roof) : Bool := decide (threshold ≤ r.coverage)

def queries (r : Roof) : Option Position → List (Int × Int)
  | none => []
  | some p => columns r.radius p

end Roof

end AmbientSound
