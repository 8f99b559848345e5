import AmbientSound.Document.Decode
import AmbientSound.SparseMap
/-!
Places in the world: cells, the columns they stand in, and chunks of sixteen by sixteen columns.
-/
namespace AmbientSound

structure Position where
  x : Int
  y : Int
  z : Int
  deriving DecidableEq, Repr

instance : Spelled Position := .via (fun p => (p.x, p.y, p.z)) fun a b same => by
  cases a
  cases b
  cases same
  rfl

structure Chunk where
  x : Int
  z : Int
  deriving DecidableEq, Repr

instance : Spelled Chunk := .via (fun c => (c.x, c.z)) fun a b same => by
  cases a
  cases b
  cases same
  rfl

def Chunk.ofColumn (x z : Int) : Chunk := ⟨x >>> (4 : Nat), z >>> (4 : Nat)⟩

theorem Chunk.ofColumn_eq (x z : Int) : ofColumn x z = ⟨x.fdiv 16, z.fdiv 16⟩ := by
  have sixteenth (n : Int) : n >>> (4 : Nat) = n.fdiv 16 := by
    rw [Int.shiftRight_eq_div_pow, Int.fdiv_eq_ediv_of_nonneg n (by decide)]
    rfl
  rw [ofColumn, sixteenth, sixteenth]

namespace Position

def offset (p : Position) (dx dy dz : Int) : Position := ⟨p.x + dx, p.y + dy, p.z + dz⟩

def chunk (p : Position) : Chunk := .ofColumn p.x p.z

def text (p : Position) : String :=
  "(" ++ toString p.x ++ ", " ++ toString p.y ++ ", " ++ toString p.z ++ ")"

def toDatum (p : Position) : Datum := .record [("x", .int p.x), ("y", .int p.y), ("z", .int p.z)]

def ofDatum? (dialect : Dialect) (d : Datum) : Option Position := do
  match ← d.fieldsNamed? dialect ["x", "y", "z"] with
  | [x, y, z] =>
    return ⟨← Datum.required? x Datum.asCoordinate?, ← Datum.required? y Datum.asCoordinate?,
      ← Datum.required? z Datum.asCoordinate?⟩
  | _ => none

end Position

end AmbientSound
