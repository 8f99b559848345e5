import AmbientSound.World.Cell
/-!
A world that is edited by hand. What was not edited is flat, loaded, of one biome and under the
standard rules.
-/
namespace AmbientSound

/-- An inclusive range of whole numbers, empty if its ends are reversed. -/
structure Span where
  first : Int
  last : Int
  deriving DecidableEq, Repr

def Span.toList (s : Span) : List Int :=
  (List.range (s.last - s.first + 1).toNat).map fun i : Nat => s.first + i

structure Rectangle where
  xs : Span
  zs : Span
  deriving DecidableEq, Repr

structure Cuboid where
  least : Position
  greatest : Position
  deriving DecidableEq, Repr

def Cuboid.xs (c : Cuboid) : Span := ⟨c.least.x, c.greatest.x⟩

def Cuboid.ys (c : Cuboid) : Span := ⟨c.least.y, c.greatest.y⟩

def Cuboid.zs (c : Cuboid) : Span := ⟨c.least.z, c.greatest.z⟩

namespace SparseMap

variable {α : Type}

def setColumns (m : SparseMap (Int × Int) α) (area : Rectangle) (v : α) :
    SparseMap (Int × Int) α :=
  area.xs.toList.foldl (fun m x => area.zs.toList.foldl (fun m z => m.insert (x, z) v) m) m

def setCells (m : SparseMap Position α) (box : Cuboid) (v : α) : SparseMap Position α :=
  box.xs.toList.foldl (fun m x => box.ys.toList.foldl (fun m y =>
    box.zs.toList.foldl (fun m z => m.insert ⟨x, y, z⟩ v) m) m) m

end SparseMap

inductive Edit where
  | paint (area : Rectangle) (biome : RegionId)
  | fill (box : Cuboid) (effect : RegionId)
  | raise (area : Rectangle) (height : Int)
  | unload (chunk : Chunk)
  | load (chunk : Chunk)
  | govern (realm : Realm)
  deriving DecidableEq, Repr

structure Terrain where
  biome : Option RegionId
  biomes : SparseMap (Int × Int) RegionId
  effects : SparseMap Position RegionId
  height : Int
  heights : SparseMap (Int × Int) Int
  unloaded : SparseSet Chunk
  realms : SparseMap RealmId Realm

namespace Terrain

def flat (biome : Option RegionId) (height : Int) : Terrain :=
  { biome, biomes := .empty, effects := .empty, height, heights := .empty, unloaded := .empty
    realms := .empty }

def edit (t : Terrain) : Edit → Terrain
  | .paint area biome => { t with biomes := t.biomes.setColumns area biome }
  | .fill box effect => { t with effects := t.effects.setCells box effect }
  | .raise area height => { t with heights := t.heights.setColumns area height }
  | .unload chunk => { t with unloaded := t.unloaded.insert chunk () }
  | .load chunk => { t with unloaded := t.unloaded.erase chunk }
  | .govern realm => { t with realms := t.realms.insert realm.id realm }

def edits (t : Terrain) (es : List Edit) : Terrain := es.foldl edit t

def isLoaded (t : Terrain) (p : Position) : Bool := !t.unloaded.contains p.chunk

def biomeAt (t : Terrain) (p : Position) : Cell :=
  if t.isLoaded p then .ofRegion ((t.biomes.get? (p.x, p.z)).or t.biome) else .unloaded

def blockAt (t : Terrain) (p : Position) : Cell :=
  if t.isLoaded p then .ofRegion (t.effects.get? p) else .unloaded

def surface (t : Terrain) (x z : Int) : Option Int :=
  if t.isLoaded ⟨x, 0, z⟩ then some ((t.heights.get? (x, z)).getD t.height) else none

def realm (t : Terrain) (id : RealmId) : Realm := (t.realms.get? id).getD (.standard id)

def world (t : Terrain) : World :=
  ⟨fun layer => match layer with
    | .biome => t.biomeAt
    | .blocks => t.blockAt, t.surface, t.realm⟩

end Terrain

end AmbientSound
