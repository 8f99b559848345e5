import AmbientSound.Document.Decode
import AmbientSound.SparseMap
/-!
The realms of the world, numbered, and the ambient rules of each.
-/
namespace AmbientSound

structure RealmId where
  number : Int
  deriving DecidableEq, Repr

instance : Spelled RealmId := .via (·.number) fun a b same => by
  cases a
  cases same
  rfl

namespace RealmId

def overworld : RealmId := ⟨0⟩

def nether : RealmId := ⟨-1⟩

def ending : RealmId := ⟨1⟩

/-- The name of a realm; all but the three known ones share one. -/
def key (r : RealmId) : String :=
  if r = overworld then "overworld"
  else if r = nether then "nether"
  else if r = ending then "end"
  else "custom"

def toDatum (r : RealmId) : Datum := .int r.number

def ofDatum? (d : Datum) : Option RealmId := d.asCoordinate?.map (⟨·⟩)

end RealmId

structure Realm where
  id : RealmId
  seaLevel : Int
  playsBiomes : Bool
  alwaysOutside : Bool
  deriving DecidableEq, Repr

namespace Realm

def standard (id : RealmId) : Realm :=
  if id = .nether then ⟨id, 32, true, true⟩
  else if id = .ending then ⟨id, 0, false, true⟩
  else ⟨id, 63, true, false⟩

def toDatum (r : Realm) : Datum :=
  .record [("id", r.id.toDatum), ("sea_level", .int r.seaLevel),
    ("play_biome_sounds", .bool r.playsBiomes), ("always_outside", .bool r.alwaysOutside)]

def ofDatum? (dialect : Dialect) (d : Datum) : Option Realm := do
  match ← d.fieldsNamed? dialect ["id", "sea_level", "play_biome_sounds", "always_outside"] with
  | [id, seaLevel, playsBiomes, alwaysOutside] =>
    return ⟨← Datum.required? id RealmId.ofDatum?, ← Datum.required? seaLevel Datum.asCoordinate?,
      ← Datum.required? playsBiomes Datum.asBool?, ← Datum.required? alwaysOutside Datum.asBool?⟩
  | _ => none

end Realm

end AmbientSound
