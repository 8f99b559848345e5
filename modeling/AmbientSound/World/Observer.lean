import AmbientSound.World.Position
import AmbientSound.World.Realm
/-!
The observer, and the environment that its surroundings make.
-/
namespace AmbientSound

structure Observer where
  position : Position
  realm : RealmId
  alive : Bool
  underwater : Bool
  raining : Bool
  night : Bool
  deriving DecidableEq, Repr

namespace Observer

def standing (p : Position) : Observer := ⟨p, .overworld, true, false, false, false⟩

def toDatum (o : Observer) : Datum :=
  .record [("position", o.position.toDatum), ("dimension", o.realm.toDatum),
    ("alive", .bool o.alive), ("underwater", .bool o.underwater), ("raining", .bool o.raining),
    ("night", .bool o.night)]

def ofDatum? (dialect : Dialect) (d : Datum) : Option Observer := do
  let names := ["position", "dimension", "alive", "underwater", "raining", "night"]
  match ← d.fieldsNamed? dialect names with
  | [position, realm, alive, underwater, raining, night] =>
    return ⟨← Datum.required? position (Position.ofDatum? dialect),
      ← Datum.required? realm RealmId.ofDatum?, ← Datum.required? alive Datum.asBool?,
      ← Datum.required? underwater Datum.asBool?, ← Datum.required? raining Datum.asBool?,
      ← Datum.required? night Datum.asBool?⟩
  | _ => none

end Observer

structure Environment where
  underground : Bool
  inside : Bool
  underwater : Bool
  raining : Bool
  night : Bool
  deriving DecidableEq, Repr

namespace Environment

def calm : Environment := ⟨false, false, false, false, false⟩

def undergroundDepth : Int := 10

/-- The sea level in force: a positive override replaces that of the overworld. -/
def seaLevel (r : Realm) (override : Int) : Int :=
  if r.id = .overworld ∧ 0 < override then override else r.seaLevel

def derive (o : Observer) (r : Realm) (inside : Bool) (override : Int) : Environment :=
  ⟨decide (o.position.y < seaLevel r override - undergroundDepth), inside, o.underwater,
    o.raining, o.night⟩

def flags (e : Environment) : List (String × Bool) :=
  [("underground", e.underground), ("inside", e.inside), ("underwater", e.underwater),
    ("raining", e.raining), ("night", e.night)]

def toDatum (e : Environment) : Datum := .record (e.flags.map fun f => (f.1, .bool f.2))

def ofDatum? (dialect : Dialect) (d : Datum) : Option Environment := do
  let names := ["underground", "inside", "underwater", "raining", "night"]
  match ← d.fieldsNamed? dialect names with
  | [underground, inside, underwater, raining, night] =>
    return ⟨← Datum.required? underground Datum.asBool?, ← Datum.required? inside Datum.asBool?,
      ← Datum.required? underwater Datum.asBool?, ← Datum.required? raining Datum.asBool?,
      ← Datum.required? night Datum.asBool?⟩
  | _ => none

end Environment

end AmbientSound
