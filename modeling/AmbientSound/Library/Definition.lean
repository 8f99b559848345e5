import AmbientSound.Library.Condition
/-!
What a library document says: entries with names instead of identities, not yet checked. An entry
may be given as a list of its fields, except that of a region, which is kept whole while it is
read and therefore may be neither too deep nor without a value anywhere.
-/
namespace AmbientSound

structure AcousticEntry where
  name : String
  path : Option String
  deriving DecidableEq, Repr

structure LoopEntry where
  acoustic : String
  condition : Condition
  deriving DecidableEq, Repr

structure SpotEntry where
  acoustic : String
  weight : Nat
  condition : Condition
  deriving DecidableEq, Repr

structure SetEntry where
  loops : List LoopEntry
  chance : Float32
  spots : List SpotEntry
  deriving DecidableEq

def SetEntry.empty : SetEntry := ⟨[], 0, []⟩

structure RegionEntry where
  region : String
  sounds : SetEntry
  deriving DecidableEq

structure Definition where
  acoustics : List AcousticEntry
  regions : List RegionEntry
  observer : SetEntry
  deriving DecidableEq

namespace AcousticEntry

def ofDatum? (dialect : Dialect) (d : Datum) : Option AcousticEntry := do
  match ← d.fieldsNamed? dialect ["name", "path"] with
  | [name, path] =>
    return ⟨← Datum.required? name Datum.asText?,
      ← Datum.defaulted? none path (Datum.asOptional? Datum.asText?)⟩
  | _ => none

end AcousticEntry

namespace LoopEntry

def ofDatum? (dialect : Dialect) (d : Datum) : Option LoopEntry := do
  match ← d.fieldsNamed? dialect ["acoustic", "condition"] with
  | [acoustic, condition] =>
    return ⟨← Datum.required? acoustic Datum.asText?,
      ← Datum.defaulted? .always condition (Condition.ofDatum? dialect)⟩
  | _ => none

end LoopEntry

namespace SpotEntry

def standardWeight : Nat := 1

def ofDatum? (dialect : Dialect) (d : Datum) : Option SpotEntry := do
  match ← d.fieldsNamed? dialect ["acoustic", "weight", "condition"] with
  | [acoustic, weight, condition] =>
    return ⟨← Datum.required? acoustic Datum.asText?,
      ← Datum.defaulted? standardWeight weight Datum.asCount?,
      ← Datum.defaulted? .always condition (Condition.ofDatum? dialect)⟩
  | _ => none

end SpotEntry

namespace SetEntry

def fieldNames : List String := ["sounds", "spot_chance", "spot_sounds"]

def ofFields? (dialect : Dialect) : List (Option Datum) → Option SetEntry
  | [loops, chance, spots] => do
    return ⟨← Datum.defaulted? [] loops (Datum.asList? (LoopEntry.ofDatum? dialect)),
      ← Datum.defaulted? 0 chance Datum.asSingle?,
      ← Datum.defaulted? [] spots (Datum.asList? (SpotEntry.ofDatum? dialect))⟩
  | _ => none

def ofDatum? (dialect : Dialect) (d : Datum) : Option SetEntry := do
  ofFields? dialect (← d.fieldsNamed? dialect fieldNames)

end SetEntry

namespace RegionEntry

/-- The greatest depth of an entry; two more levels are around it. -/
def deepest : Nat := 125

def ofDatum? (d : Datum) : Option RegionEntry := do
  match d with
  | .record _ =>
    if d.isReadable ∧ d.depth ≤ deepest then
      match ← d.fieldsNamed? .keptJson ("region" :: SetEntry.fieldNames) with
      | region :: sounds =>
        return ⟨← Datum.required? region Datum.asText?, ← SetEntry.ofFields? .keptJson sounds⟩
      | [] => none
    else none
  | _ => none

end RegionEntry

namespace Definition

def ofDatum? (d : Datum) : Option Definition := do
  match ← d.fieldsNamed? .json ["acoustics", "regions", "observer"] with
  | [acoustics, regions, observer] =>
    return ⟨← Datum.defaulted? [] acoustics (Datum.asList? (AcousticEntry.ofDatum? .json)),
      ← Datum.defaulted? [] regions (Datum.asList? RegionEntry.ofDatum?),
      ← Datum.defaulted? .empty observer (SetEntry.ofDatum? .json)⟩
  | _ => none

end Definition

end AmbientSound
