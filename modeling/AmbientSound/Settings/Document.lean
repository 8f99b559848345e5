import AmbientSound.Document.Json.Reader
import AmbientSound.Document.Json.Writer
import AmbientSound.Document.Toml.Table
import AmbientSound.Document.Toml.Writer
import AmbientSound.Settings.Basic
/-!
Settings as documents: read from JSON or TOML, written in either. Whatever a document leaves out
has its standard value.
-/
namespace AmbientSound

namespace BiomeSettings

def ofDatum? (dialect : Dialect) (d : Datum) : Option BiomeSettings := do
  let names := ["enabled", "scan", "sea_level_override", "dimension_blacklist"]
  match ← d.fieldsNamed? dialect names with
  | [enabled, scan, seaLevelOverride, blacklist] =>
    return ⟨← Datum.defaulted? standard.enabled enabled Datum.asBool?,
      ← Datum.defaulted? standard.scan scan (Tier.ofDatum? dialect),
      ← Datum.defaulted? standard.seaLevelOverride seaLevelOverride Datum.asCoordinate?,
      ← Datum.defaulted? standard.blacklist blacklist (Datum.asList? RealmId.ofDatum?)⟩
  | _ => none

def toDatum (s : BiomeSettings) : Datum :=
  .record [("enabled", .bool s.enabled), ("scan", s.scan.toDatum),
    ("sea_level_override", .int s.seaLevelOverride),
    ("dimension_blacklist", .list (s.blacklist.map RealmId.toDatum))]

end BiomeSettings

namespace BlockSettings

def ofDatum? (dialect : Dialect) (d : Datum) : Option BlockSettings := do
  match ← d.fieldsNamed? dialect ["enabled", "near", "far_vertical", "far_cadence_ticks"] with
  | [enabled, near, farVertical, farCadence] =>
    return ⟨← Datum.defaulted? standard.enabled enabled Datum.asBool?,
      ← Datum.defaulted? standard.near near (Tier.ofDatum? dialect),
      ← Datum.defaulted? standard.farVertical farVertical Datum.asCoordinate?,
      ← Datum.defaulted? standard.farCadence farCadence Datum.asCount?⟩
  | _ => none

def toDatum (s : BlockSettings) : Datum :=
  .record [("enabled", .bool s.enabled), ("near", s.near.toDatum),
    ("far_vertical", .int s.farVertical), ("far_cadence_ticks", .nat s.farCadence)]

end BlockSettings

namespace Settings

def loneCoordinate? (dialect : Dialect) (name : String) (default : Int) (d : Datum) :
    Option Int := do
  match ← d.fieldsNamed? dialect [name] with
  | [value] => Datum.defaulted? default value Datum.asCoordinate?
  | _ => none

def fieldNames : List String :=
  ["master", "ambient", "muted", "fade_ticks", "volume_floor", "aggregation_interval", "effects",
    "biome", "blocks", "ceiling"]

def ofDatum? (dialect : Dialect) (d : Datum) : Option Settings := do
  match ← d.fieldsNamed? dialect fieldNames with
  | [master, ambient, muted, fadeTicks, floor, interval, effects, biome, blocks, ceiling] =>
    return ⟨← Datum.defaulted? standard.master master Datum.asSingle?,
      ← Datum.defaulted? standard.ambient ambient Datum.asSingle?,
      ← Datum.defaulted? standard.muted muted Datum.asBool?,
      ← Datum.defaulted? standard.fadeTicks fadeTicks Datum.asCount?,
      ← Datum.defaulted? standard.floor floor Datum.asSingle?,
      ← Datum.defaulted? standard.interval interval Datum.asCount?,
      ← Datum.defaulted? standard.effectRange effects
        (loneCoordinate? dialect "effect_range" standard.effectRange),
      ← Datum.defaulted? standard.biome biome (BiomeSettings.ofDatum? dialect),
      ← Datum.defaulted? standard.blocks blocks (BlockSettings.ofDatum? dialect),
      ← Datum.defaulted? standard.roofRadius ceiling
        (loneCoordinate? dialect "radius" standard.roofRadius)⟩
  | _ => none

def toDatum (s : Settings) : Datum :=
  .record [("master", .single s.master), ("ambient", .single s.ambient), ("muted", .bool s.muted),
    ("fade_ticks", .nat s.fadeTicks), ("volume_floor", .single s.floor),
    ("aggregation_interval", .nat s.interval),
    ("effects", .record [("effect_range", .int s.effectRange)]), ("biome", s.biome.toDatum),
    ("blocks", s.blocks.toDatum), ("ceiling", .record [("radius", .int s.roofRadius)])]

def ofJson? (text : String) : Option Settings :=
  (Json.read? text).bind (ofDatum? .json)

def toJson (s : Settings) : String := Json.render s.toDatum

def ofToml? (text : String) : Option Settings :=
  (Toml.read? text).bind (ofDatum? .toml)

def tierPairs (t : Tier) : List (String × Datum) :=
  [("radius", .int t.radius), ("vertical", .int t.vertical), ("cadence_ticks", .nat t.cadence)]

/-- The sections of the written settings. In each, plain values stand before further sections. -/
def sections (s : Settings) : List Toml.Section :=
  [⟨[], [("master", .single s.master), ("ambient", .single s.ambient), ("muted", .bool s.muted),
      ("fade_ticks", .nat s.fadeTicks), ("volume_floor", .single s.floor),
      ("aggregation_interval", .nat s.interval)]⟩,
    ⟨["effects"], [("effect_range", .int s.effectRange)]⟩,
    ⟨["biome"], [("enabled", .bool s.biome.enabled),
      ("sea_level_override", .int s.biome.seaLevelOverride),
      ("dimension_blacklist", .list (s.biome.blacklist.map RealmId.toDatum))]⟩,
    ⟨["biome", "scan"], tierPairs s.biome.scan⟩,
    ⟨["blocks"], [("enabled", .bool s.blocks.enabled), ("far_vertical", .int s.blocks.farVertical),
      ("far_cadence_ticks", .nat s.blocks.farCadence)]⟩,
    ⟨["blocks", "near"], tierPairs s.blocks.near⟩,
    ⟨["ceiling"], [("radius", .int s.roofRadius)]⟩]

def toToml (s : Settings) : String := Toml.render s.sections

end Settings

end AmbientSound
