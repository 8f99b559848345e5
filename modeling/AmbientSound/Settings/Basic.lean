import AmbientSound.Census.Tier
import AmbientSound.World.Realm
/-!
Settings of a session, and the ranges in which they can be used.
-/
namespace AmbientSound

structure BiomeSettings where
  enabled : Bool
  scan : Tier
  /-- The sea level of the overworld, if positive. -/
  seaLevelOverride : Int
  blacklist : List RealmId
  deriving DecidableEq, Repr

structure BlockSettings where
  enabled : Bool
  near : Tier
  farVertical : Int
  farCadence : Nat
  deriving DecidableEq, Repr

structure Settings where
  master : Float32
  ambient : Float32
  muted : Bool
  fadeTicks : Nat
  /-- The least volume of a region that is there at all. -/
  floor : Float32
  interval : Nat
  /-- The range of area effects, which is also the radius of the far census. -/
  effectRange : Int
  biome : BiomeSettings
  blocks : BlockSettings
  roofRadius : Int
  deriving DecidableEq

namespace BiomeSettings

def standard : BiomeSettings := ⟨true, ⟨20, 0, 4⟩, 0, []⟩

end BiomeSettings

namespace BlockSettings

def standard : BlockSettings := ⟨true, ⟨8, 4, 10⟩, 8, 40⟩

end BlockSettings

namespace Settings

def standard : Settings := ⟨1, 0.7, false, 40, 0.05, 4, 24, .standard, .standard, 3⟩

instance : Inhabited Settings := ⟨standard⟩

def scale (s : Settings) : Float32 := if s.muted then 0 else s.master * s.ambient

def toggleMute (s : Settings) : Settings := { s with muted := !s.muted }

def setMaster (s : Settings) (volume : Float32) : Settings :=
  { s with master := Single.clampUnit volume }

def setAmbient (s : Settings) (volume : Float32) : Settings :=
  { s with ambient := Single.clampUnit volume }

def farTier (s : Settings) : Tier := ⟨s.effectRange, s.blocks.farVertical, s.blocks.farCadence⟩

def isBlacklisted (s : Settings) (r : RealmId) : Bool := s.biome.blacklist.contains r

def within (lo hi n : Int) : Int := max lo (min hi n)

def widest : Int := 64

def saneTier (t : Tier) : Tier :=
  ⟨within 0 widest t.radius, within 0 widest t.vertical, max t.cadence 1⟩

/-- The same settings with every value in a range that can be used. A value that is not a number
stays. -/
def sanitized (s : Settings) : Settings :=
  { master := Single.clampUnit s.master
    ambient := Single.clampUnit s.ambient
    muted := s.muted
    fadeTicks := s.fadeTicks
    floor := Single.clampUnit s.floor
    interval := max s.interval 1
    effectRange := within 0 widest s.effectRange
    biome :=
      { enabled := s.biome.enabled
        scan := saneTier s.biome.scan
        seaLevelOverride := within 0 256 s.biome.seaLevelOverride
        blacklist := s.biome.blacklist }
    blocks :=
      { enabled := s.blocks.enabled
        near := saneTier s.blocks.near
        farVertical := within 0 widest s.blocks.farVertical
        farCadence := max s.blocks.farCadence 1 }
    roofRadius := within 0 16 s.roofRadius }

def withoutSingles (s : Settings) : Settings := { s with master := 0, ambient := 0, floor := 0 }

/-- Whether two settings are equal, singles compared as numbers: the zeros are equal, and what is
not a number equals nothing. -/
def agrees (s t : Settings) : Bool :=
  s.master == t.master && s.ambient == t.ambient && s.floor == t.floor &&
    decide (s.withoutSingles = t.withoutSingles)

end Settings

end AmbientSound
