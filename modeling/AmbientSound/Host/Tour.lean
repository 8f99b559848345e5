import AmbientSound.Host.Walk
import AmbientSound.Library.Basic
import AmbientSound.World.Terrain
/-!
The tour: a small world with a forest, a plain and a sea, and a walk that comes through all of it.
-/
namespace AmbientSound

namespace Tour

def spawn : Position := ⟨0, 64, 0⟩

/-- The world of the tour, its regions entered into a library. Forest around the start, with
leaves above and lava below; plains to the east with a roofed shelter; then the sea. -/
def world (l : Library) : Library × Terrain :=
  let (forest, l) := l.enterRegion "biome:forest"
  let (plains, l) := l.enterRegion "biome:plains"
  let (sea, l) := l.enterRegion "biome:ocean"
  let (water, l) := l.enterRegion "block:water"
  let (lava, l) := l.enterRegion "block:lava"
  let (leaves, l) := l.enterRegion "block:leaves"
  (l, (Terrain.flat (some forest) 63).edits
    [.paint ⟨⟨40, 120⟩, ⟨-40, 40⟩⟩ plains,
      .paint ⟨⟨121, 220⟩, ⟨-40, 40⟩⟩ sea,
      .fill ⟨⟨121, 56, -12⟩, ⟨220, 62, 12⟩⟩ water,
      .fill ⟨⟨-6, 67, -6⟩, ⟨6, 70, 6⟩⟩ leaves,
      .fill ⟨⟨-4, 22, -4⟩, ⟨4, 25, 4⟩⟩ lava,
      .raise ⟨⟨60, 70⟩, ⟨-5, 5⟩⟩ 72])

def walk : Walk :=
  ⟨spawn,
    [.toward spawn 200, .toward ⟨65, 64, 0⟩ 300, (Leg.toward ⟨65, 64, 0⟩ 200).inRain,
      .toward ⟨170, 64, 0⟩ 300, (Leg.toward ⟨170, 55, 0⟩ 100).submerged,
      (Leg.toward spawn 400).atNight, (Leg.toward ⟨0, 28, 0⟩ 200).atNight,
      (Leg.toward ⟨0, 28, 0⟩ 60).dead, .toward spawn 200]⟩

end Tour

end AmbientSound
