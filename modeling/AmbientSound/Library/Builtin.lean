import AmbientSound.Library.Load
/-!
The library that is always at hand.
-/
namespace AmbientSound

namespace Definition

def filed (name : String) : AcousticEntry := ⟨name, some ("sounds/" ++ name ++ ".ogg")⟩

def quiet (region : String) (loops : List LoopEntry) : RegionEntry := ⟨region, loops, 0, []⟩

def builtin : Definition where
  acoustics :=
    ["ambient/forest_day", "ambient/forest_night", "ambient/plains_wind", "ambient/ocean_waves",
      "ambient/desert_wind", "ambient/nether_rumble", "ambient/stream", "ambient/lava",
      "ambient/leaves", "ambient/rain", "ambient/underwater", "ambient/cave", "spot/woodpecker",
      "spot/owl", "spot/gull", "spot/cave_drip"].map filed
  regions :=
    [⟨"biome:forest", [⟨"ambient/forest_day", .day⟩, ⟨"ambient/forest_night", .night⟩], 0.05,
        [⟨"spot/woodpecker", 3, .day⟩, ⟨"spot/owl", 1, .night⟩]⟩,
      quiet "biome:plains" [⟨"ambient/plains_wind", .always⟩],
      ⟨"biome:ocean", [⟨"ambient/ocean_waves", .always⟩], 0.03, [⟨"spot/gull", 1, .day⟩]⟩,
      quiet "biome:desert" [⟨"ambient/desert_wind", .always⟩],
      quiet "biome:nether_wastes" [⟨"ambient/nether_rumble", .always⟩],
      quiet "block:water" [⟨"ambient/stream", .always⟩],
      quiet "block:lava" [⟨"ambient/lava", .always⟩],
      quiet "block:leaves" [⟨"ambient/leaves", .outside⟩]]
  observer :=
    ⟨[⟨"ambient/rain", .raining⟩, ⟨"ambient/underwater", .underwater⟩,
        ⟨"ambient/cave", .underground⟩], 0.02, [⟨"spot/cave_drip", 1, .underground⟩]⟩

end Definition

namespace Library

def builtin : Library := (ofDefinition .builtin).toOption.getD empty

end Library

end AmbientSound
