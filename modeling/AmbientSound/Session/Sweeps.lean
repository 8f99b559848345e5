import AmbientSound.Census.Sweep
import AmbientSound.Settings.Basic
/-!
The three censuses of a session.
-/
namespace AmbientSound

inductive Reach where
  | biome
  | near
  | far
  deriving DecidableEq, Repr

def Reach.name : Reach → String
  | .biome => "biome"
  | .near => "near"
  | .far => "far"

structure Sweeps where
  biome : Sweep
  near : Sweep
  far : Sweep
  deriving DecidableEq

namespace Sweeps

def start (s : Settings) : Sweeps :=
  ⟨.start .biome s.biome.scan, .start .blocks s.blocks.near, .start .blocks s.farTier⟩

def reset (s : Sweeps) : Sweeps := ⟨s.biome.reset, s.near.reset, s.far.reset⟩

def tickIf (enabled : Bool) (w : World) (p : Option Position) (s : Sweep) :
    Sweep × Option Sweep.Event :=
  if enabled then s.tick w p else (s, none)

def named (reach : Reach) (e : Option Sweep.Event) : List (Reach × Sweep.Event) :=
  e.toList.map fun event => (reach, event)

def tick (s : Sweeps) (settings : Settings) (w : World) (p : Option Position) :
    Sweeps × List (Reach × Sweep.Event) :=
  let (biome, biomeEvent) := tickIf settings.biome.enabled w p s.biome
  let (near, nearEvent) := tickIf settings.blocks.enabled w p s.near
  let (far, farEvent) := tickIf settings.blocks.enabled w p s.far
  (⟨biome, near, far⟩, named .biome biomeEvent ++ named .near nearEvent ++ named .far farEvent)

end Sweeps

end AmbientSound
