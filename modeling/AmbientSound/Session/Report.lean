import AmbientSound.Playback.Roster
import AmbientSound.World.Observer
/-!
What one cycle decided.
-/
namespace AmbientSound

structure CycleReport where
  tick : Nat
  present : Bool
  environment : Environment
  biomeSounds : Bool
  desired : Nat
  summary : Summary
  regionSpot : Option AcousticId
  observerSpot : Option AcousticId
  emitters : Nat
  deriving DecidableEq, Repr

namespace CycleReport

def spots (r : CycleReport) : List AcousticId := r.regionSpot.toList ++ r.observerSpot.toList

def toDatum (r : CycleReport) : Datum :=
  .record [("tick", .nat r.tick), ("observer_present", .bool r.present),
    ("environment", r.environment.toDatum), ("biome_sounds", .bool r.biomeSounds),
    ("desired", .nat r.desired), ("summary", r.summary.toDatum),
    ("region_spot", .optional (fun a => .nat a.index) r.regionSpot),
    ("observer_spot", .optional (fun a => .nat a.index) r.observerSpot),
    ("emitters", .nat r.emitters)]

end CycleReport

end AmbientSound
