import AmbientSound.World.Observer
import AmbientSound.Ident
import AmbientSound.Random.Draw
/-!
Where sounds come from, as the answers that a mix needs.
-/
namespace AmbientSound

structure Repertoire where
  candidates : RegionId → Environment → List AcousticId
  regionSpot : RegionId → Environment → Source → Option AcousticId × Source
  alwaysOn : Environment → List AcousticId
  observerSpot : Environment → Source → Option AcousticId × Source
  name? : AcousticId → Option String

def Repertoire.anonymous (r : Repertoire) : Repertoire := { r with name? := fun _ => none }

end AmbientSound
