import AmbientSound.Mix.Volumes
import AmbientSound.Mix.Repertoire
import AmbientSound.Census.Tally
/-!
From tallies to volumes. A region that is there at all has the floor volume, one that is all
there is has full volume, and in between the volume grows with the share of the area.
-/
namespace AmbientSound

structure AreaLaw where
  floor : Float32
  deriving DecidableEq

namespace AreaLaw

def ofFloor (floor : Float32) : AreaLaw := ⟨Single.clampUnit floor⟩

def standardFloor : Float32 := 0.05

def standard : AreaLaw := ofFloor standardFloor

/-- The volume of a region from its count and the area. It has no value when the floor is not a
number and the region is there but not all there is. -/
def volume? (law : AreaLaw) (count total : Nat) : Option Float32 :=
  if count = 0 ∨ total = 0 then some 0
  else if total ≤ count then some 1
  else
    let share := Single.ofNat count / Single.ofNat total
    Single.clamp? law.floor 1 (law.floor + (1 - law.floor) * share)

def addRegion (law : AreaLaw) (sounds : Repertoire) (env : Environment) (total : Nat) (m : Mix)
    (e : RegionId × Nat) : Option Mix := do
  let v ← law.volume? e.2 total
  if v ≤ 0 then return m else return m.putAll v (sounds.candidates e.1 env)

def accumulate (law : AreaLaw) (sounds : Repertoire) (env : Environment) (m : Mix) (t : Tally) :
    Option Mix :=
  if t.total = 0 then some m
  else t.counts.entries.foldlM (law.addRegion sounds env t.total) m

/-- The mix of several tallies, the later ones winning. -/
def aggregate (law : AreaLaw) (sounds : Repertoire) (env : Environment) (ts : List Tally) :
    Option Mix :=
  ts.foldlM (law.accumulate sounds env) .empty

end AreaLaw

def Mix.putAlways (m : Mix) (sounds : List AcousticId) : Mix := m.putAll 1 sounds

def Repertoire.tallySpot (sounds : Repertoire) (t : Tally) (env : Environment) (source : Source) :
    Option AcousticId × Source :=
  match t.dominant with
  | some r => sounds.regionSpot r env source
  | none => (none, source)

end AmbientSound
