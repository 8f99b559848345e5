import AmbientSound.IdentMap
import AmbientSound.Library.SoundSet
import AmbientSound.Mix.Repertoire
import AmbientSound.NameTable
/-!
The sound library: names of regions and acoustics, and the sounds of each region and of the
observer.
-/
namespace AmbientSound

structure Library where
  regions : NameTable .region
  acoustics : NameTable .acoustic
  paths : IdentMap .acoustic String
  sets : IdentMap .region SoundSet
  observer : SoundSet
  deriving DecidableEq

namespace Library

def empty : Library := ⟨.empty, .empty, .empty, .empty, .empty⟩

instance : Inhabited Library := ⟨empty⟩

def enterRegion (l : Library) (name : String) : RegionId × Library :=
  let (r, regions) := l.regions.intern name
  (r, { l with regions := regions })

def enterAcoustic (l : Library) (name : String) : AcousticId × Library :=
  let (a, acoustics) := l.acoustics.intern name
  (a, { l with acoustics := acoustics })

/-- The sounds of a region, none if it was given none. -/
def soundsOf (l : Library) (r : RegionId) : SoundSet := (l.sets.get? r).getD .empty

def addRegionLoop (l : Library) (r : RegionId) (loop : Loop) : Library :=
  { l with sets := l.sets.insert r ((l.soundsOf r).addLoop loop) }

def addRegionSpot (l : Library) (r : RegionId) (a : AcousticId) (weight : Nat)
    (chance : Float32) : Library :=
  { l with sets := l.sets.insert r ((l.soundsOf r).addSpot a weight chance) }

def addObserverLoop (l : Library) (loop : Loop) : Library :=
  { l with observer := l.observer.addLoop loop }

def addObserverSpot (l : Library) (a : AcousticId) (weight : Nat) (chance : Float32) : Library :=
  { l with observer := l.observer.addSpot a weight chance }

def findRegion? (l : Library) (name : String) : Option RegionId := l.regions.find? name

def findAcoustic? (l : Library) (name : String) : Option AcousticId := l.acoustics.find? name

def regionName? (l : Library) (r : RegionId) : Option String := l.regions.name? r

def acousticName? (l : Library) (a : AcousticId) : Option String := l.acoustics.name? a

def assetPath? (l : Library) (a : AcousticId) : Option String := l.paths.get? a

def regionCount (l : Library) : Nat := l.sets.size

def candidates (l : Library) (r : RegionId) (e : Environment) : List AcousticId :=
  (l.soundsOf r).matching e

def regionSpot (l : Library) (r : RegionId) (e : Environment) (source : Source) :
    Option AcousticId × Source :=
  (l.soundsOf r).pickSpot e source

def alwaysOn (l : Library) (e : Environment) : List AcousticId := l.observer.matching e

def observerSpot (l : Library) (e : Environment) (source : Source) : Option AcousticId × Source :=
  l.observer.pickSpot e source

def repertoire (l : Library) : Repertoire :=
  ⟨l.candidates, l.regionSpot, l.alwaysOn, l.observerSpot, l.acousticName?⟩

end Library

end AmbientSound
