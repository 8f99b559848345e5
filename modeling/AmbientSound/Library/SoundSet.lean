import AmbientSound.Ident
import AmbientSound.Library.Condition
import AmbientSound.Random.Draw
/-!
The sounds of one region, or of the observer: loops that apply under conditions, and spot sounds
drawn by weight.
-/
namespace AmbientSound

structure Loop where
  acoustic : AcousticId
  condition : Condition
  deriving DecidableEq, Repr

structure Spot where
  acoustic : AcousticId
  weight : Nat
  condition : Condition
  deriving DecidableEq, Repr

structure SoundSet where
  loops : List Loop
  chance : Float32
  spots : List Spot
  deriving DecidableEq

namespace SoundSet

def empty : SoundSet := ⟨[], 0, []⟩

instance : Inhabited SoundSet := ⟨empty⟩

/-- The loops that apply, each acoustic once, at its first place. -/
def matching (s : SoundSet) (e : Environment) : List AcousticId :=
  ((s.loops.filter fun l => l.condition.holds e).map (·.acoustic)).eraseDups

def eligible (s : SoundSet) (e : Environment) : List Spot :=
  s.spots.filter fun p => p.condition.holds e

def totalWeight (spots : List Spot) : Nat := spots.foldl (fun sum p => sum + p.weight) 0

/-- The spot sound in whose share of the total weight a number falls. -/
def atWeight? : List Spot → Nat → Option AcousticId
  | [], _ => none
  | p :: ps, n => if n < p.weight then some p.acoustic else atWeight? ps (n - p.weight)

/-- Perhaps a spot sound. Nothing is drawn if there are no spot sounds or no chance. The second
draw is made only if the first is below the chance and some spot sound applies. -/
def pickSpot (s : SoundSet) (e : Environment) (source : Source) : Option AcousticId × Source :=
  if s.spots.isEmpty ∨ s.chance ≤ 0 then (none, source)
  else
    let (u, source) := source.unit
    if s.chance ≤ u then (none, source)
    else
      let spots := s.eligible e
      if totalWeight spots = 0 then (none, source)
      else
        let (n, source) := source.below (totalWeight spots)
        (atWeight? spots n, source)

def addLoop (s : SoundSet) (l : Loop) : SoundSet := { s with loops := s.loops ++ [l] }

/-- Adds a spot sound that always applies, and sets the chance of the whole set. -/
def addSpot (s : SoundSet) (a : AcousticId) (weight : Nat) (chance : Float32) : SoundSet :=
  { s with chance := Single.clampUnit chance, spots := s.spots ++ [⟨a, max weight 1, .always⟩] }

end SoundSet

end AmbientSound
