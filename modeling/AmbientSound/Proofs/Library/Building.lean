import AmbientSound.Library.Basic
import AmbientSound.Proofs.Lookup
/-!
A library built by hand: the sets of sounds by their owner, and what is added to them. Each addition
touches the set of one owner, and a name that is entered touches none.
-/
namespace AmbientSound

inductive Owner where
  | region (r : RegionId)
  | observer
  deriving DecidableEq

namespace Library

/-- The sounds of an owner, none if it was given none. -/
def setOf (l : Library) : Owner → SoundSet
  | .region r => l.soundsOf r
  | .observer => l.observer

def put (l : Library) : Owner → SoundSet → Library
  | .region r, s => { l with sets := l.sets.insert r s }
  | .observer, s => { l with observer := s }

def addLoop (l : Library) : Owner → Loop → Library
  | .region r, loop => l.addRegionLoop r loop
  | .observer, loop => l.addObserverLoop loop

def addSpot (l : Library) : Owner → AcousticId → Nat → Float32 → Library
  | .region r, a, weight, chance => l.addRegionSpot r a weight chance
  | .observer, a, weight, chance => l.addObserverSpot a weight chance

variable (l : Library) (o other : Owner) (s : SoundSet)

theorem setOf_put : (l.put o s).setOf other = if o = other then s else l.setOf other := by
  cases o with
  | observer => cases other <;> rfl
  | region r =>
    cases other with
    | observer => rfl
    | region r' =>
      change ((l.sets.insert r s).get? r').getD .empty = _
      rw [IdentMap.get?_insert]
      by_cases own : r = r'
      · rw [if_pos own, if_pos (congrArg Owner.region own)]
        rfl
      · rw [if_neg own, if_neg fun same => own (Owner.region.inj same)]
        rfl

theorem put_put (t : SoundSet) : (l.put o s).put o t = l.put o t := by
  cases o with
  | observer => rfl
  | region r =>
    have same : (l.sets.insert r s).insert r t = l.sets.insert r t := by
      refine IdentMap.ext_get? fun r' => ?_
      simp only [IdentMap.get?_insert]
      split <;> rfl
    exact congrArg (fun sets => { l with sets := sets }) same

@[simp] theorem put_regions : (l.put o s).regions = l.regions := by cases o <;> rfl

@[simp] theorem put_acoustics : (l.put o s).acoustics = l.acoustics := by cases o <;> rfl

theorem addLoop_eq (loop : Loop) : l.addLoop o loop = l.put o ((l.setOf o).addLoop loop) := by
  cases o <;> rfl

theorem addSpot_eq (a : AcousticId) (weight : Nat) (chance : Float32) :
    l.addSpot o a weight chance = l.put o ((l.setOf o).addSpot a weight chance) := by
  cases o <;> rfl

theorem setOf_enterAcoustic (name : String) : (l.enterAcoustic name).2.setOf o = l.setOf o := by
  cases o <;> rfl

theorem setOf_enterRegion (name : String) : (l.enterRegion name).2.setOf o = l.setOf o := by
  cases o <;> rfl

end Library

end AmbientSound
