import AmbientSound.Document.Json.Reader
import AmbientSound.Files.Fault
import AmbientSound.Library.Basic
import AmbientSound.Library.Definition
import AmbientSound.Number.Layout
/-!
From a definition to a library. Entries are taken in order, and the first fault is the answer.
-/
namespace AmbientSound

inductive LoadError where
  | unavailable (path : String) (fault : FileFault)
  | malformed
  /-- A name was blank; the owner is the part of the document it stands in. -/
  | emptyName (owner : String)
  | duplicateRegion (name : String)
  | chanceOutOfRange (owner : String) (chance : Float32)
  | zeroWeight (owner acoustic : String)
  deriving DecidableEq

namespace LoadError

def chanceLayout : Layout := ⟨none, false, false, "NaN", "inf", .away⟩

def message : LoadError → String
  | .unavailable path fault => "failed to read acoustic library " ++ path ++ ": " ++ fault.text
  | .malformed => "failed to parse acoustic library: not a library document"
  | .emptyName owner => "empty name in " ++ owner
  | .duplicateRegion name => "region " ++ name ++ " defined more than once"
  | .chanceOutOfRange owner chance =>
    "spot chance " ++ chanceLayout.single chance ++ " for " ++ owner ++ " is outside 0.0..=1.0"
  | .zeroWeight owner acoustic =>
    "spot sound " ++ acoustic ++ " for " ++ owner ++ " has zero weight"

end LoadError

namespace Library

def enterNamed (l : Library) (owner name : String) : Except LoadError (AcousticId × Library) :=
  if isBlankText name then .error (.emptyName owner) else .ok (l.enterAcoustic name)

def loadAcoustic (l : Library) (e : AcousticEntry) : Except LoadError Library := do
  let (a, l) ← l.enterNamed "acoustics" e.name
  match e.path with
  | some path => return { l with paths := l.paths.insert a path }
  | none => return l

def loadLoop (owner : String) (state : SoundSet × Library) (e : LoopEntry) :
    Except LoadError (SoundSet × Library) := do
  let (a, l) ← state.2.enterNamed owner e.acoustic
  return (state.1.addLoop ⟨a, e.condition⟩, l)

/-- The weight is looked at before the name. -/
def loadSpot (owner : String) (state : SoundSet × Library) (e : SpotEntry) :
    Except LoadError (SoundSet × Library) := do
  if e.weight = 0 then throw (.zeroWeight owner e.acoustic)
  let (a, l) ← state.2.enterNamed owner e.acoustic
  return ({ state.1 with spots := state.1.spots ++ [⟨a, e.weight, e.condition⟩] }, l)

def isChance (x : Float32) : Bool := decide (0 ≤ x ∧ x ≤ 1)

def loadSet (l : Library) (owner : String) (e : SetEntry) :
    Except LoadError (SoundSet × Library) := do
  if !isChance e.chance then throw (.chanceOutOfRange owner e.chance)
  let state ← e.loops.foldlM (loadLoop owner) (⟨[], e.chance, []⟩, l)
  e.spots.foldlM (loadSpot owner) state

def loadRegion (l : Library) (e : RegionEntry) : Except LoadError Library := do
  if isBlankText e.region then throw (.emptyName "regions")
  if (l.findRegion? e.region).isSome then throw (.duplicateRegion e.region)
  let (r, l) := l.enterRegion e.region
  let (set, l) ← l.loadSet e.region e.sounds
  return { l with sets := l.sets.insert r set }

def ofDefinition (d : Definition) : Except LoadError Library := do
  let l ← d.acoustics.foldlM loadAcoustic empty
  let l ← d.regions.foldlM loadRegion l
  let (observer, l) ← l.loadSet "observer" d.observer
  return { l with observer := observer }

def ofText (text : String) : Except LoadError Library :=
  match (Json.read? text).bind Definition.ofDatum? with
  | some d => ofDefinition d
  | none => .error .malformed

end Library

end AmbientSound
