import AmbientSound.World.Observer
/-!
When a sound applies: a condition on the environment.
-/
namespace AmbientSound

inductive Condition where
  | always
  | day
  | night
  | raining
  | underwater
  | underground
  | inside
  | outside
  deriving DecidableEq, Repr

namespace Condition

def holds (e : Environment) : Condition → Bool
  | .always => true
  | .day => !e.night
  | .night => e.night
  | .raining => e.raining
  | .underwater => e.underwater
  | .underground => e.underground
  | .inside => e.inside
  | .outside => !e.inside

def name : Condition → String
  | .always => "always"
  | .day => "day"
  | .night => "night"
  | .raining => "raining"
  | .underwater => "underwater"
  | .underground => "underground"
  | .inside => "inside"
  | .outside => "outside"

def all : List Condition :=
  [.always, .day, .night, .raining, .underwater, .underground, .inside, .outside]

def toDatum (c : Condition) : Datum := .text c.name

def ofDatum? (dialect : Dialect) (d : Datum) : Option Condition :=
  d.asName? dialect (all.map fun c => (c.name, c))

end Condition

end AmbientSound
