import AmbientSound.Number.Exact
import AmbientSound.World.Observer
/-!
A walk laid out in advance: legs, each in a straight line and with its own weather. The observer
of a tick is found from the tick alone.
-/
namespace AmbientSound

structure Leg where
  goal : Position
  ticks : Nat
  night : Bool
  raining : Bool
  underwater : Bool
  alive : Bool
  deriving DecidableEq, Repr

namespace Leg

def toward (goal : Position) (ticks : Nat) : Leg := ⟨goal, max ticks 1, false, false, false, true⟩

def atNight (l : Leg) : Leg := { l with night := true }

def inRain (l : Leg) : Leg := { l with raining := true }

def submerged (l : Leg) : Leg := { l with underwater := true }

def dead (l : Leg) : Leg := { l with alive := false }

def observer (l : Leg) (p : Position) : Observer :=
  ⟨p, .overworld, l.alive, l.underwater, l.raining, l.night⟩

end Leg

structure Walk where
  start : Position
  legs : List Leg
  deriving DecidableEq, Repr

namespace Walk

def length (w : Walk) : Nat := w.legs.foldl (fun sum l => sum + l.ticks) 0

/-- A share of a distance, to the nearest whole number within a word of thirty-two bits. -/
def partOf (distance : Int) (share : Float32) : Int :=
  match Single.exactly? (Single.ofInt distance * share) with
  | some e => max (-2147483648) (min 2147483647 e.nearest)
  | none => 0

def between (a b : Int) (share : Float32) : Int := a + partOf (b - a) share

def point (p q : Position) (share : Float32) : Position :=
  ⟨between p.x q.x share, between p.y q.y share, between p.z q.z share⟩

/-- The observer some ticks after standing at a place before legs. After the last leg they rest. -/
def along (start : Position) : List Leg → Nat → Observer
  | [], _ => .standing start
  | l :: ls, tick =>
    if tick < l.ticks then
      l.observer (point start l.goal (Single.ofNat tick / Single.ofNat l.ticks))
    else along l.goal ls (tick - l.ticks)

def observerAt (w : Walk) (tick : Nat) : Observer := along w.start w.legs tick

end Walk

end AmbientSound
