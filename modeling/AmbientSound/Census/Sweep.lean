import AmbientSound.Census.Tier
import AmbientSound.Census.Tally
/-!
A census taken a slice a tick. A pass keeps the centre it began with; when its last cell has been
seen its tally is published, and the next pass begins wherever the observer is by then.
-/
namespace AmbientSound

structure Pass where
  centre : Position
  /-- The index of the next cell. -/
  cursor : Nat
  tally : Tally
  deriving DecidableEq

structure Sweep where
  layer : Layer
  tier : Tier
  pass : Option Pass
  published : Tally
  completed : Nat
  deriving DecidableEq

namespace Sweep

def start (layer : Layer) (tier : Tier) : Sweep := ⟨layer, tier, none, .empty, 0⟩

/-- Forgets the pass and the published tally. The number of completed passes stays. -/
def reset (s : Sweep) : Sweep := { s with pass := none, published := .empty }

def currentPass (s : Sweep) (p : Position) : Pass := s.pass.getD ⟨p, 0, .empty⟩

def sliceSize (s : Sweep) (pass : Pass) : Nat := min s.tier.perTick (s.tier.volume - pass.cursor)

def queries (s : Sweep) : Option Position → List Position
  | none => []
  | some p =>
    let pass := s.currentPass p
    s.tier.stretch pass.centre pass.cursor (s.sliceSize pass)

def countStretch (ask : Position → Cell) (tier : Tier) (centre : Position) :
    Nat → Nat → Tally → Tally
  | 0, _, tally => tally
  | count + 1, index, tally =>
    countStretch ask tier centre count (index + 1) (tally.see (ask (tier.cell centre index)))

theorem countStretch_eq (ask : Position → Cell) (tier : Tier) (centre : Position)
    (count index : Nat) (tally : Tally) :
    countStretch ask tier centre count index tally =
      ((tier.stretch centre index count).map ask).foldl Tally.see tally := by
  induction count generalizing index tally with
  | zero => simp [countStretch, Tier.stretch]
  | succ count ih => simp [countStretch, Tier.stretch, List.range'_succ, ih]

def slice (s : Sweep) (w : World) (pass : Pass) : Pass :=
  let count := s.sliceSize pass
  ⟨pass.centre, pass.cursor + count,
    countStretch (w.cell s.layer) s.tier pass.centre count pass.cursor pass.tally⟩

inductive Event where
  /-- State was thrown away because the observer was gone. -/
  | dropped
  | completed (centre : Position) (tally : Tally)
  deriving DecidableEq

def tick (s : Sweep) (w : World) : Option Position → Sweep × Option Event
  | none =>
    (s.reset, if s.pass.isSome || !s.published.isEmpty then some .dropped else none)
  | some p =>
    let pass := s.slice w (s.currentPass p)
    if pass.cursor < s.tier.volume then ({ s with pass := some pass }, none)
    else
      ({ s with pass := none, published := pass.tally, completed := s.completed + 1 },
        some (.completed pass.centre pass.tally))

def Event.isCompletion : Event → Bool
  | .completed .. => true
  | .dropped => false

end Sweep

end AmbientSound
