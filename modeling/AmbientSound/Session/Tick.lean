import AmbientSound.Session.Cycle
/-!
One tick of a session: the censuses go on, every so many ticks there is a cycle, and every emitter
takes a step.
-/
namespace AmbientSound

/-- Whether a tick falls on a multiple of an interval. An interval of zero counts as one. -/
def fallsOn (tick interval : Nat) : Bool := tick % max interval 1 == 0

namespace Session

structure TickRecord where
  events : List (Reach × Sweep.Event)
  cycle : Option Cycle

def TickRecord.idle : TickRecord := ⟨[], none⟩

def TickRecord.report? (r : TickRecord) : Option CycleReport := r.cycle.map (·.report)

def isDue (s : Session) : Bool := fallsOn s.tick s.settings.interval

def cycleIfDue (s : Session) (w : World) (o : Option Observer) :
    Option (Session × Option Cycle) :=
  if s.isDue then
    (s.cycle w o).map fun done => ({ done.1 with lastCycle := some done.2.report }, some done.2)
  else some (s, none)

def finishTick (s : Session) : Session :=
  let (roster, output) := s.roster.tickAll s.settings.scale s.output
  { s with roster := roster, output := output, tick := s.tick + 1 }

def tickConnected (s : Session) (w : World) (o : Option Observer) :
    Option (Session × TickRecord) := do
  let o := o.filter (·.alive)
  let (sweeps, events) := s.sweeps.tick s.settings w (o.map (·.position))
  let (s, cycle) ← cycleIfDue { s with sweeps := sweeps } w o
  return (s.finishTick, ⟨events, cycle⟩)

/-- One tick. An observer who is not alive is as good as none. The tick has no outcome when the
area law has no value. -/
def step (s : Session) (w : World) (o : Option Observer) : Option (Session × TickRecord) :=
  if s.connected then s.tickConnected w o else some (s, .idle)

end Session

end AmbientSound
