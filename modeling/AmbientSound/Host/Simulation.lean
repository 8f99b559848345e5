import AmbientSound.Host.Options
import AmbientSound.Host.Trace
import AmbientSound.Host.Walk
import AmbientSound.Log.Filter
import AmbientSound.Session.Notices
/-!
A session driven along a walk, tick by tick, and what came of it.
-/
namespace AmbientSound

structure Simulation where
  session : Session
  cycles : Nat
  started : Nat
  records : Array TraceRecord
  lines : Array String

namespace Simulation

def shown (filter : LogFilter) (notices : List Notice) : List String :=
  (notices.filter filter.shows).map Notice.text

def tell (filter : LogFilter) (notices : List Notice) (r : Simulation) : Simulation :=
  { r with lines := r.lines ++ shown filter notices }

def start (s : Session) : Simulation := ⟨s, 0, 0, #[], #[]⟩

def diagnosticNotices (s : Session) (tick : Nat) (o : Observer) : List Notice :=
  let place : Notice :=
    ⟨.info, Argument.target, "diagnostics",
      [("tick", toString tick), ("position", o.position.text)]⟩
  place :: s.diagnostics.map fun d => ⟨.info, Argument.target, d.text, []⟩

def looksAt (every tick : Nat) : Bool := every != 0 && tick % every == 0

def enter (r : Simulation) (c : CycleReport) : Simulation :=
  { r with
    cycles := r.cycles + 1
    started := r.started + c.summary.started
    records := r.records.push (.ofCycle c r.session.diagnostics) }

def enterIfAny (r : Simulation) : Option CycleReport → Simulation
  | some c => r.enter c
  | none => r

def step (filter : LogFilter) (every : Nat) (world : World) (o : Observer) (tick : Nat)
    (r : Simulation) : Option Simulation := do
  let (s, done) ← r.session.step world (some o)
  let r := ({ r with session := s }.tell filter done.notices).enterIfAny done.report?
  return if looksAt every tick then r.tell filter (diagnosticNotices s tick o) else r

/-- A number of ticks from a tick on. If one has no outcome, the run so far is the error. -/
def ticks (filter : LogFilter) (every : Nat) (world : World) (walk : Walk) :
    Nat → Nat → Simulation → Except Simulation Simulation
  | 0, _, r => .ok r
  | count + 1, tick, r =>
    match r.step filter every world (walk.observerAt tick) tick with
    | some next => ticks filter every world walk count (tick + 1) next
    | none => .error r

def connect (filter : LogFilter) (r : Simulation) : Simulation :=
  let r := r.tell filter r.session.connectNotices
  { r with session := r.session.connect }

def disconnect (filter : LogFilter) (r : Simulation) : Simulation :=
  let r := r.tell filter r.session.disconnectNotices
  { r with session := r.session.disconnect }

def run (filter : LogFilter) (every : Nat) (world : World) (walk : Walk) (count : Nat)
    (s : Session) : Except Simulation Simulation :=
  (ticks filter every world walk count 0 ((start s).connect filter)).map (disconnect filter)

def traceText (r : Simulation) : String := String.join (r.records.toList.map TraceRecord.line)

end Simulation

end AmbientSound
