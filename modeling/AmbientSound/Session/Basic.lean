import AmbientSound.Mix.AreaLaw
import AmbientSound.Session.Report
import AmbientSound.Session.Sweeps
import AmbientSound.World.Roof
/-!
A session of one observer: everything that one tick leaves for the next. A session is born
disconnected, and then ignores ticks.
-/
namespace AmbientSound

structure Session where
  settings : Settings
  repertoire : Repertoire
  output : Output
  sweeps : Sweeps
  roof : Roof
  roster : Roster
  /-- The number of ticks taken while connected. -/
  tick : Nat
  seed : UInt64
  connected : Bool
  environment : Environment
  lastCycle : Option CycleReport

namespace Session

/-- A new session. The settings are sanitized before anything is sized by them. -/
def start (settings : Settings) (repertoire : Repertoire) (output : Output) (seed : UInt64) :
    Session :=
  let settings := settings.sanitized
  { settings := settings
    repertoire := repertoire
    output := output
    sweeps := .start settings
    roof := .start settings.roofRadius
    roster := .vacant settings.fadeTicks
    tick := 0
    seed := seed
    connected := false
    environment := .calm
    lastCycle := none }

def forget (s : Session) : Session :=
  { s with sweeps := s.sweeps.reset, roof := s.roof.reset, environment := .calm, lastCycle := none }

def clear (s : Session) : Session :=
  let (roster, output) := s.roster.clear s.output
  { s with roster := roster, output := output }

def reset (s : Session) : Session := s.clear.forget

def connect (s : Session) : Session := { s.reset with connected := true }

def disconnect (s : Session) : Session :=
  let s := s.clear
  { forget { s with output := s.output.stopAll } with connected := false }

def diagnostics (s : Session) : List Diagnostic := s.roster.diagnostics s.repertoire.name?

end Session

end AmbientSound
