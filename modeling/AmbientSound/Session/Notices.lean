import AmbientSound.Log.Notice
import AmbientSound.Session.Tick
import AmbientSound.Text.Quoted
/-!
What a session tells the log.
-/
namespace AmbientSound

namespace Session

def scanTarget : String := "ambience_world::scanner"

def sessionTarget : String := "ambience_audio::soundscape"

def rosterTarget : String := "ambience_audio::registry"

def sweepNotice (e : Reach × Sweep.Event) : Notice :=
  let scanner := ("scanner", debugQuoted e.1.name)
  match e.2 with
  | .dropped => ⟨.debug, scanTarget, "observer gone, dropping scan state", [scanner]⟩
  | .completed centre tally =>
    ⟨.debug, scanTarget, "scan pass complete",
      [scanner, ("center", centre.text), ("regions", toString tally.counts.size),
        ("area", toString tally.total)]⟩

def spotNotice (a : AcousticId) : Notice :=
  ⟨.debug, sessionTarget, "spot sound", [("acoustic", a.label)]⟩

def startNotice (e : AcousticId × Float32) : Notice :=
  ⟨.debug, rosterTarget, "starting emitter",
    [("acoustic", e.1.label), ("volume", Notice.realText e.2)]⟩

def summaryNotices (s : Summary) (live : Nat) : List Notice :=
  if s = .nothing then []
  else
    [⟨.debug, rosterTarget, "reconciled emitters",
      [("started", toString s.started), ("faded", toString s.faded),
        ("unfaded", toString s.unfaded), ("reaped", toString s.reaped),
        ("live", toString live)]⟩]

def Cycle.notices (c : Cycle) : List Notice :=
  c.report.spots.map spotNotice ++ c.newcomers.map startNotice ++
    summaryNotices c.report.summary c.report.emitters

def TickRecord.notices (r : TickRecord) : List Notice :=
  r.events.map sweepNotice ++ (r.cycle.map Cycle.notices).getD []

def clearNotices (s : Session) : List Notice :=
  if s.roster.size = 0 then []
  else [⟨.debug, rosterTarget, "cleared emitters", [("count", toString s.roster.size)]⟩]

def connectNotices (s : Session) : List Notice :=
  s.clearNotices ++ [⟨.info, sessionTarget, "ambience connected", []⟩]

def disconnectNotices (s : Session) : List Notice :=
  s.clearNotices ++
    [⟨.info, sessionTarget, "ambience disconnected", [("stopped", toString s.roster.size)]⟩]

end Session

end AmbientSound
