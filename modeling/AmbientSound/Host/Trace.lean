import AmbientSound.Document.Json.Writer
import AmbientSound.Playback.Roster
import AmbientSound.Session.Report
/-!
Traces: one record a line.
-/
namespace AmbientSound

structure TraceRecord where
  tick : Nat
  kind : String
  payload : Datum

namespace TraceRecord

def toDatum (r : TraceRecord) : Datum :=
  .record [("tick", .nat r.tick), ("kind", .text r.kind), ("payload", r.payload)]

def line (r : TraceRecord) : String := Json.render r.toDatum ++ "\n"

def ofCycle (r : CycleReport) (emitters : List Diagnostic) : TraceRecord :=
  ⟨r.tick, "cycle", .record [("report", r.toDatum),
    ("emitters", .list (emitters.map Diagnostic.toDatum))]⟩

end TraceRecord

end AmbientSound
