import AmbientSound.Host.Trace
import AmbientSound.Session.Basic
import AmbientSound.Proofs.Document.OneLine
/-!
The lines of a trace, written out. What the program renders for a cycle is compact JSON with these
fields in this order.
-/
namespace AmbientSound

def Plain (s : String) : Prop := ∀ c ∈ s.toList, jsonChar c = [c]

-- Named, for the search may prefer to go through all characters there are.
instance (s : String) : Decidable (Plain s) := List.decidableBAll _ s.toList

theorem Plain.quoted {s : String} (plain : Plain s) : jsonQuoted s = "\"" ++ s ++ "\"" := by
  have same : s.toList.flatMap jsonChar = s.toList := by
    rw [List.flatMap_congr plain, List.flatMap_singleton']
  apply String.toList_inj.mp
  simp [jsonQuoted, same]

def objectText (fields : List (String × String)) : String :=
  "\x7b" ++ ",".intercalate (fields.map fun f => "\"" ++ f.1 ++ "\":" ++ f.2) ++ "\x7d"

def flagText (b : Bool) : String := if b then "true" else "false"

def numberText : Option AcousticId → String
  | none => "null"
  | some a => toString a.index

def phaseText : Phase → String
  | .active => "\"Active\""
  | .fading _ => "\"FadingOut\""
  | .done => "\"Done\""

def emitterText (s : Session) (e : Emitter) : String :=
  objectText [("acoustic", toString e.acoustic.index),
    ("name", ((s.repertoire.name? e.acoustic).map jsonQuoted).getD "null"),
    ("state", phaseText e.phase), ("throttle", Json.singleText e.throttle),
    ("volume", Json.singleText e.volume)]

def reportText (r : CycleReport) (tick : Nat) : String :=
  objectText [("tick", toString tick), ("observer_present", flagText r.present),
    ("environment", objectText [("underground", flagText r.environment.underground),
      ("inside", flagText r.environment.inside), ("underwater", flagText r.environment.underwater),
      ("raining", flagText r.environment.raining), ("night", flagText r.environment.night)]),
    ("biome_sounds", flagText r.biomeSounds), ("desired", toString r.desired),
    ("summary", objectText [("started", toString r.summary.started),
      ("continued", toString r.summary.continued), ("unfaded", toString r.summary.unfaded),
      ("faded", toString r.summary.faded), ("reaped", toString r.summary.reaped)]),
    ("region_spot", numberText r.regionSpot), ("observer_spot", numberText r.observerSpot),
    ("emitters", toString r.emitters)]

/-- The line of the cycle on a tick: its report, and the emitters after the tick. -/
def cycleLine (tick : Nat) (c : CycleReport × Session) : String :=
  objectText [("tick", toString tick), ("kind", "\"cycle\""),
    ("payload", objectText [("report", reportText c.1 tick),
      ("emitters", "[" ++ ",".intercalate
        (c.2.roster.emitters.entries.map fun e => emitterText c.2 e.2) ++ "]")])]

end AmbientSound
