import AmbientSound.Number.Layout
import AmbientSound.Text.Quoted
/-!
Lines of the log: a level, where the line comes from, a message and named values.
-/
namespace AmbientSound

inductive Level where
  | error
  | warn
  | info
  | debug
  | trace
  deriving DecidableEq, Repr

namespace Level

def rank : Level → Nat
  | .error => 1
  | .warn => 2
  | .info => 3
  | .debug => 4
  | .trace => 5

def name : Level → String
  | .error => "ERROR"
  | .warn => "WARN"
  | .info => "INFO"
  | .debug => "DEBUG"
  | .trace => "TRACE"

end Level

structure Notice where
  level : Level
  target : String
  message : String
  values : List (String × String)
  deriving DecidableEq, Repr

namespace Notice

/-- Reals in the log are plain from a ten-thousandth to below ten quadrillion. -/
def realLayout : Layout := ⟨some (-4, 15), true, false, "NaN", "inf", .away⟩

def realText (x : Float32) : String := realLayout.double (Single.toDouble x)

def valueNames (n : Notice) : List String := "message" :: n.values.map Prod.fst

def text (n : Notice) : String :=
  n.level.name ++ " " ++ n.target ++ ": " ++ messageText n.message ++
    String.join (n.values.map fun v => " " ++ v.1 ++ "=" ++ v.2)

end Notice

end AmbientSound
