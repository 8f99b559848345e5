import AmbientSound.Document.Datum
import AmbientSound.Number.Layout
import AmbientSound.Text.Quoted
/-!
Compact JSON text.
-/
namespace AmbientSound.Json

/-- Singles are written plainly from a millionth to below ten trillion. A value that is not
finite is null. -/
def singleLayout : Layout := ⟨some (-6, 12), true, true, "null", "null", .even⟩

/-- Doubles are written plainly from a hundred-thousandth to below ten quadrillion. -/
def doubleLayout : Layout := ⟨some (-5, 15), true, true, "null", "null", .even⟩

def singleText (x : Float32) : String :=
  match Single.exactly? x with
  | some e => singleLayout.finiteText .single e
  | none => "null"

def doubleText (x : Float) : String :=
  match Double.exactly? x with
  | some e => doubleLayout.finiteText .double e
  | none => "null"

mutual

def render : Datum → String
  | .null => "null"
  | .bool b => if b then "true" else "false"
  | .int n => toString n
  | .single x => singleText x
  | .double x => doubleText x
  | .text s => jsonQuoted s
  | .list items => "[" ++ ",".intercalate (renderItems items) ++ "]"
  | .record fields => "\x7b" ++ ",".intercalate (renderFields fields) ++ "\x7d"
  | .unreadable => "null"

def renderItems : List Datum → List String
  | [] => []
  | d :: ds => render d :: renderItems ds

def renderFields : List (String × Datum) → List String
  | [] => []
  | (k, d) :: fs => (jsonQuoted k ++ ":" ++ render d) :: renderFields fs

end

end AmbientSound.Json
