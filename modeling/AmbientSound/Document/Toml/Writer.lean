import AmbientSound.Document.Datum
import AmbientSound.Number.Layout
/-!
TOML text in sections: first the assignments without a header, then each header with its own.
-/
namespace AmbientSound.Toml

/-- Reals are written without an exponent and always with a point. -/
def realLayout : Layout := ⟨none, true, false, "nan", "inf", .away⟩

def scalarText : Datum → String
  | .bool b => if b then "true" else "false"
  | .int n => toString n
  | .single x => realLayout.double (Single.toDouble x)
  | .double x => realLayout.double x
  | _ => ""

/-- A list of two or more items has a line for each. -/
def valueText : Datum → String
  | .list [] => "[]"
  | .list [d] => "[" ++ scalarText d ++ "]"
  | .list items => "[\n" ++ String.join (items.map fun d => "    " ++ scalarText d ++ ",\n") ++ "]"
  | d => scalarText d

structure Section where
  path : List String
  pairs : List (String × Datum)

namespace Section

def headerText : List String → String
  | [] => ""
  | path => "\n[" ++ ".".intercalate path ++ "]\n"

def render (s : Section) : String :=
  headerText s.path ++ String.join (s.pairs.map fun p => p.1 ++ " = " ++ valueText p.2 ++ "\n")

end Section

def render (sections : List Section) : String := String.join (sections.map Section.render)

end AmbientSound.Toml
