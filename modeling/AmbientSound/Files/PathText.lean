/-!
Paths as they are written: names parted by slashes, a slash in front for the top of all files. Two
readings are given. Followed step by step, a path has a step for each name, dots included. Taken
as a name of something, empty names and dots say nothing, except a dot in front.
-/
namespace AmbientSound

namespace PathText

def steps (path : String) : List String := (path.splitOn "/").filter fun n => n ≠ ""

def startsAtTop (path : String) : Bool := path.toList.head? == some '/'

def endsInSlash (path : String) : Bool := path.toList.getLast? == some '/'

def parts (path : String) : List String :=
  match path.splitOn "/" with
  | [] => []
  | "" :: rest =>
    let names := rest.filter fun n => n ≠ "" ∧ n ≠ "."
    if path.isEmpty then names else "/" :: names
  | first :: rest => first :: rest.filter fun n => n ≠ "" ∧ n ≠ "."

/-- Whether a name inside a path leads nowhere else. -/
def isIdle (name : String) : Bool := name == "" || name == "."

/-- The path of the directory above, as it is written: all in front of the last name that leads
anywhere, without the idle names at its end. Empty if there is nothing above. -/
def above (path : String) : String :=
  match path.splitOn "/" with
  | [] => ""
  | first :: rest =>
    match rest.reverse.dropWhile isIdle with
    | [] => ""
    | _ :: before =>
      let kept := (before.dropWhile isIdle).reverse
      if first.isEmpty ∧ kept.isEmpty then "/" else "/".intercalate (first :: kept)

def same (p q : String) : Bool := parts p == parts q

end PathText

end AmbientSound
