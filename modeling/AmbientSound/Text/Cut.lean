/-!
Pieces of a text between places that are counted in bytes. A character that a place falls into goes
to the piece before the place.
-/
namespace AmbientSound

def dropBytes : Nat → List Char → List Char
  | 0, cs => cs
  | _, [] => []
  | n, c :: cs => dropBytes (n - c.utf8Size) cs

def takeBytes : Nat → List Char → List Char
  | 0, _ => []
  | _, [] => []
  | n, c :: cs => c :: takeBytes (n - c.utf8Size) cs

def piece (whole : List Char) (start stop : Nat) : String :=
  String.ofList (takeBytes (stop - start) (dropBytes start whole))

def findSign (signs : List Char) (place : Nat) : List Char → Nat × List Char
  | [] => (place, [])
  | c :: cs => if signs.contains c then (place, c :: cs) else findSign signs (place + c.utf8Size) cs

end AmbientSound
