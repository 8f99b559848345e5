/-!
What a document says before its contents are given a meaning. All document formats are read into
this type and written from it.
-/
namespace AmbientSound

inductive Datum where
  | null
  | bool (b : Bool)
  | int (n : Int)
  | single (x : Float32)
  | double (x : Float)
  | text (s : String)
  | list (items : List Datum)
  /-- Fields in the order of the document; a key may come twice. -/
  | record (fields : List (String × Datum))
  /-- Well-formed but without a value, such as a number beyond all doubles. It can be skipped. -/
  | unreadable
  deriving Inhabited

namespace Datum

mutual

def depth : Datum → Nat
  | .list items => listDepth items + 1
  | .record fields => fieldDepth fields + 1
  | _ => 0

def listDepth : List Datum → Nat
  | [] => 0
  | d :: ds => max (depth d) (listDepth ds)

def fieldDepth : List (String × Datum) → Nat
  | [] => 0
  | (_, d) :: fs => max (depth d) (fieldDepth fs)

end

mutual

def isReadable : Datum → Bool
  | .list items => listReadable items
  | .record fields => fieldsReadable fields
  | .unreadable => false
  | _ => true

def listReadable : List Datum → Bool
  | [] => true
  | d :: ds => isReadable d && listReadable ds

def fieldsReadable : List (String × Datum) → Bool
  | [] => true
  | (_, d) :: fs => isReadable d && fieldsReadable fs

end

/-- Puts a field in its place among fields in ascending order of keys. The later of two fields
with one key stays. -/
def placeField (key : String) (value : Datum) : List (String × Datum) → List (String × Datum)
  | [] => [(key, value)]
  | (k, v) :: fs =>
    if key < k then (key, value) :: (k, v) :: fs
    else if key = k then (key, value) :: fs
    else (k, v) :: placeField key value fs

mutual

def sortFields : Datum → Datum
  | .list items => .list (sortItems items)
  | .record fields => .record (sortedFields fields [])
  | d => d

def sortItems : List Datum → List Datum
  | [] => []
  | d :: ds => sortFields d :: sortItems ds

def sortedFields : List (String × Datum) → List (String × Datum) → List (String × Datum)
  | [], done => done
  | (k, d) :: fs, done => sortedFields fs (placeField k (sortFields d) done)

end

def field? (key : String) : Datum → Option Datum
  | .record fields => (fields.find? fun f => f.1 == key).map (·.2)
  | _ => none

def nat (n : Nat) : Datum := .int n

def optional {α : Type} (f : α → Datum) : Option α → Datum
  | none => .null
  | some a => f a

end Datum

end AmbientSound
