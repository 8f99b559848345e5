import AmbientSound.Document.Toml.Statement
/-!
The table that statements describe. Nothing is defined twice: a key is assigned once, a table
has one header, and a table grown by dotted keys is not opened by a header.
-/
namespace AmbientSound.Toml

inductive Origin where
  /-- It is named in front of another name in a header. -/
  | implied
  /-- It is named in front of another name in an assigned key. -/
  | dotted
  /-- It has a header of its own. -/
  | header
  deriving DecidableEq

inductive Entry where
  | value (d : Datum)
  | table (origin : Origin) (fields : List (String × Entry))
  /-- A list of tables, grown by headers in double brackets; the latest element first. -/
  | elements (tables : List (List (String × Entry)))
  deriving Inhabited

abbrev Fields := List (String × Entry)

namespace Fields

def find? (fields : Fields) (key : String) : Option Entry := fields.lookup key

def set (key : String) (e : Entry) : Fields → Fields
  | [] => [(key, e)]
  | (k, old) :: rest => if k = key then (k, e) :: rest else (k, old) :: set key e rest

def assign (value : Datum) : List String → Fields → Option Fields
  | [], _ => none
  | [key], fields =>
    match fields.find? key with
    | some _ => none
    | none => some (fields.set key (.value value))
  | key :: next :: path, fields =>
    match fields.find? key with
    | none => do
      let inner ← assign value (next :: path) []
      return fields.set key (.table .dotted inner)
    | some (.table origin inner) =>
      if origin = .header ∨ (path = [] ∧ origin = .implied) then none
      else do
        let inner ← assign value (next :: path) inner
        return fields.set key (.table origin inner)
    | some (.elements (last :: earlier)) =>
      if path = [] then none
      else do
        let last ← assign value (next :: path) last
        return fields.set key (.elements (last :: earlier))
    | some _ => none

/-- Applies a change to the table at a path, making the tables on the way that are missing. In a
list of tables the way goes on in the last one. -/
def change (f : Fields → Option Fields) : List String → Fields → Option Fields
  | [], fields => f fields
  | key :: path, fields =>
    match fields.find? key with
    | none => do return fields.set key (.table .implied (← change f path []))
    | some (.table origin inner) => do
      return fields.set key (.table origin (← change f path inner))
    | some (.elements (last :: earlier)) => do
      return fields.set key (.elements ((← change f path last) :: earlier))
    | some _ => none

def openTable (key : String) (fields : Fields) : Option Fields :=
  match fields.find? key with
  | none => some (fields.set key (.table .header []))
  | some (.table .implied inner) => some (fields.set key (.table .header inner))
  | some _ => none

def openElement (key : String) (fields : Fields) : Option Fields :=
  match fields.find? key with
  | none => some (fields.set key (.elements [[]]))
  | some (.elements tables) => some (fields.set key (.elements ([] :: tables)))
  | some _ => none

mutual

def datum : Fields → List (String × Datum)
  | [] => []
  | (k, e) :: rest => (k, entryDatum e) :: datum rest

def entryDatum : Entry → Datum
  | .value d => d
  | .table _ fields => .record (datum fields)
  | .elements tables => .list (elementData tables).reverse

def elementData : List Fields → List Datum
  | [] => []
  | t :: ts => .record (datum t) :: elementData ts

end

end Fields

mutual

def Value.datum? : Value → Option Datum
  | .scalar d => some d
  | .list items => (itemData? items).map .list
  | .braced pairs => (pairFields? pairs []).map fun fields => .record fields.datum

def itemData? : List Value → Option (List Datum)
  | [] => some []
  | v :: vs => do return (← v.datum?) :: (← itemData? vs)

def pairFields? : List (List String × Value) → Fields → Option Fields
  | [], fields => some fields
  | (key, v) :: rest, fields => do pairFields? rest (← fields.assign (← v.datum?) key)

end

structure Draft where
  root : Fields
  current : List String

def Draft.step (t : Draft) : Statement → Option Draft
  | .assign key v => do
    let d ← v.datum?
    return ⟨← t.root.change (·.assign d key) t.current, t.current⟩
  | .table path => do
    let last ← path.getLast?
    return ⟨← t.root.change (·.openTable last) path.dropLast, path⟩
  | .element path => do
    let last ← path.getLast?
    return ⟨← t.root.change (·.openElement last) path.dropLast, path⟩

def read? (s : String) : Option Datum := do
  let table ← (← statements? s).foldlM Draft.step ⟨[], []⟩
  return .record table.root.datum

end AmbientSound.Toml
