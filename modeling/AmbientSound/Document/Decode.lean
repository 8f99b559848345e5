import AmbientSound.Document.Datum
import AmbientSound.Number.Exact
/-!
Typed readings of data. A reading answers nothing when the datum does not have the wanted form.
A record may be given as a list of its fields in order.
-/
namespace AmbientSound

/-- Where document formats differ in what they accept. -/
structure Dialect where
  /-- A list that stands for a record may have more items than the record has fields. -/
  surplusItems : Bool
  /-- A record without fields may stand for null. -/
  emptyRecordAsNull : Bool
  deriving DecidableEq, Repr

namespace Dialect

def json : Dialect := ⟨false, false⟩

/-- JSON out of a part that was kept whole before it was read. -/
def keptJson : Dialect := ⟨false, true⟩

def toml : Dialect := ⟨true, false⟩

end Dialect

namespace Datum

def asBool? : Datum → Option Bool
  | .bool b => some b
  | _ => none

def asText? : Datum → Option String
  | .text s => some s
  | _ => none

def asIntWithin? (lo hi : Int) : Datum → Option Int
  | .int n => if lo ≤ n ∧ n ≤ hi then some n else none
  | _ => none

def asCoordinate? (d : Datum) : Option Int := d.asIntWithin? (-2147483648) 2147483647

def asCount? (d : Datum) : Option Nat := (d.asIntWithin? 0 4294967295).map Int.toNat

def asLongCount? (d : Datum) : Option Nat :=
  (d.asIntWithin? 0 18446744073709551615).map Int.toNat

/-- A single; integers are rounded once, doubles once more. -/
def asSingle? : Datum → Option Float32
  | .int n => some (Single.ofInt n)
  | .double x => some (Single.ofDouble x)
  | _ => none

def asList? {α : Type} (f : Datum → Option α) : Datum → Option (List α)
  | .list items => items.mapM f
  | _ => none

def asOptional? {α : Type} (f : Datum → Option α) : Datum → Option (Option α)
  | .null => some none
  | d => (f d).map some

def isNullIn (dialect : Dialect) : Datum → Bool
  | .null => true
  | .record [] => dialect.emptyRecordAsNull
  | _ => false

/-- A name out of a table, given as text or as a record of that one name and null. -/
def asName? {α : Type} (dialect : Dialect) (names : List (String × α)) : Datum → Option α
  | .text s => names.lookup s
  | .record [(s, d)] => if d.isNullIn dialect then names.lookup s else none
  | _ => none

/-- The values given for a record's fields, in the order of the fields. A field given twice is
refused; a key that names no field is skipped. -/
def fieldsNamed? (dialect : Dialect) (names : List String) : Datum → Option (List (Option Datum))
  | .record fields =>
    names.mapM fun name =>
      match fields.filter fun f => f.1 == name with
      | [] => some none
      | [f] => some (some f.2)
      | _ => none
  | .list items =>
    if items.length ≤ names.length ∨ dialect.surplusItems then
      some ((items.map some ++ List.replicate names.length none).take names.length)
    else none
  | _ => none

def required? {α : Type} (given : Option Datum) (f : Datum → Option α) : Option α := given.bind f

def defaulted? {α : Type} (default : α) (given : Option Datum) (f : Datum → Option α) :
    Option α :=
  match given with
  | none => some default
  | some d => f d

end Datum

end AmbientSound
