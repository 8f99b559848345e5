import AmbientSound.Number.Shortest
/-!
How digits are laid out as text. A layout record holds the choices of one output; the printers
take the record.
-/
namespace AmbientSound

structure Layout where
  /-- The exponents of the first digit that are written without an exponent; all if absent. -/
  plain : Option (Int × Int)
  pointZero : Bool
  plus : Bool
  nanText : String
  infinityText : String
  tie : Tie

namespace Layout

def zeros (n : Nat) : String := String.ofList (List.replicate n '0')

def plainText (l : Layout) (d : Decimal) : String :=
  let ds := toString d.digits
  if 0 ≤ d.exponent then
    ds ++ zeros d.exponent.toNat ++ (if l.pointZero then ".0" else "")
  else
    let places := (-d.exponent).toNat
    if places < ds.length then
      String.ofList (ds.toList.take (ds.length - places)) ++ "." ++
        String.ofList (ds.toList.drop (ds.length - places))
    else "0." ++ zeros (places - ds.length) ++ ds

def scientificText (l : Layout) (d : Decimal) : String :=
  let e := d.leading
  let mark := if e < 0 then "e-" else if l.plus then "e+" else "e"
  let mantissa := match (toString d.digits).toList with
    | [] => ""
    | [c] => c.toString
    | c :: rest => c.toString ++ "." ++ String.ofList rest
  mantissa ++ mark ++ toString e.natAbs

def isPlain (l : Layout) (d : Decimal) : Bool :=
  match l.plain with
  | none => true
  | some (lo, hi) => decide (lo ≤ d.leading ∧ d.leading ≤ hi)

def magnitudeText (l : Layout) (g : Grid) (x : Exact) : String :=
  if x.mantissa = 0 then (if l.pointZero then "0.0" else "0")
  else
    let d := x.shortest l.tie g
    if l.isPlain d then l.plainText d else l.scientificText d

def finiteText (l : Layout) (g : Grid) (x : Exact) : String :=
  (if x.negative then "-" else "") ++ l.magnitudeText g x

def single (l : Layout) (x : Float32) : String :=
  match Single.exactly? x with
  | some e => l.finiteText .single e
  | none =>
    if x.isNaN then l.nanText
    else if x < 0 then "-" ++ l.infinityText
    else l.infinityText

def double (l : Layout) (x : Float) : String :=
  match Double.exactly? x with
  | some e => l.finiteText .double e
  | none =>
    if x.isNaN then l.nanText
    else if x < 0 then "-" ++ l.infinityText
    else l.infinityText

end Layout

/-- The nearest multiple of a hundredth, counted in hundredths; a half goes to the even one. -/
def Exact.hundredths (x : Exact) : Nat :=
  let (num, den) := x.ratio
  let q := 100 * num / den
  let rest := 100 * num % den
  if Tie.even.roundsUp q rest den then q + 1 else q

/-- A volume with two places. A value that rounds to zero keeps its sign. -/
def twoPlaces (x : Float32) : String :=
  match Single.exactly? x with
  | some e =>
    let h := e.hundredths
    let cents := toString (h % 100)
    (if e.negative then "-" else "") ++ toString (h / 100) ++ "." ++
      (if cents.length < 2 then "0" ++ cents else cents)
  | none => if x.isNaN then "NaN" else if x < 0 then "-inf" else "inf"

end AmbientSound
