import AmbientSound.Number.Exact
/-!
Written decimal numbers and the two readings of them: the exact one, rounded once, and the one
that first gathers the digits fitting a machine word and then scales by a power of ten.
-/
namespace AmbientSound

structure Numeral where
  negative : Bool
  whole : List Nat
  fraction : List Nat
  exponentNegative : Bool
  exponent : List Nat
  deriving DecidableEq, Repr

def digitsValue (base : Nat) (ds : List Nat) : Nat := ds.foldl (fun n d => n * base + d) 0

namespace Numeral

def written (x : Numeral) : Int :=
  let e : Int := digitsValue 10 x.exponent
  if x.exponentNegative then -e else e

def signed (x : Numeral) (f : Float) : Float := if x.negative then -f else f

def nearest (x : Numeral) : Float :=
  x.signed (.ofModel (.ofScientific (digitsValue 10 (x.whole ++ x.fraction))
    (x.written - x.fraction.length)))

def largestWord : Nat := UInt64.size - 1

/-- Takes digits into the significand as long as it fits a word, and counts the others. -/
def gather (significand : Nat) : List Nat → Nat × Nat
  | [] => (significand, 0)
  | d :: ds =>
    if significand * 10 + d ≤ largestWord then gather (significand * 10 + d) ds
    else (significand, ds.length + 1)

def powerOfTen (e : Nat) : Float := .ofModel (.ofScientific 1 e)

/-- Scales by a power of ten in steps of at most `10 ^ 308`. A value that grows beyond all
doubles has no reading; one that shrinks to zero stays there. -/
def scaleFuel : Nat → Float → Int → Option Float
  | 0, f, _ => some f
  | fuel + 1, f, e =>
    if e.natAbs ≤ 308 then
      if 0 ≤ e then
        let g := f * powerOfTen e.natAbs
        if g.isInf then none else some g
      else some (f / powerOfTen e.natAbs)
    else if f == 0 then some f
    else if 0 ≤ e then none
    else scaleFuel fuel (f / powerOfTen 308) (e + 308)

def largestExponent : Nat := UInt32.size / 2 - 1

def scaled? (x : Numeral) : Option Float :=
  let (head, skipped) := gather 0 x.whole
  let (significand, unread) := gather head x.fraction
  let places : Int := (skipped : Int) - (x.fraction.length - unread : Nat)
  let size := digitsValue 10 x.exponent
  if largestExponent < size then
    if significand ≠ 0 ∧ x.exponentNegative = false then none else some (x.signed 0)
  else
    (scaleFuel 8 (Double.ofNat significand) (places + x.written)).map x.signed

end Numeral

end AmbientSound
