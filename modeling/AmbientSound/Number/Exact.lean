/-!
Singles and doubles as exact binary numbers, and the roundings between them. Every rounding
goes to the nearest neighbour, a tie to the even mantissa.
-/
namespace AmbientSound

open Float.Model (Format UnpackedFloat)
open Float.Model.UnpackedFloat (Sign)

/-- A finite binary number, plus or minus `mantissa * 2 ^ exponent`. Zero keeps its sign. -/
structure Exact where
  negative : Bool
  mantissa : Nat
  exponent : Int
  deriving DecidableEq, Repr

namespace Exact

def ofUnpacked : UnpackedFloat → Option Exact
  | .finite s m e _ => some ⟨s == .negative, m, e⟩
  | .zero s => some ⟨s == .negative, 0, 0⟩
  | _ => none

def ratio (x : Exact) : Nat × Nat :=
  if 0 ≤ x.exponent then (x.mantissa <<< x.exponent.toNat, 1)
  else (x.mantissa, 1 <<< (-x.exponent).toNat)

/-- The nearest integer, a half going away from zero. -/
def nearest (x : Exact) : Int :=
  let (num, den) := x.ratio
  let magnitude : Nat := (2 * num + den) / (2 * den)
  if x.negative then -(magnitude : Int) else magnitude

end Exact

def reround (format : Format) : UnpackedFloat → UnpackedFloat
  | .finite s m e _ => .round format s m e
  | u => u

namespace Single

def ofNat (n : Nat) : Float32 := .ofModel (.ofNat n)

def ofInt (n : Int) : Float32 := .ofModel (.ofInt n)

def ofDouble (x : Float) : Float32 := .ofModel (.pack (reround .binary32 x.toModel.unpack))

def toDouble (x : Float32) : Float := .ofModel (.pack (reround .binary64 x.toModel.unpack))

def exactly? (x : Float32) : Option Exact := Exact.ofUnpacked x.toModel.unpack

def infinity : Float32 := .ofModel (.pack (.infinity .positive))

def nan : Float32 := .ofModel (.pack .notANumber)

/-- `x` moved into the range from `lo` to `hi`. Not a number stays as it is, and so does a zero
of either sign between the bounds. -/
def clamp (lo hi x : Float32) : Float32 :=
  if x < lo then lo else if hi < x then hi else x

abbrev clampUnit (x : Float32) : Float32 := clamp 0 1 x

/-- `clamp`, refused unless the bounds are in order. A bound that is not a number is not. -/
def clamp? (lo hi x : Float32) : Option Float32 :=
  if lo ≤ hi then some (clamp lo hi x) else none

end Single

namespace Double

def ofNat (n : Nat) : Float := .ofModel (.ofNat n)

def ofInt (n : Int) : Float := .ofModel (.ofInt n)

def exactly? (x : Float) : Option Exact := Exact.ofUnpacked x.toModel.unpack

def infinity : Float := .ofModel (.pack (.infinity .positive))

def nan : Float := .ofModel (.pack .notANumber)

end Double

end AmbientSound
