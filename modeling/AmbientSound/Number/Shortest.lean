import AmbientSound.Number.Exact
/-!
Shortest decimal digits. A binary number owns the interval of reals that round to it, both ends
included when its mantissa is even. Of the decimals in that interval one with the fewest digits
is chosen, and among those the nearest. Who prints says which of two equally near ones is taken.
-/
namespace AmbientSound

structure Decimal where
  digits : Nat
  exponent : Int
  deriving DecidableEq, Repr

namespace Decimal

def digitCount (n : Nat) : Nat := (Nat.toDigits 10 n).length

def stripZeros : Nat → Decimal → Decimal
  | 0, d => d
  | fuel + 1, d =>
    if d.digits ≠ 0 ∧ d.digits % 10 = 0 then stripZeros fuel ⟨d.digits / 10, d.exponent + 1⟩ else d

def leading (d : Decimal) : Int := d.exponent + digitCount d.digits - 1

def exponentOf (num den : Nat) : Int :=
  let guess : Int := (digitCount num : Int) - digitCount den
  let reached : Bool :=
    if 0 ≤ guess then decide (den * Nat.pow 10 guess.toNat ≤ num)
    else decide (den ≤ num * Nat.pow 10 (-guess).toNat)
  if reached then guess else guess - 1

end Decimal

inductive Tie where
  | even
  | away
  deriving DecidableEq, Repr

def Tie.roundsUp (tie : Tie) (below rest den : Nat) : Bool :=
  match tie with
  | .even => decide (den < 2 * rest) || (2 * rest == den && below % 2 == 1)
  | .away => decide (den ≤ 2 * rest)

/-- How a binary format places its numbers: digits in a mantissa, and the least exponent. -/
structure Grid where
  mantissaBits : Nat
  leastExponent : Int

namespace Grid

def single : Grid := ⟨24, -149⟩

def double : Grid := ⟨53, -1074⟩

end Grid

namespace Exact

def atBinadeStart (g : Grid) (x : Exact) : Bool :=
  x.mantissa == 1 <<< (g.mantissaBits - 1) && decide (g.leastExponent < x.exponent)

/-- Whether the decimal `digits * 10 ^ e` rounds to `x`. All is compared in quarter steps. -/
def owns (g : Grid) (x : Exact) (digits : Nat) (e : Int) : Bool :=
  let scale : Nat := Nat.pow 10 e.toNat <<< (2 - x.exponent).toNat
  let unit : Nat := Nat.pow 10 (-e).toNat <<< (x.exponent - 2).toNat
  let point := digits * scale
  let low := (4 * x.mantissa - if x.atBinadeStart g then 1 else 2) * unit
  let high := (4 * x.mantissa + 2) * unit
  if x.mantissa % 2 = 0 then decide (low ≤ point ∧ point ≤ high)
  else decide (low < point ∧ point < high)

/-- The better of the two neighbours of `x` on the grid of multiples of `10 ^ e`, if one of them
rounds to `x`. -/
def neighbour (tie : Tie) (g : Grid) (x : Exact) (e : Int) : Option Nat :=
  let (n, d) := x.ratio
  let num := n * Nat.pow 10 (-e).toNat
  let den := d * Nat.pow 10 e.toNat
  let below := num / den
  let rest := num % den
  let up := tie.roundsUp below rest den
  let first := if up then below + 1 else below
  let second := if up then below else below + 1
  if x.owns g first e then some first
  else if x.owns g second e then some second
  else none

def shortest (tie : Tie) (g : Grid) (x : Exact) : Decimal :=
  let (num, den) := x.ratio
  let top := Decimal.exponentOf num den
  let found := (List.range 17).findSome? fun (n : Nat) =>
    let e := top - (n : Int)
    (x.neighbour tie g e).map fun digits => Decimal.stripZeros 20 ⟨digits, e⟩
  found.getD ⟨num, 0⟩

end Exact

end AmbientSound
