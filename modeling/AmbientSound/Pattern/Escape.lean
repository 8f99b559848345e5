import AmbientSound.Pattern.Mode
/-!
What a backslash and the characters behind it stand for.
-/
namespace AmbientSound.Pattern

inductive Escape where
  | literal (l : Literal)
  | shorthand (negated : Bool)
  | edge (ofWord : Bool)
  deriving DecidableEq, Repr

namespace Escape

def digitValue? (c : Char) : Option Nat :=
  let n := c.toNat
  if 48 ≤ n ∧ n ≤ 57 then some (n - 48)
  else if 65 ≤ n ∧ n ≤ 70 then some (n - 55)
  else if 97 ≤ n ∧ n ≤ 102 then some (n - 87)
  else none

/-- Reads a number of hexadecimal digits; blanks may stand before each. -/
def number? (m : Mode) : Nat → Nat → List Char → Option (Nat × List Char)
  | 0, n, cs => some (n, cs)
  | count + 1, n, cs =>
    match m.skip cs with
    | [] => none
    | c :: rest => (digitValue? c).bind fun d => number? m count (16 * n + d) rest

def widths : List (Char × Nat) := [('x', 2), ('u', 4), ('U', 8)]

def controls : List (Char × Nat) :=
  [('a', 0x7), ('f', 0xC), ('t', 0x9), ('n', 0xA), ('r', 0xD), ('v', 0xB)]

def edges : List (Char × Bool) :=
  [('A', false), ('z', false), ('b', true), ('B', true), ('<', true), ('>', true)]

def shorthands : List (Char × Bool) :=
  [('d', false), ('s', false), ('w', false), ('D', true), ('S', true), ('W', true)]

def isPlain (c : Char) : Bool := decide (c.toNat < 0x80) && !c.isAlphanum

def ofChars? (m : Mode) : List Char → Option (Escape × List Char)
  | [] => none
  | c :: rest =>
    match widths.lookup c with
    | some width =>
      (number? m width 0 rest).bind fun (n, rest) =>
        if n.isValidChar then some (.literal ⟨Char.ofNat n, c == 'x'⟩, rest) else none
    | none =>
      match controls.lookup c, edges.lookup c, shorthands.lookup c with
      | some n, _, _ => some (.literal ⟨Char.ofNat n, false⟩, rest)
      | _, some ofWord, _ => some (.edge ofWord, rest)
      | _, _, some negated => some (.shorthand negated, rest)
      | _, _, _ => if isPlain c then some (.literal ⟨c, false⟩, rest) else none

def standsAlone (m : Mode) : Escape → Bool
  | .literal l => m.takes l
  | .shorthand negated => m.takesShorthand negated
  | .edge ofWord => !ofWord || !m.unicode

def standsInClass (m : Mode) : Escape → Bool
  | .literal l => m.takesInClass l
  | .shorthand negated => m.takesShorthand negated
  | .edge _ => false

end Escape

end AmbientSound.Pattern
