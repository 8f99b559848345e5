import AmbientSound.Pattern.Escape
/-!
Classes of characters in brackets. Of a class that can be read only its depth is kept: how many
constructs stand in each other.
-/
namespace AmbientSound.Pattern

/-- The depth of several things side by side. One alone is no construct of its own. -/
def depthOf : List Nat → Nat
  | [] => 0
  | [d] => d
  | ds => 1 + ds.foldl max 0

structure OpenClass where
  left : Option Nat
  items : List Nat
  /-- Whether there are only dashes so far, which stand for themselves. -/
  fresh : Bool
  deriving DecidableEq, Repr

namespace OpenClass

def empty : OpenClass := ⟨none, [], true⟩

def depth (c : OpenClass) : Nat :=
  match c.left with
  | none => depthOf c.items
  | some d => 1 + max d (depthOf c.items)

def add (c : OpenClass) (d : Nat) : OpenClass := ⟨c.left, d :: c.items, false⟩

def addDash (c : OpenClass) : OpenClass := ⟨c.left, 0 :: c.items, true⟩

def operate (c : OpenClass) : OpenClass := ⟨some c.depth, [], false⟩

end OpenClass

namespace CharClass

def names : List String :=
  ["alnum", "alpha", "ascii", "blank", "cntrl", "digit", "graph", "lower", "print", "punct",
    "space", "upper", "word", "xdigit"]

def named? : List Char → Option (Bool × List Char)
  | ':' :: cs =>
    let (negated, cs) := match cs with
      | '^' :: rest => (true, rest)
      | _ => (false, cs)
    match cs.dropWhile (· != ':') with
    | ':' :: ']' :: rest =>
      if names.contains (String.ofList (cs.takeWhile (· != ':'))) then some (negated, rest)
      else none
    | _ => none
  | _ => none

/-- What stands behind an opening bracket and a negation. Of bytes nothing can be negated. -/
def opened? (m : Mode) (cs : List Char) : Option (List Char) :=
  match m.skip cs with
  | '^' :: rest => if m.unicode then some rest else none
  | cs => some cs

def item? (m : Mode) : List Char → Option (Escape × List Char)
  | [] => none
  | '\\' :: rest => Escape.ofChars? m rest
  | c :: rest => some (.literal ⟨c, false⟩, rest)

def isRange (m : Mode) : Escape → Escape → Bool
  | .literal a, .literal b =>
    decide (a.char ≤ b.char) && m.takesInClass a && m.takesInClass b
  | _, _ => false

def member? (m : Mode) (cs : List Char) : Option (List Char) := do
  let (first, rest) ← item? m cs
  let rest := m.skip rest
  let alone := if first.standsInClass m then some rest else none
  match rest with
  | '-' :: after =>
    if m.peek after = some ']' ∨ m.peek after = some '-' then alone
    else
      let (second, rest) ← item? m (m.skip after)
      if isRange m first second then some rest else none
  | _ => alone

def isOperator (c d : Char) : Bool := c == d && (c == '&' || c == '-' || c == '~')

def ownDash : Literal := ⟨'-', false⟩

def ownBracket : Literal := ⟨']', false⟩

def read (m : Mode) : Nat → OpenClass → List OpenClass → List Char → Option (Nat × List Char)
  | 0, _, _, _ => none
  | fuel + 1, inner, outer, cs =>
    match m.skip cs with
    | [] => none
    | c :: rest =>
      if inner.fresh ∧ c = '-' then
        if m.takesInClass ownDash then read m fuel inner.addDash outer rest else none
      else if inner.fresh ∧ inner.items = [] ∧ c = ']' then
        if m.takesInClass ownBracket then read m fuel (inner.add 0) outer rest else none
      else if c = '[' then
        match named? rest with
        | some (negated, rest) =>
          if m.takesNamedClass negated then read m fuel (inner.add 0) outer rest else none
        | none => (opened? m rest).bind fun rest => read m fuel .empty (inner :: outer) rest
      else if c = ']' then
        match outer with
        | [] => some (1 + inner.depth, rest)
        | next :: outer => read m fuel (next.add (1 + inner.depth)) outer rest
      else if rest.head?.any (isOperator c) then read m fuel inner.operate outer (rest.drop 1)
      else (member? m (c :: rest)).bind fun rest => read m fuel (inner.add 0) outer rest

def ofChars? (m : Mode) (cs : List Char) : Option (Nat × List Char) :=
  (opened? m cs).bind fun rest => read m (cs.length + 1) .empty [] rest

end CharClass

end AmbientSound.Pattern
