import AmbientSound.Text.Blank
/-!
The ways in which a pattern can be read, the flags that switch between them, and what each takes.
No tables of cases and properties are at hand, so what needs them is refused; and nothing may match
bytes that are no text.
-/
namespace AmbientSound.Pattern

structure Mode where
  unicode : Bool
  folded : Bool
  spaced : Bool
  deriving DecidableEq, Repr

structure Literal where
  char : Char
  raw : Bool
  deriving DecidableEq, Repr

namespace Mode

def standard : Mode := ⟨true, false, false⟩

def passOver : Bool → List Char → List Char
  | _, [] => []
  | true, c :: cs => passOver (c != '\n') cs
  | false, c :: cs =>
    if isBlank c then passOver false cs
    else if c = '#' then passOver true cs
    else c :: cs

def skip (m : Mode) (cs : List Char) : List Char := if m.spaced then passOver false cs else cs

/-- The next sign behind blanks. Of a comment only its mark is passed over. -/
def peek (m : Mode) (cs : List Char) : Option Char :=
  if m.spaced then
    match cs.dropWhile isBlank with
    | '#' :: rest => (rest.dropWhile isBlank).head?
    | rest => rest.head?
  else cs.head?

def takes (m : Mode) (l : Literal) : Bool :=
  if m.unicode then !m.folded else !l.raw || decide (l.char.toNat < 0x80)

def takesInClass (m : Mode) (l : Literal) : Bool :=
  if m.unicode then !m.folded else decide (l.char.toNat < 0x80)

def takesNamedClass (m : Mode) (negated : Bool) : Bool :=
  if m.unicode then !m.folded else !negated

def takesShorthand (m : Mode) (negated : Bool) : Bool := !m.unicode && !negated

def flags : List Char := ['i', 'm', 's', 'U', 'u', 'R', 'x']

/-- Switches one flag. Those that do not bear on how a pattern is read change nothing. -/
def switch (on : Bool) (m : Mode) (flag : Char) : Mode :=
  if flag = 'u' then { m with unicode := on }
  else if flag = 'i' then { m with folded := on }
  else if flag = 'x' then { m with spaced := on }
  else m

/-- Switches flags on, and those behind a minus off. No flag may be named twice. -/
def switched? (m : Mode) (cs : List Char) : Option Mode :=
  let on := cs.takeWhile (· != '-')
  let off := (cs.dropWhile (· != '-')).drop 1
  if on.length < cs.length ∧ off = [] then none
  else if (on ++ off).all flags.contains ∧ (on ++ off).Nodup then
    some (off.foldl (switch false) (on.foldl (switch true) m))
  else none

end Mode

end AmbientSound.Pattern
