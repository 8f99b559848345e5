import AmbientSound.Pattern.CharClass
import AmbientSound.Text.Letter
/-!
Whether a text is a pattern: a regular expression that can be made ready for matching. Counts of
repetition are not known, as no brace can close where patterns stand here.
-/
namespace AmbientSound.Pattern

structure Part where
  depth : Nat
  repeatable : Bool
  deriving DecidableEq, Repr

structure Level where
  mode : Mode
  branches : List Nat
  parts : List Part
  deriving DecidableEq, Repr

namespace Level

def start (m : Mode) : Level := ⟨m, [], []⟩

def branchDepth (l : Level) : Nat := depthOf (l.parts.map Part.depth)

def depth (l : Level) : Nat := depthOf (l.branchDepth :: l.branches)

def add (l : Level) (depth : Nat) : Level := { l with parts := ⟨depth, true⟩ :: l.parts }

def nextBranch (l : Level) : Level := ⟨l.mode, l.branchDepth :: l.branches, []⟩

def switchTo (l : Level) (m : Mode) : Level := ⟨m, l.branches, ⟨0, false⟩ :: l.parts⟩

def repeated? (l : Level) : Option Level :=
  match l.parts with
  | ⟨depth, true⟩ :: parts => some { l with parts := ⟨depth + 1, true⟩ :: parts }
  | _ => none

end Level

inductive Opening where
  /-- No group, but another mode for the rest of the group around it. -/
  | switch (m : Mode)
  | group (m : Mode) (name : Option (List Char))
  deriving DecidableEq, Repr

def isNameStart (c : Char) : Bool := c == '_' || isLetter c

def isNameChar (c : Char) : Bool :=
  c == '_' || c == '.' || c == '[' || c == ']' || isLetterOrNumber c

def isGroupName : List Char → Bool
  | [] => false
  | c :: cs => isNameStart c && cs.all isNameChar

namespace Opening

def named? (m : Mode) (names : List (List Char)) (cs : List Char) :
    Option (Opening × List Char) :=
  let name := cs.takeWhile (· != '>')
  match cs.dropWhile (· != '>') with
  | '>' :: rest =>
    if isGroupName name ∧ name ∉ names then some (.group m (some name), rest) else none
  | _ => none

/-- Flags up to a parenthesis, of which there must be one, or up to a colon. -/
def flagged? (m : Mode) (cs : List Char) : Option (Opening × List Char) :=
  let isInside := fun (c : Char) => c != ':' && c != ')'
  let flags := cs.takeWhile isInside
  match cs.dropWhile isInside with
  | ')' :: rest =>
    if flags = [] then none else (m.switched? flags).map fun m => (.switch m, rest)
  | ':' :: rest => (m.switched? flags).map fun m => (.group m none, rest)
  | _ => none

def ofChars? (m : Mode) (names : List (List Char)) : List Char → Option (Opening × List Char)
  | '?' :: 'P' :: '<' :: rest => named? m names rest
  | '?' :: '<' :: rest => named? m names rest
  | '?' :: rest => flagged? m rest
  | cs => some (.group m none, cs)

end Opening

def atom? (m : Mode) (c : Char) (rest : List Char) : Option (List Char) :=
  if c = '\\' then
    (Escape.ofChars? m rest).bind fun (e, rest) => if e.standsAlone m then some rest else none
  else if c = '.' then if m.unicode then some rest else none
  else if c = '^' ∨ c = '$' then some rest
  else if c = '{' then none
  else if m.takes ⟨c, false⟩ then some rest
  else none

def behindRepetition : List Char → List Char
  | '?' :: rest => rest
  | cs => cs

def read : Nat → List (List Char) → Level → List Level → List Char → Option Nat
  | 0, _, _, _, _ => none
  | fuel + 1, names, inner, outer, cs =>
    match inner.mode.skip cs with
    | [] => if outer.isEmpty then some inner.depth else none
    | '(' :: rest =>
      match Opening.ofChars? inner.mode names (inner.mode.skip rest) with
      | some (.switch m, rest) => read fuel names (inner.switchTo m) outer rest
      | some (.group m name, rest) =>
        read fuel (name.toList ++ names) (.start m) (inner :: outer) rest
      | none => none
    | ')' :: rest =>
      match outer with
      | [] => none
      | next :: outer => read fuel names (next.add (1 + inner.depth)) outer rest
    | '|' :: rest => read fuel names inner.nextBranch outer rest
    | '[' :: rest =>
      (CharClass.ofChars? inner.mode rest).bind fun (depth, rest) =>
        read fuel names (inner.add depth) outer rest
    | c :: rest =>
      if c = '*' ∨ c = '+' ∨ c = '?' then
        inner.repeated?.bind fun inner => read fuel names inner outer (behindRepetition rest)
      else (atom? inner.mode c rest).bind fun rest => read fuel names (inner.add 0) outer rest

def depthLimit : Nat := 250

end AmbientSound.Pattern

namespace AmbientSound

open Pattern in
def isPattern (cs : List Char) : Bool :=
  (read (cs.length + 1) [] (.start .standard) [] cs).any fun depth => decide (depth ≤ depthLimit)

end AmbientSound
