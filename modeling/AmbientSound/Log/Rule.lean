import AmbientSound.Number.RealText
import AmbientSound.Number.Word
import AmbientSound.Pattern.Reader
import AmbientSound.Text.Cut
/-!
One rule on what the log shows. A rule is a rank, or a scope, or a scope, an equals sign and a
rank. A scope is a target, or a span in brackets, or both; in the brackets the name of the span may
be followed, or replaced, by the name of a value in braces.
-/
namespace AmbientSound

structure WantedValue where
  name : String
  /-- What the value has to be; anything if absent. -/
  content : Option String
  deriving DecidableEq, Repr

structure FilterRule where
  /-- The beginning of the targets that the rule is for; all if absent. -/
  target : Option String
  /-- The span that a line has to be told in; any or none if absent. -/
  span : Option String
  value : Option WantedValue
  rank : Nat
  deriving DecidableEq, Repr

namespace FilterRule

def fullRank : Nat := 5

def rankNames : List (String × Nat) :=
  [("off", 0), ("error", 1), ("warn", 2), ("info", 3), ("debug", 4), ("trace", 5)]

/-- The rank that a number or a name stands for, whatever the case of its letters. -/
def rank? (name : String) : Option Nat :=
  match Word.ofText name with
  | .ok n => if n ≤ 5 then some n else none
  | .error _ => rankNames.lookup name.toLower

def isContent (cs : List Char) : Bool := isRealText cs || isPattern cs

def wanted? (text : String) : Option WantedValue :=
  match text.splitOn "=" with
  | name :: content :: _ => if isContent content.toList then some ⟨name, some content⟩ else none
  | _ => if text.isEmpty then none else some ⟨text, none⟩

def withRank (whole : List Char) (start : Nat) (r : FilterRule) : Option FilterRule :=
  let name := String.ofList (dropBytes start whole)
  if name.isEmpty then some { r with rank := fullRank }
  else (rank? name).map fun rank => { r with rank := rank }

def behindScope (whole : List Char) (start : Nat) (r : FilterRule) :
    List Char → Option FilterRule
  | [] => some { r with rank := fullRank }
  | '=' :: _ => withRank whole (start + 1) r
  | _ => none

def bracketed (whole : List Char) (target : Option String) (start : Nat) (cs : List Char) :
    Option FilterRule :=
  match findSign [']', '\x7b'] start cs with
  | (stop, ']' :: rest) =>
    behindScope whole (stop + 1) ⟨target, some (piece whole start stop), none, fullRank⟩ rest
  | (stop, '\x7b' :: rest) =>
    let name := piece whole start stop
    match findSign ['\x7d'] (stop + 1) rest with
    | (last, '\x7d' :: ']' :: rest) =>
      (wanted? (piece whole (stop + 1) last)).bind fun value =>
        behindScope whole (last + 2)
          ⟨target, if name.isEmpty then none else some name, some value, fullRank⟩ rest
    | _ => none
  | _ => none

def plain (whole cs : List Char) : Option FilterRule :=
  match findSign ['=', '['] 0 cs with
  | (stop, '=' :: _) => withRank whole (stop + 1) ⟨some (piece whole 0 stop), none, none, fullRank⟩
  | (stop, '[' :: rest) => bracketed whole (some (piece whole 0 stop)) (stop + 1) rest
  | _ =>
    let name := String.ofList whole
    match rank? name with
    | some rank => some ⟨none, none, none, rank⟩
    | none => some ⟨some name, none, none, fullRank⟩

def startsPlain (c : Char) : Bool :=
  c == '-' || c == ':' || c == '_' || isLetterOrNumber c

/-- The rule that a text describes. Blanks at its ends are passed over when its signs are looked
for, and the places of the signs are counted without them; the pieces are cut from the text with
its blanks. -/
def ofText? (text : String) : Option FilterRule :=
  let whole := text.toList
  match trimChars whole with
  | [] => none
  | '[' :: rest => bracketed whole none 1 rest
  | c :: rest => if startsPlain c then plain whole (c :: rest) else none

def isStanding (r : FilterRule) : Bool :=
  r.span.isNone && r.value.all fun v => v.content.isNone

end FilterRule

end AmbientSound
