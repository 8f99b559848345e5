/-!
Natural numbers of at most sixty-four bits from decimal text. A plus sign may stand in front.
-/
namespace AmbientSound

inductive WordFault where
  | noDigits
  | invalidDigit
  | tooLarge
  deriving DecidableEq, Repr

namespace WordFault

def text : WordFault → String
  | .noDigits => "cannot parse integer from empty string"
  | .invalidDigit => "invalid digit found in string"
  | .tooLarge => "number too large to fit in target type"

end WordFault

namespace Word

/-- One more digit. A character that is none is refused before a number that is too large. -/
def push (n : Nat) (c : Char) : Except WordFault Nat :=
  if ¬ c.isDigit then .error .invalidDigit
  else if UInt64.size ≤ 10 * n + (c.toNat - '0'.toNat) then .error .tooLarge
  else .ok (10 * n + (c.toNat - '0'.toNat))

def ofChars : List Char → Except WordFault Nat
  | [] => .error .noDigits
  | ['+'] => .error .invalidDigit
  | '+' :: digits => digits.foldlM push 0
  | digits => digits.foldlM push 0

def ofText (text : String) : Except WordFault Nat := ofChars text.toList

end Word

end AmbientSound
