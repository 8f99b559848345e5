/-!
Whether a text writes a real number: a sign or none, and then a name for a value that is not finite,
or digits with at most one point among them and an exponent or none.
-/
namespace AmbientSound

namespace RealText

def withoutSign : List Char → List Char
  | '+' :: cs => cs
  | '-' :: cs => cs
  | cs => cs

def names : List String := ["inf", "infinity", "nan"]

def isName (cs : List Char) : Bool := names.contains (String.ofList cs).toLower

def isDigits (cs : List Char) : Bool := !cs.isEmpty && cs.all Char.isDigit

def isExponent : List Char → Bool
  | [] => true
  | c :: cs => (c == 'e' || c == 'E') && isDigits (withoutSign cs)

def behindDigits? (cs : List Char) : Option (List Char) :=
  let whole := cs.takeWhile Char.isDigit
  match cs.dropWhile Char.isDigit with
  | '.' :: rest =>
    let fraction := rest.takeWhile Char.isDigit
    if whole.isEmpty && fraction.isEmpty then none else some (rest.dropWhile Char.isDigit)
  | rest => if whole.isEmpty then none else some rest

def isUnsigned (cs : List Char) : Bool := isName cs || (behindDigits? cs).any isExponent

end RealText

def isRealText (cs : List Char) : Bool := RealText.isUnsigned (RealText.withoutSign cs)

end AmbientSound
