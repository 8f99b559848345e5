import AmbientSound.Text.Alphabetic
import AmbientSound.Text.Numeric
/-!
Letters and numbers of any script.
-/
namespace AmbientSound

def isLetter (c : Char) : Bool := alphabetic.has c

def isLetterOrNumber (c : Char) : Bool := alphabetic.has c || numeric.has c

end AmbientSound
