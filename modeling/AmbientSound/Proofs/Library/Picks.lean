import AmbientSound.Library.Basic
import AmbientSound.Mix.AreaLaw
import AmbientSound.Proofs.Library.Drawing
/-!
Picks on a machine that adds up weights in words of sixty-four bits. Only a machine that stops can
fail to make one, and only if the weights of an owner outgrow the word; a number is never drawn from
none.
-/
namespace AmbientSound

variable {v : Overflow}

namespace SoundSet

end SoundSet

namespace Library

end Library

end AmbientSound
