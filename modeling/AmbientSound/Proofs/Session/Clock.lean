import Mathlib.Algebra.Order.Floor.Div
import AmbientSound.Proofs.Session.Bookkeeping
import AmbientSound.Proofs.Session.Loudness
/-!
The clock of a session. It counts the ticks that come while the session is connected, and on every
multiple of the interval there is a cycle, whose report bears the number of the tick.
-/
namespace AmbientSound

def Deed.leaves (on : Bool) : Deed → Bool
  | .connect => true
  | .disconnect => false
  | _ => on

namespace Session

def heard : Bool → List Deed → Nat
  | _, [] => 0
  | on, d :: ds => (if on && d.isTick then 1 else 0) + heard (d.leaves on) ds

section Clock

variable {s t : Session} {w : World} {o : Option Observer} {r : TickRecord}

end Clock

section Outcomes

variable {given : Settings} {sounds : Repertoire} {s t : Session}

end Outcomes

end Session

end AmbientSound
