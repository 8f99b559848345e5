import AmbientSound.Main
import AmbientSound.Proofs.Census.Cadence
import AmbientSound.Proofs.Census.Merging
import AmbientSound.Proofs.Host.Arguments
import AmbientSound.Proofs.Host.Completion
import AmbientSound.Proofs.Host.Saving
import AmbientSound.Proofs.Interning
import AmbientSound.Proofs.Library.Chances
import AmbientSound.Proofs.Library.Rebuilding
import AmbientSound.Proofs.Mix.LastWrite
import AmbientSound.Proofs.Playback.Ramp
import AmbientSound.Proofs.Playback.Repetition
import AmbientSound.Proofs.Session.Absence
import AmbientSound.Proofs.Session.Bookkeeping
import AmbientSound.Proofs.Session.Checked
import AmbientSound.Proofs.Session.CleanSlate
import AmbientSound.Proofs.Session.Decision
import AmbientSound.Proofs.Session.Independence
import AmbientSound.Proofs.Settings.Usable
import AmbientSound.Proofs.World.Edits
