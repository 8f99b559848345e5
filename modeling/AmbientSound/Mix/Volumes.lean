import AmbientSound.IdentMap
import AmbientSound.Number.Exact
/-!
The wanted volume of each acoustic. A later write to an acoustic replaces the earlier one.
-/
namespace AmbientSound

structure Mix where
  volumes : IdentMap .acoustic Float32
  deriving DecidableEq

namespace Mix

def empty : Mix := ⟨.empty⟩

instance : Inhabited Mix := ⟨empty⟩

/-- A volume as it is stored: within the unit interval, and zero unless finite. -/
def stored (volume : Float32) : Float32 := if volume.isFinite then Single.clampUnit volume else 0

def put (m : Mix) (a : AcousticId) (volume : Float32) : Mix := ⟨m.volumes.insert a (stored volume)⟩

def putAll (m : Mix) (volume : Float32) (as : List AcousticId) : Mix :=
  as.foldl (fun m a => m.put a volume) m

def ofList (entries : List (AcousticId × Float32)) : Mix :=
  entries.foldl (fun m e => m.put e.1 e.2) empty

def get? (m : Mix) (a : AcousticId) : Option Float32 := m.volumes.get? a

def volume (m : Mix) (a : AcousticId) : Float32 := (m.get? a).getD 0

def contains (m : Mix) (a : AcousticId) : Bool := m.volumes.contains a

def erase (m : Mix) (a : AcousticId) : Mix := ⟨m.volumes.erase a⟩

def size (m : Mix) : Nat := m.volumes.size

def isEmpty (m : Mix) : Bool := m.volumes.isEmpty

def toList (m : Mix) : List (AcousticId × Float32) := m.volumes.entries

def wants (m : Mix) (a : AcousticId) : Bool :=
  match m.get? a with
  | some v => decide (0 < v)
  | none => false

def wanted (m : Mix) : Nat := m.toList.countP fun e => decide (0 < e.2)

end Mix

end AmbientSound
