import AmbientSound.Files.Tree
/-!
What a program can do with files, wherever they are kept.
-/
namespace AmbientSound

structure Disk (m : Type → Type) where
  read : String → m (Except FileFault String)
  write : String → String → m (Except FileFault Unit)
  makeRoom : String → m (Except FileFault Unit)

namespace FileTree

/-- A change to the tree, which stays as it is if the change fails. -/
def changed (f : FileTree → Except FileFault FileTree) : StateM FileTree (Except FileFault Unit) :=
  fun t =>
    match f t with
    | .ok t => (.ok (), t)
    | .error fault => (.error fault, t)

def disk : Disk (StateM FileTree) where
  read path := fun t => (t.read path, t)
  write path content := changed fun t => t.write path content
  makeRoom path := changed fun t => t.makeRoom path

end FileTree

end AmbientSound
