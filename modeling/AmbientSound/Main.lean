import AmbientSound.Host.Program
/-!
The command line: the program over the files of the system.
-/
namespace AmbientSound

def FileFault.ofSystem : IO.Error → FileFault
  | .noFileOrDirectory .. => .missing
  | .alreadyExists .. => .exists
  | e@(.inappropriateType _ code _) =>
    if code = 20 then .notDirectory
    else if code = 21 then .isDirectory
    else .refused (toString e)
  | e@(.invalidArgument _ code _) =>
    if code = 36 then .nameTooLong else .refused (toString e)
  | e => .refused (toString e)

def attempt {α : Type} (action : IO α) : IO (Except FileFault α) := do
  try return .ok (← action)
  catch e => return .error (.ofSystem e)

def systemDisk : Disk IO where
  read path := do
    match ← attempt (IO.FS.readBinFile path) with
    | .error fault => return .error fault
    | .ok bytes =>
      match String.fromUTF8? bytes with
      | some text => return .ok text
      | none => return .error .notText
  write path content := attempt (IO.FS.writeFile path content)
  makeRoom path := do
    let directory := PathText.above path
    if directory.isEmpty then return .ok () else attempt (IO.FS.createDirAll directory)

def logVariable : String := "RUST_LOG"

end AmbientSound

open AmbientSound in
def main (args : List String) : IO UInt32 := do
  let filter := LogFilter.ofSetting (← IO.getEnv logVariable)
  let outcome ← Host.run systemDisk filter args
  for line in outcome.out do
    IO.println line
  for line in outcome.err do
    IO.eprintln line
  return UInt32.ofNat outcome.code
