import AmbientSound.Files.Disk
import AmbientSound.Library.Builtin
import AmbientSound.Log.Notice
import AmbientSound.Settings.Document
/-!
Settings and the library out of files. Neither reading ever fails: what cannot be used is replaced,
and the log is told.
-/
namespace AmbientSound

namespace Host

def configTarget : String := "ambience::config"

def settingsPath : String := "config/ambience.toml"

def libraryPath : String := "config/acoustics.json"

def settingsOf : Except FileFault String → Settings
  | .ok text => ((Settings.ofToml? text).getD .standard).sanitized
  | .error _ => Settings.standard.sanitized

/-- That the usual file is missing is said in other words. -/
def settingsNotices (path : String) : Except FileFault String → List Notice
  | .ok text =>
    match Settings.ofToml? text with
    | some _ => []
    | none => [⟨.warn, configTarget,
        "Failed to parse " ++ path ++ ": not a settings document. Using defaults", []⟩]
  | .error fault =>
    if PathText.same path settingsPath ∧ fault = .missing then
      [⟨.warn, configTarget, "Ambience config not found at " ++ path ++ ". Using defaults", []⟩]
    else
      [⟨.warn, configTarget, "Failed to read " ++ path ++ ": " ++ fault.text ++ ". Using defaults",
        []⟩]

def libraryIn (path : String) : Except FileFault String → Except LoadError Library
  | .ok text => Library.ofText text
  | .error fault => .error (.unavailable path fault)

def libraryOf (path : String) (contents : Except FileFault String) : Library :=
  match libraryIn path contents with
  | .ok l => l
  | .error _ => .builtin

def loadedNotice (l : Library) : Notice :=
  ⟨.debug, "ambience_audio::acoustics", "loaded acoustic library",
    [("regions", toString l.regions.size), ("acoustics", toString l.acoustics.size)]⟩

def libraryNotices (path : String) (contents : Except FileFault String) : List Notice :=
  match libraryIn path contents with
  | .ok l => [loadedNotice l]
  | .error fault =>
    [⟨.warn, configTarget, fault.message ++ ". Using built-in acoustic library", []⟩,
      loadedNotice .builtin]

/-- What a failed attempt to write is reported as: what was attempted, if that is said, and why. -/
structure WriteError where
  attempt : Option String
  fault : FileFault
  deriving DecidableEq, Repr

namespace WriteError

def lines (e : WriteError) : List String :=
  match e.attempt with
  | some attempt => ["Error: " ++ attempt, "", "Caused by:", "    " ++ e.fault.text]
  | none => ["Error: " ++ e.fault.text]

end WriteError

def saveSettings {m : Type → Type} [Monad m] (disk : Disk m) (s : Settings) (path : String) :
    m (Except WriteError Unit) := do
  match ← disk.makeRoom path with
  | .error fault => return .error ⟨none, fault⟩
  | .ok _ =>
    match ← disk.write path s.toToml with
    | .error fault => return .error ⟨some ("Failed to write " ++ path), fault⟩
    | .ok _ => return .ok ()

def createTrace {m : Type → Type} [Monad m] (disk : Disk m) (path : String) :
    m (Except WriteError Unit) := do
  let attempt := "Failed to create trace " ++ path
  match ← disk.makeRoom path with
  | .error fault => return .error ⟨some attempt, fault⟩
  | .ok _ =>
    match ← disk.write path "" with
    | .error fault => return .error ⟨some attempt, fault⟩
    | .ok _ => return .ok ()

end Host

end AmbientSound
