import AmbientSound.Host.Loading
import AmbientSound.Host.Simulation
import AmbientSound.Host.Tour
/-!
The program: options, files, the tour, and a line that sums it up.
-/
namespace AmbientSound

structure Outcome where
  code : Nat
  out : List String
  err : List String
  deriving DecidableEq, Repr

namespace Host

def version : String := "0.1.0"

def usage : List String :=
  ["Usage: ambience [OPTIONS]",
    "",
    "Options:",
    "  --ticks <N>            Ticks to simulate (default: length of the demo tour)",
    "  --config <PATH>        Settings TOML (default: config/ambience.toml)",
    "  --library <PATH>       Acoustic library JSON (default: config/acoustics.json)",
    "  --trace <PATH>         Write one JSONL record per aggregation cycle",
    "  --seed <N>             Seed for spot sound selection (default: 0)",
    "  --assets <DIR>         Root for acoustic asset paths (default: assets)",
    "  --report-every <N>     Log emitter diagnostics every N ticks (0 = never)",
    "  --write-config <PATH>  Save the effective settings as TOML",
    "  --no-audio             Use the silent backend even with rodio_backend enabled",
    "  --help                 Show this help"]

def startingNotice : Notice := ⟨.info, Argument.target, "Starting ambience v" ++ version, []⟩

def wroteNotice (path : String) : Notice :=
  ⟨.info, Argument.target, "Wrote settings to " ++ path, []⟩

def silenceNotices (o : Options) : List Notice :=
  if o.noAudio then []
  else
    [⟨.info, Argument.target, "Built without rodio_backend; playback is silent",
      [("assets", o.assets)]⟩]

def tracedNotice (records : Nat) : Notice :=
  ⟨.info, Argument.target, "trace written", [("records", toString records)]⟩

def closingLine (ticks cycles started : Nat) : String :=
  toString ticks ++ " ticks, " ++ toString cycles ++ " aggregation cycles, " ++ toString started ++
    " emitters started"

abbrev told (filter : LogFilter) (notices : List Notice) : List String :=
  Simulation.shown filter notices

def failed (out : List String) (e : WriteError) : Outcome := ⟨1, out, e.lines⟩

def tickCount (o : Options) : Nat := o.ticks.getD Tour.walk.length

def simulate (filter : LogFilter) (o : Options) (settings : Settings) (library : Library) :
    Except Simulation Simulation :=
  let (library, terrain) := Tour.world library
  let session := Session.start settings library.repertoire (.silent false) (UInt64.ofNat o.seed)
  Simulation.run filter o.reportEvery terrain.world Tour.walk (tickCount o) session

def saveIfAsked {m : Type → Type} [Monad m] (disk : Disk m) (o : Options) (s : Settings) :
    m (Except WriteError (List Notice)) := do
  match o.writeConfig with
  | none => return .ok []
  | some path => return (← saveSettings disk s path).map fun _ => [wroteNotice path]

def traceIfAsked {m : Type → Type} [Monad m] (disk : Disk m) (o : Options) :
    m (Except WriteError Unit) := do
  match o.trace with
  | none => return .ok ()
  | some path => createTrace disk path

def fillTrace {m : Type → Type} [Monad m] (disk : Disk m) (o : Options) (r : Simulation) :
    m (Except WriteError (List Notice)) := do
  match o.trace with
  | none => return .ok []
  | some path =>
    match ← disk.write path r.traceText with
    | .error fault => return .error ⟨none, fault⟩
    | .ok _ => return .ok [tracedNotice r.records.size]

def perform {m : Type → Type} [Monad m] (disk : Disk m) (filter : LogFilter) (o : Options)
    (out : List String) : m Outcome := do
  let path := o.config.getD settingsPath
  let contents ← disk.read path
  let settings := settingsOf contents
  let out := out ++ told filter (settingsNotices path contents)
  match ← saveIfAsked disk o settings with
  | .error e => return failed out e
  | .ok saved =>
    let path := o.library.getD libraryPath
    let contents ← disk.read path
    let library := libraryOf path contents
    let out := out ++ told filter (saved ++ libraryNotices path contents ++ silenceNotices o)
    match ← traceIfAsked disk o with
    | .error e => return failed out e
    | .ok _ =>
      match simulate filter o settings library with
      | .error r =>
        let _ ← fillTrace disk o r
        return ⟨101, out ++ r.lines.toList, ["Error: the volume floor is not a number"]⟩
      | .ok r =>
        let out := out ++ r.lines.toList
        match ← fillTrace disk o r with
        | .error e => return failed out e
        | .ok traced =>
          let closing := closingLine (tickCount o) r.cycles r.started
          return ⟨0, out ++ told filter traced ++ [closing], []⟩

def run {m : Type → Type} [Monad m] (disk : Disk m) (filter : LogFilter) (args : List String) :
    m Outcome := do
  let o := Options.ofArguments args
  let out := told filter (startingNotice :: (Argument.split args).flatMap Argument.notices)
  if o.help then return ⟨0, out ++ usage, []⟩
  else perform disk filter o out

end Host

end AmbientSound
