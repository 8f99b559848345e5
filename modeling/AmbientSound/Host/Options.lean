import AmbientSound.Log.Notice
import AmbientSound.Number.Word
import AmbientSound.Text.Quoted
/-!
Options of the command line. The arguments fall into groups from the left, and each group changes
at most the option of its own flag.
-/
namespace AmbientSound

inductive ValueFlag where
  | ticks
  | config
  | library
  | trace
  | seed
  | assets
  | reportEvery
  | writeConfig
  deriving DecidableEq, Repr

namespace ValueFlag

def text : ValueFlag → String
  | .ticks => "--ticks"
  | .config => "--config"
  | .library => "--library"
  | .trace => "--trace"
  | .seed => "--seed"
  | .assets => "--assets"
  | .reportEvery => "--report-every"
  | .writeConfig => "--write-config"

def all : List ValueFlag :=
  [.ticks, .config, .library, .trace, .seed, .assets, .reportEvery, .writeConfig]

def ofText? (text : String) : Option ValueFlag := all.find? fun f => f.text == text

def isNumeric : ValueFlag → Bool
  | .ticks | .seed | .reportEvery => true
  | .config | .library | .trace | .assets | .writeConfig => false

end ValueFlag

inductive Argument where
  /-- A flag and the argument after it, whatever that is; none if the flag is the last. -/
  | valued (flag : ValueFlag) (value : Option String)
  | noAudio
  | help
  | unknown (text : String)
  deriving DecidableEq, Repr

namespace Argument

def lone (text : String) : Argument :=
  if text = "--no-audio" then .noAudio
  else if text = "--help" ∨ text = "-h" then .help
  else .unknown text

def split : List String → List Argument
  | [] => []
  | [last] =>
    match ValueFlag.ofText? last with
    | some flag => [.valued flag none]
    | none => [lone last]
  | first :: second :: rest =>
    match ValueFlag.ofText? first with
    | some flag => .valued flag (some second) :: split rest
    | none => lone first :: split (second :: rest)

def target : String := "ambience"

def notices : Argument → List Notice
  | .valued flag none =>
    let wanted := if flag.isNumeric then "an integer" else "a path"
    [⟨.error, target, flag.text ++ " requires " ++ wanted, []⟩]
  | .valued flag (some value) =>
    if flag.isNumeric then
      match Word.ofText value with
      | .ok _ => []
      | .error fault =>
        [⟨.error, target, flag.text ++ " must be an integer",
          [("err", fault.text), ("value", value)]⟩]
    else []
  | .noAudio | .help => []
  | .unknown text => [⟨.warn, target, "Unknown argument ignored", [("arg", debugQuoted text)]⟩]

end Argument

structure Options where
  ticks : Option Nat
  config : Option String
  library : Option String
  trace : Option String
  seed : Nat
  assets : String
  /-- The ticks from one look at the emitters to the next; zero for never. -/
  reportEvery : Nat
  writeConfig : Option String
  noAudio : Bool
  help : Bool
  deriving DecidableEq, Repr

namespace Options

def standard : Options := ⟨none, none, none, none, 0, "assets", 0, none, false, false⟩

def setNumber (o : Options) (n : Nat) : ValueFlag → Options
  | .ticks => { o with ticks := some n }
  | .seed => { o with seed := n }
  | .reportEvery => { o with reportEvery := n }
  | _ => o

def setPath (o : Options) (path : String) : ValueFlag → Options
  | .config => { o with config := some path }
  | .library => { o with library := some path }
  | .trace => { o with trace := some path }
  | .assets => { o with assets := path }
  | .writeConfig => { o with writeConfig := some path }
  | _ => o

def take (o : Options) : Argument → Options
  | .valued flag (some value) =>
    if flag.isNumeric then
      match Word.ofText value with
      | .ok n => o.setNumber n flag
      | .error _ => o
    else o.setPath value flag
  | .valued _ none => o
  | .noAudio => { o with noAudio := true }
  | .help => { o with help := true }
  | .unknown _ => o

def ofArguments (args : List String) : Options := (Argument.split args).foldl take standard

end Options

end AmbientSound
