import AmbientSound.IdentMap
import AmbientSound.Document.Datum
/-!
A silent output. It keeps the voices that are playing exactly as a device would, can be told that
starts of an acoustic fail, and writes down every call it is given.
-/
namespace AmbientSound

structure Voice where
  acoustic : AcousticId
  volume : Float32
  deriving DecidableEq

inductive Call where
  | start (acoustic : AcousticId) (voice : VoiceId)
  | setVolume (voice : VoiceId) (volume : Float32)
  | stop (voice : VoiceId)
  | once (acoustic : AcousticId) (volume : Float32)
  | stopAll
  deriving DecidableEq

def Call.toDatum : Call → Datum
  | .start a v =>
    .record [("Start", .record [("acoustic", .nat a.index), ("handle", .nat v.index)])]
  | .setVolume v x =>
    .record [("SetVolume", .record [("handle", .nat v.index), ("volume", .single x)])]
  | .stop v => .record [("Stop", .record [("handle", .nat v.index)])]
  | .once a x =>
    .record [("PlayOnce", .record [("acoustic", .nat a.index), ("volume", .single x)])]
  | .stopAll => .text "StopAll"

structure Output where
  /-- The voice that the next start will get. -/
  next : Nat
  playing : IdentMap .voice Voice
  failing : IdentMap .acoustic Unit
  recording : Bool
  calls : Array Call
  deriving DecidableEq

namespace Output

def silent (recording : Bool) : Output := ⟨0, .empty, .empty, recording, #[]⟩

def record (o : Output) (c : Call) : Output :=
  if o.recording then { o with calls := o.calls.push c } else o

/-- Starts an acoustic. A voice is always answered; if the start fails it never plays. -/
def start (o : Output) (a : AcousticId) : VoiceId × Output :=
  let voice : VoiceId := ⟨o.next⟩
  let playing := if o.failing.contains a then o.playing else o.playing.insert voice ⟨a, 0⟩
  (voice, record { o with next := o.next + 1, playing := playing } (.start a voice))

def setVolume (o : Output) (voice : VoiceId) (volume : Float32) : Output :=
  let playing := match o.playing.get? voice with
    | some v => o.playing.insert voice ⟨v.acoustic, volume⟩
    | none => o.playing
  record { o with playing := playing } (.setVolume voice volume)

def stop (o : Output) (voice : VoiceId) : Output :=
  record { o with playing := o.playing.erase voice } (.stop voice)

def isDone (o : Output) (voice : VoiceId) : Bool := !o.playing.contains voice

def playOnce (o : Output) (a : AcousticId) (volume : Float32) : Output :=
  o.record (.once a volume)

def stopAll (o : Output) : Output := record { o with playing := .empty } .stopAll

def fail (o : Output) (a : AcousticId) : Output := { o with failing := o.failing.insert a () }

def heal (o : Output) (a : AcousticId) : Output := { o with failing := o.failing.erase a }

/-- A voice ends by itself, without a call. -/
def finish (o : Output) (voice : VoiceId) : Output :=
  { o with playing := o.playing.erase voice }

def drain (o : Output) : List Call × Output := (o.calls.toList, { o with calls := #[] })

def volume? (o : Output) (voice : VoiceId) : Option Float32 :=
  (o.playing.get? voice).map (·.volume)

def isPlaying (o : Output) (a : AcousticId) : Bool :=
  o.playing.entries.any fun e => e.2.acoustic == a

def startCount (o : Output) (a : AcousticId) : Nat :=
  o.calls.toList.countP fun
    | .start b _ => b == a
    | _ => false

def stopCount (o : Output) (voice : VoiceId) : Nat :=
  o.calls.toList.countP fun
    | .stop v => v == voice
    | _ => false

end Output

end AmbientSound
