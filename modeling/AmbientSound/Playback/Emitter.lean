import AmbientSound.Playback.Output
import AmbientSound.Number.Layout
/-!
One looping sound and its fade. An emitter is active, fades out, and is done; while it fades it
can become active again, and once done it stays so.
-/
namespace AmbientSound

inductive Phase where
  | active
  /-- Fading for the given number of ticks. -/
  | fading (elapsed : Nat)
  | done
  deriving DecidableEq, Repr

namespace Phase

def label : Phase → String
  | .active => "active"
  | .fading _ => "fading"
  | .done => "done"

def recordName : Phase → String
  | .active => "Active"
  | .fading _ => "FadingOut"
  | .done => "Done"

end Phase

structure Emitter where
  acoustic : AcousticId
  voice : VoiceId
  throttle : Float32
  phase : Phase
  fadeTicks : Nat
  volume : Float32
  deriving DecidableEq

namespace Emitter

/-- Starts an acoustic. Even if the start fails there is an emitter, which ends at its first
tick. -/
def start (a : AcousticId) (throttle : Float32) (fadeTicks : Nat) (o : Output) :
    Emitter × Output :=
  let (voice, o) := o.start a
  (⟨a, voice, Single.clampUnit throttle, .active, fadeTicks, 0⟩, o)

def setThrottle (e : Emitter) (throttle : Float32) : Emitter :=
  { e with throttle := Single.clampUnit throttle }

def fade (e : Emitter) : Emitter :=
  match e.phase with
  | .active => { e with phase := .fading 0 }
  | _ => e

def unfade (e : Emitter) : Emitter :=
  match e.phase with
  | .fading _ => { e with phase := .active }
  | _ => e

def isFading (e : Emitter) : Bool :=
  match e.phase with
  | .fading _ => true
  | _ => false

def isDone (e : Emitter) : Bool := e.phase == .done

def fadeFraction (elapsed fadeTicks : Nat) : Float32 :=
  if fadeTicks = 0 then 1
  else
    let part := Single.ofNat elapsed / Single.ofNat fadeTicks
    if part < 1 then part else 1

def progress (e : Emitter) : Float32 :=
  match e.phase with
  | .active => 0
  | .fading elapsed => fadeFraction elapsed e.fadeTicks
  | .done => 1

def finish (e : Emitter) (o : Output) : Emitter × Output :=
  ({ e with phase := .done, volume := 0 }, o.stop e.voice)

def push (e : Emitter) (volume : Float32) (o : Output) : Emitter × Output :=
  ({ e with volume := volume }, o.setVolume e.voice volume)

/-- One tick: the volume, scaled, goes to the output. An emitter whose voice has ended or whose
fade is over is finished. -/
def tick (e : Emitter) (scale : Float32) (o : Output) : Emitter × Output :=
  match e.phase with
  | .done => (e, o)
  | .active => if o.isDone e.voice then e.finish o else e.push (e.throttle * scale) o
  | .fading elapsed =>
    if o.isDone e.voice then e.finish o
    else
      let fraction := fadeFraction (elapsed + 1) e.fadeTicks
      let e := { e with phase := .fading (elapsed + 1) }
      if 1 ≤ fraction then e.finish o else e.push (e.throttle * (1 - fraction) * scale) o

def stop (e : Emitter) (o : Output) : Emitter × Output :=
  match e.phase with
  | .done => (e, o)
  | _ => e.finish o

def stateText (e : Emitter) : String :=
  " [" ++ e.phase.label ++ "] throttle=" ++ twoPlaces e.throttle ++ " volume=" ++
    twoPlaces e.volume

def text (e : Emitter) : String := e.acoustic.label ++ e.stateText

end Emitter

end AmbientSound
