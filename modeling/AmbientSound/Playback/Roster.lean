import AmbientSound.Playback.Emitter
import AmbientSound.Mix.Volumes
/-!
The emitters there are, at most one for each acoustic, and how they are brought in line with a
mix: what is wanted goes on or starts, what is not wanted fades.
-/
namespace AmbientSound

structure Summary where
  started : Nat
  continued : Nat
  unfaded : Nat
  faded : Nat
  reaped : Nat
  deriving DecidableEq, Repr

namespace Summary

def nothing : Summary := ⟨0, 0, 0, 0, 0⟩

def toDatum (s : Summary) : Datum :=
  .record [("started", .nat s.started), ("continued", .nat s.continued),
    ("unfaded", .nat s.unfaded), ("faded", .nat s.faded), ("reaped", .nat s.reaped)]

end Summary

structure Diagnostic where
  name : Option String
  emitter : Emitter

namespace Diagnostic

def toDatum (d : Diagnostic) : Datum :=
  .record [("acoustic", .nat d.emitter.acoustic.index), ("name", .optional .text d.name),
    ("state", .text d.emitter.phase.recordName), ("throttle", .single d.emitter.throttle),
    ("volume", .single d.emitter.volume)]

def text (d : Diagnostic) : String :=
  "EMITTER: " ++ d.name.getD d.emitter.acoustic.label ++ d.emitter.stateText

end Diagnostic

structure Roster where
  emitters : IdentMap .acoustic Emitter
  fadeTicks : Nat
  deriving DecidableEq

structure Reconciliation where
  roster : Roster
  output : Output
  summary : Summary
  newcomers : List (AcousticId × Float32)

namespace Roster

def vacant (fadeTicks : Nat) : Roster := ⟨.empty, fadeTicks⟩

def size (r : Roster) : Nat := r.emitters.size

def get? (r : Roster) (a : AcousticId) : Option Emitter := r.emitters.get? a

def live (r : Roster) : IdentMap .acoustic Emitter := r.emitters.filter fun _ e => !e.isDone

/-- A live emitter under a mix: it takes its wanted volume out of the mix, or fades. -/
def tend (a : AcousticId) (e : Emitter) (m : Mix) (done : Summary) : Emitter × Mix × Summary :=
  let left := m.erase a
  match (m.get? a).filter fun v => decide (0 < v) with
  | some v =>
    let e := e.setThrottle v
    if e.isFading then
      (e.unfade, left, { done with unfaded := done.unfaded + 1, continued := done.continued + 1 })
    else (e, left, { done with continued := done.continued + 1 })
  | none =>
    if e.isFading then (e, left, done) else (e.fade, left, { done with faded := done.faded + 1 })

def tendAll : List (AcousticId × Emitter) → Mix → Summary →
    List (AcousticId × Emitter) × Mix × Summary
  | [], m, done => ([], m, done)
  | (a, e) :: rest, m, done =>
    let (e, m, done) := tend a e m done
    let (rest, m, done) := tendAll rest m done
    ((a, e) :: rest, m, done)

theorem keys_tendAll (es : List (AcousticId × Emitter)) (m : Mix) (done : Summary) :
    (tendAll es m done).1.map (·.1) = es.map (·.1) := by
  induction es generalizing m done with
  | nil => rfl
  | cons first rest ih => simp [tendAll, ih]

theorem ascending_of_keys_eq {es fs : List (AcousticId × Emitter)}
    (h : fs.map (·.1) = es.map (·.1))
    (ascending : es.Pairwise fun a b => a.1.index < b.1.index) :
    fs.Pairwise fun a b => a.1.index < b.1.index := by
  have keys : (es.map (·.1)).Pairwise fun a b => a.index < b.index :=
    List.pairwise_map.mpr ascending
  rw [← h] at keys
  simpa [List.pairwise_map] using keys

def startLeft (r : Reconciliation) (n : AcousticId × Float32) : Reconciliation :=
  if n.2 ≤ 0 then r
  else
    let fadeTicks := r.roster.fadeTicks
    let (emitter, output) := Emitter.start n.1 n.2 fadeTicks r.output
    { roster := ⟨r.roster.emitters.insert n.1 emitter, fadeTicks⟩
      output := output
      summary := { r.summary with started := r.summary.started + 1 }
      newcomers := r.newcomers ++ [n] }

/-- Emitters that are done go, and the others are tended. With what is left of the mix. -/
def tendLive (r : Roster) (m : Mix) (o : Output) : Reconciliation × Mix :=
  let live := r.live
  let tended := tendAll live.entries m { Summary.nothing with reaped := r.size - live.size }
  let emitters : IdentMap .acoustic Emitter :=
    ⟨tended.1, ascending_of_keys_eq (keys_tendAll _ _ _) live.ascending⟩
  (⟨⟨emitters, r.fadeTicks⟩, o, tended.2.2, []⟩, tended.2.1)

def reconcile (r : Roster) (m : Mix) (o : Output) : Reconciliation :=
  let (tended, left) := r.tendLive m o
  left.toList.foldl startLeft tended

def eachEmitter (f : Emitter → Output → Emitter × Output) :
    List (AcousticId × Emitter) → Output → List (AcousticId × Emitter) × Output
  | [], o => ([], o)
  | (a, e) :: rest, o =>
    let (e, o) := f e o
    let (rest, o) := eachEmitter f rest o
    ((a, e) :: rest, o)

theorem keys_eachEmitter (f : Emitter → Output → Emitter × Output)
    (es : List (AcousticId × Emitter)) (o : Output) :
    (eachEmitter f es o).1.map (·.1) = es.map (·.1) := by
  induction es generalizing o with
  | nil => rfl
  | cons first rest ih => simp [eachEmitter, ih]

def tickAll (r : Roster) (scale : Float32) (o : Output) : Roster × Output :=
  let stepped := eachEmitter (fun e => e.tick scale) r.emitters.entries o
  (⟨⟨stepped.1, ascending_of_keys_eq (keys_eachEmitter _ _ _) r.emitters.ascending⟩, r.fadeTicks⟩,
    stepped.2)

def clear (r : Roster) (o : Output) : Roster × Output :=
  (.vacant r.fadeTicks, (eachEmitter Emitter.stop r.emitters.entries o).2)

def diagnostics (r : Roster) (name? : AcousticId → Option String) : List Diagnostic :=
  r.emitters.entries.map fun e => ⟨name? e.2.acoustic, e.2⟩

end Roster

end AmbientSound
