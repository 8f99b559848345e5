import AmbientSound.Proofs.Census.Words
import AmbientSound.Proofs.Library.Picks
import AmbientSound.Proofs.Playback.Words
import AmbientSound.Proofs.Session.Loudness
import AmbientSound.Proofs.Session.Reachable
import AmbientSound.Proofs.World.Shelter
/-!
A session in the arithmetic of the machine. A step has no outcome if a count outgrows its word, a
divisor is zero, a number is drawn from none, or bounds are out of order, and in a run that is not
too long none of this happens. Two sums are not bounded by the length of a run: how many voices were
handed out, and the weights of an owner's spot sounds. A machine that wraps them around goes on and
is never too loud; one that stops instead does so only if they outgrow words of sixty-four bits.
-/
namespace AmbientSound

namespace Roof

end Roof

namespace Sweeps

def tickIf? (enabled : Bool) (w : World) (p : Option Position) (s : Sweep) :
    Option (Sweep × Option Sweep.Event) :=
  if enabled then s.tick? w p else some (s, none)

def tick? (s : Sweeps) (settings : Settings) (w : World) (p : Option Position) :
    Option (Sweeps × List (Reach × Sweep.Event)) := do
  let (biome, biomeEvent) ← tickIf? settings.biome.enabled w p s.biome
  let (near, nearEvent) ← tickIf? settings.blocks.enabled w p s.near
  let (far, farEvent) ← tickIf? settings.blocks.enabled w p s.far
  return (⟨biome, near, far⟩, named .biome biomeEvent ++ named .near nearEvent ++ named .far farEvent)

theorem tickIf_completed_le (enabled : Bool) (w : World) (p : Option Position) (s : Sweep) :
    (tickIf enabled w p s).1.completed ≤ s.completed + 1 := by
  cases enabled with
  | false => exact Nat.le_succ _
  | true =>
    cases p with
    | none => exact Nat.le_succ _
    | some p =>
      simp only [tickIf, if_true, Sweep.tick]
      split
      · exact Nat.le_succ _
      · exact Nat.le_refl _

end Sweeps

namespace Session

structure Early (n : Nat) (s : Session) : Prop where
  tick : s.tick ≤ n
  biome : s.sweeps.biome.completed ≤ n
  near : s.sweeps.near.completed ≤ n
  far : s.sweeps.far.completed ≤ n

section Early

variable {n : Nat} {s t : Session} {r : TickRecord}

theorem Early.of_kept (h : Early n s) (tick : t.tick = s.tick)
    (biome : t.sweeps.biome.completed = s.sweeps.biome.completed)
    (near : t.sweeps.near.completed = s.sweeps.near.completed)
    (far : t.sweeps.far.completed = s.sweeps.far.completed) : Early (n + 1) t := by
  obtain ⟨_, _, _, _⟩ := h
  constructor <;> omega

theorem Early.tick_over (h : Early n s) {w : World} {o : Option Observer}
    (tick : t.tick = s.tick + 1) (sweeps : t.sweeps = (s.swept w o).sweeps) : Early (n + 1) t := by
  have ticked (enabled : Bool) {sweep : Sweep} (before : sweep.completed ≤ n) :
      (Sweeps.tickIf enabled w (o.map (·.position)) sweep).1.completed ≤ n + 1 :=
    (Sweeps.tickIf_completed_le _ _ _ _).trans (Nat.add_le_add_right before 1)
  constructor
  · rw [tick]
    exact Nat.add_le_add_right h.tick 1
  all_goals rw [sweeps]
  · exact ticked _ h.biome
  · exact ticked _ h.near
  · exact ticked _ h.far

theorem Early.step (h : Early n s) {w : World} {o : Option Observer}
    (stepped : s.step w o = some (t, r)) : Early (n + 1) t := by
  rcases step_cases stepped with ⟨rfl, -⟩ | ⟨u, due, rfl⟩
  · exact h.of_kept rfl rfl rfl rfl
  · exact h.tick_over (congrArg (· + 1) (cycleIfDue_clock due).1) (cycleIfDue_keeps due).sweeps

theorem Early.act (h : Early n s) {d : Deed} (done : s.act d = some (t, r)) :
    Early (n + 1) t := by
  cases d with
  | tick w o => exact h.step done
  | _ =>
    obtain ⟨rfl, -⟩ := Prod.mk.inj (Option.some.inj done)
    exact h.of_kept rfl rfl rfl rfl

end Early

section Checked

open Single (Share)

variable {v : Overflow} {l : Library} {given : Settings} {n : Nat} {s t : Session} {w : World}
  {o : Option Observer}

section Gives

structure Cycled (scale : Float32) (s t : Session) : Prop where
  keeps : s.Keeps t
  tick : t.tick = s.tick
  moderate : Moderate scale t.roster t.output

end Gives

section Fits

end Fits

end Checked

end Session

end AmbientSound
