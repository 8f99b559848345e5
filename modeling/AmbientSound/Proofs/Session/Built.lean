import AmbientSound.Proofs.Session.Deeds
import AmbientSound.Proofs.Settings.Sanitizing
/-!
What no deed changes about a session: what it was built from. In particular each of its censuses is
always one that a run of ticks and resets has led to.
-/
namespace AmbientSound

namespace Session

theorem cycleIfDue_keeps {s t : Session} {w : World} {o : Option Observer} {k : Option Cycle}
    (h : s.cycleIfDue w o = some (t, k)) : s.Keeps t := by
  rcases cycleIfDue_cases h with ⟨rfl, -⟩ | ⟨m, c, -, cycles⟩
  · exact ⟨rfl, rfl, rfl, rfl, rfl⟩
  · exact cycles.keeps

def Reached (layer : Layer) (tier : Tier) (sweep : Sweep) : Prop :=
  ∃ steps, sweep = (Sweep.start layer tier).run steps

/-- A session made from the given settings and sounds, its censuses somewhere in their runs. -/
structure Built (given : Settings) (sounds : Repertoire) (s : Session) : Prop where
  settings : s.settings = given.sanitized
  repertoire : s.repertoire = sounds
  radius : s.roof.radius = given.sanitized.roofRadius.toNat
  biome : Reached .biome given.sanitized.biome.scan s.sweeps.biome
  near : Reached .blocks given.sanitized.blocks.near s.sweeps.near
  far : Reached .blocks given.sanitized.farTier s.sweeps.far

theorem Reached.step {layer : Layer} {tier : Tier} {sweep : Sweep} (st : Sweep.Step)
    (h : Reached layer tier sweep) : Reached layer tier (sweep.step st) := by
  obtain ⟨steps, rfl⟩ := h
  exact ⟨steps ++ [st], (Sweep.run_snoc _ steps st).symm⟩

theorem Reached.tickIf {layer : Layer} {tier : Tier} {sweep : Sweep} (enabled : Bool) (w : World)
    (p : Option Position) (h : Reached layer tier sweep) :
    Reached layer tier (Sweeps.tickIf enabled w p sweep).1 := by
  cases enabled with
  | false => exact h
  | true => exact h.step (.tick w p)

namespace Built

variable {given : Settings} {sounds : Repertoire} {s t : Session}

theorem of_start (output : Output) (seed : UInt64) :
    Built given sounds (start given sounds output seed) :=
  ⟨rfl, rfl, rfl, ⟨[], rfl⟩, ⟨[], rfl⟩, ⟨[], rfl⟩⟩

theorem congr (h : Built given sounds s) (settings : t.settings = s.settings)
    (repertoire : t.repertoire = s.repertoire) (radius : t.roof.radius = s.roof.radius)
    (sweeps : t.sweeps = s.sweeps) : Built given sounds t := by
  refine ⟨settings.trans h.settings, repertoire.trans h.repertoire, radius.trans h.radius, ?_, ?_, ?_⟩
  · rw [sweeps]
    exact h.biome
  · rw [sweeps]
    exact h.near
  · rw [sweeps]
    exact h.far

theorem swept (h : Built given sounds s) (w : World) (o : Option Observer) :
    Built given sounds (s.swept w o) :=
  ⟨h.settings, h.repertoire, h.radius, h.biome.tickIf _ w _, h.near.tickIf _ w _,
    h.far.tickIf _ w _⟩

theorem reset (h : Built given sounds s) : Built given sounds s.reset :=
  ⟨h.settings, h.repertoire, h.radius, h.biome.step .reset, h.near.step .reset,
    h.far.step .reset⟩

theorem step (h : Built given sounds s) {w : World} {o : Option Observer} {r : TickRecord}
    (stepped : s.step w o = some (t, r)) : Built given sounds t := by
  rcases step_cases stepped with ⟨rfl, -⟩ | ⟨u, due, rfl⟩
  · exact h
  · have kept := cycleIfDue_keeps due
    exact (h.swept w (o.filter (·.alive))).congr kept.settings kept.repertoire kept.radius kept.sweeps

theorem act (h : Built given sounds s) {d : Deed} {r : TickRecord}
    (done : s.act d = some (t, r)) : Built given sounds t := by
  cases d with
  | tick w o => exact h.step done
  | connect =>
    obtain ⟨rfl, -⟩ := Prod.mk.inj (Option.some.inj done)
    exact h.reset.congr rfl rfl rfl rfl
  | disconnect =>
    obtain ⟨rfl, -⟩ := Prod.mk.inj (Option.some.inj done)
    exact h.reset.congr rfl rfl rfl rfl
  | reset =>
    obtain ⟨rfl, -⟩ := Prod.mk.inj (Option.some.inj done)
    exact h.reset
  | fail a =>
    obtain ⟨rfl, -⟩ := Prod.mk.inj (Option.some.inj done)
    exact h.congr rfl rfl rfl rfl
  | heal a =>
    obtain ⟨rfl, -⟩ := Prod.mk.inj (Option.some.inj done)
    exact h.congr rfl rfl rfl rfl
  | finish v =>
    obtain ⟨rfl, -⟩ := Prod.mk.inj (Option.some.inj done)
    exact h.congr rfl rfl rfl rfl

theorem after (h : Built given sounds s) {ds : List Deed} (run : s.after ds = some t) :
    Built given sounds t :=
  after_invariant (fun _ _ _ _ built done => built.act done) run h

end Built

end Session

end AmbientSound
