import AmbientSound.Proofs.Session.Convergence
/-!
What holds of every session that a run of deeds has led to.
-/
namespace AmbientSound

theorem Move.recording {calm : Prop} {x y : Stage} (move : Move calm x y) :
    y.output.recording = x.output.recording := by
  cases move with
  | retune => rfl
  | push => simp
  | finish => simp
  | reap => rfl
  | start => simp
  | once => simp
  | stopAll => simp
  | fail => rfl
  | heal => rfl
  | ended => rfl

theorem Moves.recording {calm : Prop} {x y : Stage} (run : Moves calm x y) :
    y.output.recording = x.output.recording := by
  apply run.invariant (P := fun z => z.output.recording = x.output.recording) _ rfl
  intro y z before move
  exact move.recording.trans before

namespace Session

structure Reachable (given : Settings) (sounds : Repertoire) (recording : Bool) (seed : UInt64)
    (s : Session) : Prop where
  built : Built given sounds s
  tidy : s.Tidy
  voiced : Voiced s.stage
  seed : s.seed = seed
  recording : s.output.recording = recording

section Seeds

variable {s t : Session}

theorem cycle_clock {w : World} {o : Option Observer} {c : Cycle}
    (h : s.cycle w o = some (t, c)) : t.tick = s.tick ∧ t.seed = s.seed := by
  cases o with
  | none =>
    obtain ⟨rfl, rfl⟩ := Prod.mk.inj (Option.some.inj h)
    exact ⟨rfl, rfl⟩
  | some o =>
    simp only [cycle, cycleAround, Option.bind_eq_bind, Option.bind_eq_some_iff] at h
    obtain ⟨m, -, h⟩ := h
    obtain ⟨rfl, rfl⟩ := Prod.mk.inj (Option.some.inj h)
    exact ⟨rfl, rfl⟩

theorem cycleIfDue_clock {w : World} {o : Option Observer} {k : Option Cycle}
    (h : s.cycleIfDue w o = some (t, k)) : t.tick = s.tick ∧ t.seed = s.seed := by
  unfold cycleIfDue at h
  split at h
  · obtain ⟨⟨u, c⟩, mixed, same⟩ := Option.map_eq_some_iff.mp h
    obtain ⟨rfl, -⟩ := Prod.mk.inj same
    have kept := cycle_clock mixed
    exact kept
  · obtain ⟨rfl, -⟩ := Prod.mk.inj (Option.some.inj h)
    exact ⟨rfl, rfl⟩

theorem step_seed {w : World} {o : Option Observer} {r : TickRecord}
    (h : s.step w o = some (t, r)) : t.seed = s.seed := by
  rcases step_cases h with ⟨rfl, -⟩ | ⟨u, due, rfl⟩
  · rfl
  · exact (cycleIfDue_clock due).2

theorem act_seed {d : Deed} {r : TickRecord} (h : s.act d = some (t, r)) : t.seed = s.seed := by
  cases d with
  | tick w o => exact step_seed h
  | _ =>
    obtain ⟨rfl, -⟩ := Prod.mk.inj (Option.some.inj h)
    rfl

end Seeds

namespace Reachable

variable {given : Settings} {sounds : Repertoire} {recording : Bool} {seed : UInt64}
  {s t : Session}

theorem of_start : Reachable given sounds recording seed
    (start given sounds (.silent recording) seed) :=
  ⟨.of_start _ _, ⟨start_numbered, Roster.vacant_fades _⟩, start_voiced, rfl, rfl⟩

theorem act (h : Reachable given sounds recording seed s) {d : Deed} {r : TickRecord}
    (done : s.act d = some (t, r)) : Reachable given sounds recording seed t := by
  have moves : Moves False s.stage t.stage := act_moves done False.elim
  have owned : Numbered t.stage ∧ Voiced t.stage := by
    apply moves.invariant (P := fun x => Numbered x ∧ Voiced x) _ ⟨h.tidy.numbered, h.voiced⟩
    rintro x y ⟨numbered, voiced⟩ move
    exact ⟨numbered.move move, voiced.move numbered move⟩
  have same : t.stage.output.recording = recording := moves.recording.trans h.recording
  exact ⟨h.built.act done, h.tidy.act h.built done, owned.2, (act_seed done).trans h.seed, same⟩

theorem after (h : Reachable given sounds recording seed s) {ds : List Deed}
    (run : s.after ds = some t) : Reachable given sounds recording seed t :=
  after_invariant (fun _ _ _ _ before done => before.act done) run h

theorem silent (h : Reachable given sounds recording seed s)
    (finished : ∀ a e, s.roster.get? a = some e → e.isDone = true) : s.output.playing = .empty := by
  apply IdentMap.eq_empty
  intro v
  cases playing : s.output.playing.get? v with
  | none => rfl
  | some y =>
    obtain ⟨e, found, -, living, -⟩ := (accounted_of_stage h.tidy.numbered h.voiced).owned v y playing
    exact absurd (finished y.acoustic e found) (by simpa [Emitter.isDone] using living)

end Reachable

end Session

end AmbientSound
