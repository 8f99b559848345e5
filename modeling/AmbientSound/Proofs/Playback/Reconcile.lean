import AmbientSound.Proofs.Playback.Devices
/-!
What a reconciliation makes of each acoustic. Of a live emitter the mix decides whether it goes on
or fades; where there is none, the mix decides whether one starts.
-/
namespace AmbientSound

namespace Output

theorem isDone_start (o : Output) (a : AcousticId) {v : VoiceId} (heard : o.isDone v = false) :
    (o.start a).2.isDone v = false := by
  simp only [isDone, start_playing, Bool.not_eq_false'] at heard ⊢
  split
  · exact heard
  · rw [IdentMap.contains, IdentMap.get?_insert]
    split
    · rfl
    · exact heard

theorem isDone_started {o : Output} {a : AcousticId} (works : o.failing.contains a = false) :
    (o.start a).2.isDone ⟨o.next⟩ = false := by
  simp only [isDone, start_playing, works, Bool.false_eq_true, if_false, Bool.not_eq_false']
  rw [IdentMap.contains, IdentMap.get?_insert, if_pos rfl]
  rfl

end Output

theorem Starts.heard {o p : Output} {starts : List (AcousticId × VoiceId)} {v : VoiceId}
    (h : Starts Output.start o starts p) (heard : o.isDone v = false) : p.isDone v = false := by
  induction h with
  | nil o => exact heard
  | cons o a later ih => exact ih (o.isDone_start a heard)

theorem Starts.heard_new {o p : Output} {starts : List (AcousticId × VoiceId)} {a : AcousticId}
    {v : VoiceId} (h : Starts Output.start o starts p) (mem : (a, v) ∈ starts)
    (works : o.failing.contains a = false) : p.isDone v = false := by
  induction h with
  | nil o => exact absurd mem List.not_mem_nil
  | cons o b later ih =>
    rcases List.mem_cons.mp mem with same | old
    · obtain ⟨rfl, rfl⟩ := Prod.mk.inj same
      exact later.heard (Output.isDone_started works)
    · exact ih old (by simpa using works)

namespace Roster

variable {a : AcousticId} {r : Roster} {m : Mix} {o : Output} {e : Emitter} {v : Float32}

theorem reconcile_get?_live (found : r.get? a = some e) (alive : e.isDone = false) :
    (r.reconcile m o).roster.get? a = some (adjust m a e) := by
  rw [reconcile_roster]
  exact reconcileOn_get?_live found alive

theorem reconcile_get?_new (gone : ∀ e, r.get? a = some e → e.isDone = true)
    (wanted : m.get? a = some v) (loud : ¬ v ≤ 0) :
    ∃ voice, (r.reconcile m o).roster.get? a =
        some ⟨a, voice, Single.clampUnit v, .active, r.fadeTicks, 0⟩ ∧
      (o.failing.contains a = false → (r.reconcile m o).output.isDone voice = false) := by
  rw [reconcile_roster, reconcile_output]
  have new := mem_newcomers.mpr ⟨wanted, live_get?_eq_none gone, loud⟩
  obtain ⟨starts, voice, told, mem, found⟩ := reconcileOn_get?_new Output.start r m o new
  exact ⟨voice, found, told.heard_new mem⟩

theorem reconcile_get?_none (gone : ∀ e, r.get? a = some e → e.isDone = true)
    (unwanted : ∀ v, m.get? a = some v → v ≤ 0) : (r.reconcile m o).roster.get? a = none := by
  rw [reconcile_roster]
  exact reconcileOn_get?_none gone unwanted

theorem reconcile_isDone {voice : VoiceId} (heard : o.isDone voice = false) :
    (r.reconcile m o).output.isDone voice = false := by
  rw [reconcile_output]
  obtain ⟨starts, -, told, -⟩ := reconcileOn_starts Output.start r m o
  exact told.heard heard

theorem reconcile_get?_removed (gone : ∀ e, r.get? a = some e → e.isDone = true)
    (unwanted : m.get? a = none) : (r.reconcile m o).roster.get? a = none := by
  refine reconcile_get?_none gone ?_
  intro v wants
  rw [unwanted] at wants
  cases wants

theorem reconcile_get?_faded (found : r.get? a = some e) (alive : e.isDone = false)
    (unwanted : m.get? a = none) : (r.reconcile m o).roster.get? a = some e.fade := by
  rw [reconcile_get?_live found alive, adjust, unwanted]

theorem reconcile_get?_wanted (found : r.get? a = some e) (alive : e.isDone = false)
    (wanted : m.get? a = some v) (loud : 0 < v) : (r.reconcile m o).roster.get? a =
      some { e with throttle := Single.clampUnit v, phase := .active } := by
  rw [reconcile_get?_live found alive, adjust, wanted]
  simp only [if_pos loud]
  unfold Emitter.unfade Emitter.setThrottle
  cases phase : e.phase <;> simp_all [Emitter.isDone]

structure Fades (r : Roster) (n : Nat) : Prop where
  roster : r.fadeTicks = n
  emitters : ∀ a e, r.get? a = some e → e.fadeTicks = n

theorem vacant_fades (n : Nat) : (vacant n).Fades n := by
  refine ⟨rfl, ?_⟩
  intro a e found
  cases found

theorem adjust_fadeTicks (m : Mix) (a : AcousticId) (e : Emitter) :
    (adjust m a e).fadeTicks = e.fadeTicks := by
  have faded : e.fade.fadeTicks = e.fadeTicks := by
    unfold Emitter.fade
    split <;> rfl
  have unfaded (x : Float32) : (e.setThrottle x).unfade.fadeTicks = e.fadeTicks := by
    unfold Emitter.unfade
    split <;> rfl
  unfold adjust
  split
  · split
    · exact unfaded _
    · exact faded
  · exact faded

/-- What holds of whatever goes on and of every newcomer holds of all emitters. -/
theorem reconcile_forall {P : Emitter → Prop} {f : Emitter}
    (old : ∀ e, r.get? a = some e → P (adjust m a e))
    (new : ∀ v voice, m.get? a = some v →
      P ⟨a, voice, Single.clampUnit v, .active, r.fadeTicks, 0⟩)
    (found : (r.reconcile m o).roster.get? a = some f) : P f := by
  by_cases gone : ∀ e, r.get? a = some e → e.isDone = true
  · by_cases unwanted : ∀ v, m.get? a = some v → v ≤ 0
    · rw [reconcile_get?_none gone unwanted] at found
      cases found
    · simp only [Classical.not_forall, exists_prop] at unwanted
      obtain ⟨v, wanted, loud⟩ := unwanted
      obtain ⟨voice, there, -⟩ := reconcile_get?_new (o := o) gone wanted loud
      obtain rfl := Option.some.inj (there.symm.trans found)
      exact new v voice wanted
  · simp only [Classical.not_forall, exists_prop] at gone
    obtain ⟨e, there, alive⟩ := gone
    rw [reconcile_get?_live there (by simpa using alive)] at found
    obtain rfl := Option.some.inj found
    exact old e there

theorem Fades.reconcile {n : Nat} (h : r.Fades n) : (r.reconcile m o).roster.Fades n := by
  have kept : (r.reconcile m o).roster.fadeTicks = r.fadeTicks := by
    rw [reconcile_roster]
    rfl
  refine ⟨kept.trans h.roster, ?_⟩
  intro a f found
  apply reconcile_forall (P := fun e => e.fadeTicks = n) _ _ found
  · intro e there
    exact (adjust_fadeTicks m a e).trans (h.emitters a e there)
  · intro v voice _
    exact h.roster

end Roster

end AmbientSound
