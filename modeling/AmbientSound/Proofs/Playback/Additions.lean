import AmbientSound.Proofs.Playback.Reconcile
/-!
Which calls an operation adds to those already recorded. A step of the emitters starts nothing.
-/
namespace AmbientSound

def Output.Adds (P : Call → Prop) (o p : Output) : Prop :=
  ∃ new, p.calls.toList = o.calls.toList ++ new ∧ ∀ c ∈ new, P c

section Outputs

variable {P : Call → Prop} {o p q : Output}

namespace Output

theorem Adds.of_calls_eq (same : p.calls = o.calls) : o.Adds P p := by
  refine ⟨[], ?_, by simp⟩
  rw [same, List.append_nil]

theorem Adds.trans (first : o.Adds P p) (second : p.Adds P q) : o.Adds P q := by
  obtain ⟨early, calls, good⟩ := first
  obtain ⟨late, calls', good'⟩ := second
  refine ⟨early ++ late, ?_, ?_⟩
  · rw [calls', calls, List.append_assoc]
  · intro c mem
    rcases List.mem_append.mp mem with before | after
    · exact good c before
    · exact good' c after

theorem record_adds (same : p.calls = o.calls) {c : Call} (good : P c) : o.Adds P (p.record c) := by
  cases on : p.recording with
  | false =>
    apply Adds.of_calls_eq
    simp [record, on, same]
  | true =>
    refine ⟨[c], ?_, by simpa using good⟩
    rw [p.record_calls c on, same]

theorem start_adds (a : AcousticId) (good : P (.start a ⟨o.next⟩)) : o.Adds P (o.start a).2 :=
  record_adds rfl good

theorem setVolume_adds (v : VoiceId) (x : Float32) (good : P (.setVolume v x)) :
    o.Adds P (o.setVolume v x) :=
  record_adds rfl good

theorem stop_adds (v : VoiceId) (good : P (.stop v)) : o.Adds P (o.stop v) := record_adds rfl good

theorem stopAll_adds (good : P .stopAll) : o.Adds P o.stopAll := record_adds rfl good

theorem playAll_adds (as : List AcousticId) (x : Float32) (good : ∀ a, P (.once a x)) :
    o.Adds P (as.foldl (fun output a => output.playOnce a x) o) := by
  induction as generalizing o with
  | nil => exact .of_calls_eq rfl
  | cons a rest ih => exact (record_adds rfl (good a)).trans ih

end Output

theorem Emitter.finish_adds (e : Emitter) (good : P (.stop e.voice)) : o.Adds P (e.finish o).2 :=
  Output.stop_adds e.voice good

theorem Emitter.stop_adds (e : Emitter) (good : P (.stop e.voice)) : o.Adds P (e.stop o).2 := by
  unfold Emitter.stop
  split
  · exact .of_calls_eq rfl
  · exact e.finish_adds good

theorem Emitter.tick_adds (e : Emitter) (scale : Float32) (stops : P (.stop e.voice))
    (active : P (.setVolume e.voice (e.throttle * scale)))
    (fading : ∀ k n,
      P (.setVolume e.voice (e.throttle * (1 - fadeFraction k n) * scale))) :
    o.Adds P (e.tick scale o).2 := by
  unfold Emitter.tick
  split
  · exact .of_calls_eq rfl
  · split
    · exact e.finish_adds stops
    · exact Output.setVolume_adds e.voice _ active
  · split
    · exact e.finish_adds stops
    · simp only
      split
      · exact Output.stop_adds e.voice stops
      · exact Output.setVolume_adds e.voice _ (fading _ _)

theorem Emitter.tick_next (e : Emitter) (scale : Float32) (o : Output) :
    (e.tick scale o).2.next = o.next := by
  unfold Emitter.tick
  split
  · rfl
  · split <;> simp
  · split
    · simp
    · simp only
      split <;> simp

namespace Roster

theorem eachEmitter_adds {f : Emitter → Output → Emitter × Output}
    {es : List (AcousticId × Emitter)} (one : ∀ e ∈ es, ∀ o : Output, o.Adds P (f e.2 o).2) :
    o.Adds P (eachEmitter f es o).2 := by
  induction es generalizing o with
  | nil => exact .of_calls_eq rfl
  | cons first rest ih =>
    have here := one first (by simp) o
    have later : (f first.2 o).2.Adds P (eachEmitter f rest (f first.2 o).2).2 :=
      ih fun e mem => one e (List.mem_cons_of_mem first mem)
    exact here.trans later

theorem enter_adds (fadeTicks : Nat) (fresh : List (AcousticId × Float32))
    (state : IdentMap .acoustic Emitter × Output) (good : ∀ a v, P (.start a v)) :
    state.2.Adds P (fresh.foldl (enter fadeTicks) state).2 := by
  induction fresh generalizing state with
  | nil => exact .of_calls_eq rfl
  | cons first rest ih =>
    have here : state.2.Adds P (enter fadeTicks state first).2 :=
      Output.start_adds first.1 (good first.1 _)
    exact here.trans (ih (enter fadeTicks state first))

theorem reconcile_adds (r : Roster) (m : Mix) (good : ∀ a v, P (.start a v)) :
    o.Adds P (r.reconcile m o).output := by
  rw [reconcile_eq]
  exact enter_adds r.fadeTicks (newcomers r.live m) (r.live.map (adjust m), o) good

theorem tickAll_adds (r : Roster) (scale : Float32) (stops : ∀ v, P (.stop v))
    (sets : ∀ v x, P (.setVolume v x)) : o.Adds P (r.tickAll scale o).2 := by
  apply eachEmitter_adds
  intro e _ o'
  apply e.2.tick_adds
  · exact stops e.2.voice
  · exact sets e.2.voice _
  · intro k n
    exact sets e.2.voice _

theorem clear_adds (r : Roster) (good : ∀ v, P (.stop v)) : o.Adds P (r.clear o).2 :=
  eachEmitter_adds fun e _ _ => e.2.stop_adds (good e.2.voice)

theorem eachEmitter_next {f : Emitter → Output → Emitter × Output}
    (one : ∀ e o, (f e o).2.next = o.next) (es : List (AcousticId × Emitter)) (o : Output) :
    (eachEmitter f es o).2.next = o.next := by
  induction es generalizing o with
  | nil => rfl
  | cons first rest ih => exact (ih (f first.2 o).2).trans (one first.2 o)

theorem tickAll_next (r : Roster) (scale : Float32) (o : Output) :
    (r.tickAll scale o).2.next = o.next :=
  eachEmitter_next (fun e o => e.tick_next scale o) r.emitters.entries o

end Roster

end Outputs

end AmbientSound
