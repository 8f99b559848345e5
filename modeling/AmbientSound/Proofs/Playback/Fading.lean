import AmbientSound.Proofs.Playback.Additions
import AmbientSound.Proofs.Playback.Ticking
/-!
How long a fade takes. Whatever an emitter went through before, once it is told to fade and left to
it, it ends in time and stops its voice once; a fade that is given up leaves no trace. Meanwhile
others may use the same output.
-/
namespace AmbientSound

inductive Aside where
  | start (a : AcousticId)
  | setVolume (v : VoiceId) (x : Float32)
  | stop (v : VoiceId)
  | once (a : AcousticId) (x : Float32)
  | stopAll
  | fail (a : AcousticId)
  | heal (a : AcousticId)
  | finish (v : VoiceId)

inductive Cue where
  | tick (scale : Float32)
  | fade
  | unfade
  | setThrottle (x : Float32)
  | stop
  | aside (x : Aside)

/-- The voice was stopped so many times, as far as calls are recorded. -/
def Output.Stopped (v : VoiceId) (n : ℕ) (o p : Output) : Prop :=
  p.recording = o.recording ∧ (o.recording = true → p.stopCount v = o.stopCount v + n)

namespace Output

variable {o p q : Output} {v w : VoiceId} {n k : ℕ}

theorem Stopped.of_calls_eq (recording : p.recording = o.recording) (calls : p.calls = o.calls) :
    o.Stopped v 0 p :=
  ⟨recording, fun _ => by rw [stopCount, stopCount, calls, Nat.add_zero]⟩

theorem Stopped.trans (first : o.Stopped v n p) (second : p.Stopped v k q) :
    o.Stopped v (n + k) q := by
  refine ⟨second.1.trans first.1, ?_⟩
  intro on
  rw [second.2 (first.1.trans on), first.2 on, Nat.add_assoc]

theorem Stopped.record (recording : p.recording = o.recording) (calls : p.calls = o.calls)
    (c : Call) : o.Stopped v (if c = .stop v then 1 else 0) (p.record c) := by
  refine ⟨(record_recording p c).trans recording, ?_⟩
  intro on
  rw [stopCount, record_calls p c (recording.trans on), calls, List.countP_append,
    List.countP_singleton]
  cases c <;> simp [stopCount]

theorem stop_stopped (o : Output) (v : VoiceId) : o.Stopped v 1 (o.stop v) := by
  have recorded := Stopped.record (o := o) (v := v) (p := { o with playing := o.playing.erase v })
    rfl rfl (.stop v)
  rwa [if_pos rfl] at recorded

theorem setVolume_stopped (o : Output) (w : VoiceId) (x : Float32) :
    o.Stopped v 0 (o.setVolume w x) :=
  Stopped.record rfl rfl (.setVolume w x)

theorem volume?_setVolume (x : Float32) (heard : o.isDone v = false) :
    (o.setVolume v x).volume? v = some x := by
  cases found : o.playing.get? v with
  | none => simp [isDone, IdentMap.contains, found] at heard
  | some old => simp [volume?, setVolume, found, IdentMap.get?_insert]

end Output

namespace Aside

def on (o : Output) : Aside → Output
  | .start a => (o.start a).2
  | .setVolume v x => o.setVolume v x
  | .stop v => o.stop v
  | .once a x => o.playOnce a x
  | .stopAll => o.stopAll
  | .fail a => o.fail a
  | .heal a => o.heal a
  | .finish v => o.finish v

def Spares (v : VoiceId) : Aside → Prop
  | .stop w => v ≠ w
  | .finish w => v ≠ w
  | .stopAll => False
  | _ => True

variable {v : VoiceId} {x : Aside}

theorem Spares.isDone (spares : x.Spares v) (o : Output) (heard : o.isDone v = false) :
    (x.on o).isDone v = false := by
  cases x with
  | start a => exact o.isDone_start a heard
  | setVolume w y => exact (o.isDone_setVolume y).trans heard
  | stop w => exact (o.isDone_stop_other spares).trans heard
  | once a y => simpa [on, Output.isDone] using heard
  | stopAll => exact spares.elim
  | fail a => exact heard
  | heal a => exact heard
  | finish w => exact (o.isDone_finish_other spares).trans heard

theorem Spares.stopped (spares : x.Spares v) (o : Output) : o.Stopped v 0 (x.on o) := by
  cases x with
  | start a => exact .record rfl rfl (.start a ⟨o.next⟩)
  | setVolume w y => exact o.setVolume_stopped w y
  | stop w =>
    have recorded := Output.Stopped.record (o := o) (v := v)
      (p := { o with playing := o.playing.erase w }) rfl rfl (.stop w)
    rwa [if_neg (by simpa using Ne.symm spares)] at recorded
  | once a y => exact .record rfl rfl (.once a y)
  | stopAll => exact spares.elim
  | fail a => exact .of_calls_eq rfl rfl
  | heal a => exact .of_calls_eq rfl rfl
  | finish w => exact .of_calls_eq rfl rfl

end Aside

namespace Cue

def play (s : Emitter × Output) : Cue → Emitter × Output
  | .tick scale => s.1.tick scale s.2
  | .fade => (s.1.fade, s.2)
  | .unfade => (s.1.unfade, s.2)
  | .setThrottle x => (s.1.setThrottle x, s.2)
  | .stop => s.1.stop s.2
  | .aside x => (s.1, x.on s.2)

def playAll (s : Emitter × Output) (cues : List Cue) : Emitter × Output := cues.foldl play s

def isTick : Cue → Bool
  | .tick _ => true
  | _ => false

def ticks (cues : List Cue) : ℕ := cues.countP isTick

def aside? : Cue → Option Aside
  | .aside x => some x
  | _ => none

def Lets (v : VoiceId) : Cue → Prop
  | .unfade => False
  | .stop => False
  | .aside x => x.Spares v
  | _ => True

theorem play_fadeTicks (s : Emitter × Output) (c : Cue) :
    (c.play s).1.fadeTicks = s.1.fadeTicks := by
  cases c with
  | tick scale => exact (s.1.tick_steps scale s.2).fadeTicks
  | fade =>
    change s.1.fade.fadeTicks = s.1.fadeTicks
    unfold Emitter.fade
    split <;> rfl
  | unfade =>
    change s.1.unfade.fadeTicks = s.1.fadeTicks
    unfold Emitter.unfade
    split <;> rfl
  | setThrottle x => rfl
  | stop =>
    change (s.1.stop s.2).1.fadeTicks = s.1.fadeTicks
    unfold Emitter.stop
    split <;> rfl
  | aside x => rfl

theorem playAll_fadeTicks (s : Emitter × Output) (cues : List Cue) :
    (playAll s cues).1.fadeTicks = s.1.fadeTicks := by
  induction cues generalizing s with
  | nil => rfl
  | cons c rest ih => exact (ih (c.play s)).trans (play_fadeTicks s c)

end Cue

namespace Emitter

/-- How a fade of `n` ticks stands after some of them, when `start` was the output at its
beginning. -/
inductive Course (n : ℕ) (v : VoiceId) (start : Output) : ℕ → Emitter × Output → Prop where
  | goesOn (t : ℕ) (s : Emitter × Output) (voice : s.1.voice = v) (fadeTicks : s.1.fadeTicks = n)
      (phase : s.1.phase = .fading t) (heard : s.2.isDone v = false)
      (short : t = 0 ∨ ¬ 1 ≤ fadeFraction t n) (stopped : start.Stopped v 0 s.2) :
      Course n v start t s
  | ended (t : ℕ) (s : Emitter × Output) (k : ℕ) (phase : s.1.phase = .done) (pos : 0 < k)
      (soon : k ≤ t) (full : 1 ≤ fadeFraction k n) (stopped : start.Stopped v 1 s.2) :
      Course n v start t s

section Steps

variable {e : Emitter} {o : Output} {k : ℕ}

theorem fade_active (active : e.phase = .active) : e.fade = { e with phase := .fading 0 } := by
  rw [fade, active]

theorem fade_fading (fading : e.phase = .fading k) : e.fade = e := by rw [fade, fading]

theorem fade_done (ended : e.phase = .done) : e.fade = e := by rw [fade, ended]

theorem unfade_fading (fading : e.phase = .fading k) :
    e.unfade = { e with phase := .active } := by
  rw [unfade, fading]

theorem unfade_done (ended : e.phase = .done) : e.unfade = e := by rw [unfade, ended]

theorem stop_done (ended : e.phase = .done) : e.stop o = (e, o) := by rw [stop, ended]

theorem tick_last (scale : Float32) (fading : e.phase = .fading k)
    (heard : o.isDone e.voice = false) (full : 1 ≤ fadeFraction (k + 1) e.fadeTicks) :
    e.tick scale o = e.finish o := by
  simp only [tick, fading, heard, Bool.false_eq_true, if_false, if_pos full]
  rfl

theorem tick_onward (scale : Float32) (fading : e.phase = .fading k)
    (heard : o.isDone e.voice = false) (short : ¬ 1 ≤ fadeFraction (k + 1) e.fadeTicks) :
    e.tick scale o = ({ e with phase := .fading (k + 1) } : Emitter).push
      (e.throttle * (1 - fadeFraction (k + 1) e.fadeTicks) * scale) o := by
  simp only [tick, fading, heard, Bool.false_eq_true, if_false, if_neg short]

theorem play_done (ended : e.phase = .done) (c : Cue) :
    (∃ x, (c.play (e, o)).1 = { e with throttle := x }) ∧
      (c.play (e, o)).2 = c.aside?.toList.foldl Aside.on o := by
  cases c with
  | tick scale =>
    rw [Cue.play, tick_done ended]
    exact ⟨⟨e.throttle, rfl⟩, rfl⟩
  | fade =>
    rw [Cue.play, fade_done ended]
    exact ⟨⟨e.throttle, rfl⟩, rfl⟩
  | unfade =>
    rw [Cue.play, unfade_done ended]
    exact ⟨⟨e.throttle, rfl⟩, rfl⟩
  | setThrottle x => exact ⟨⟨_, rfl⟩, rfl⟩
  | stop =>
    rw [Cue.play, stop_done ended]
    exact ⟨⟨e.throttle, rfl⟩, rfl⟩
  | aside x => exact ⟨⟨e.throttle, rfl⟩, rfl⟩

end Steps

section Courses

variable {n t : ℕ} {v : VoiceId} {start : Output} {s : Emitter × Output}

theorem Course.tick (h : Course n v start t s) (scale : Float32) :
    Course n v start (t + 1) (s.1.tick scale s.2) := by
  cases h with
  | goesOn voice fadeTicks phase heard short stopped =>
    rw [← voice] at heard
    rw [← fadeTicks]
    by_cases full : 1 ≤ fadeFraction (t + 1) s.1.fadeTicks
    · rw [tick_last scale phase heard full]
      have once := s.2.stop_stopped s.1.voice
      rw [voice] at once
      exact .ended _ _ (t + 1) rfl (Nat.succ_pos t) le_rfl full
        (by simpa [voice] using stopped.trans once)
    · rw [tick_onward scale phase heard full]
      refine .goesOn _ _ voice rfl rfl ?_ (.inr full) (stopped.trans (s.2.setVolume_stopped _ _))
      rw [push_output, Output.isDone_setVolume, ← voice]
      exact heard
  | ended k phase pos soon full stopped =>
    rw [tick_done phase]
    exact .ended _ s k phase pos (Nat.le_succ_of_le soon) full stopped

theorem Course.play (h : Course n v start t s) {c : Cue} (lets : c.Lets v) :
    Course n v start (t + Cue.ticks [c]) (c.play s) := by
  cases c with
  | tick scale => exact h.tick scale
  | unfade => exact lets.elim
  | stop => exact lets.elim
  | fade =>
    cases h with
    | goesOn voice fadeTicks phase heard short stopped =>
      rw [Cue.play, fade_fading phase]
      exact .goesOn t s voice fadeTicks phase heard short stopped
    | ended k phase pos soon full stopped =>
      rw [Cue.play, fade_done phase]
      exact .ended t s k phase pos soon full stopped
  | setThrottle x =>
    cases h with
    | goesOn voice fadeTicks phase heard short stopped =>
      exact .goesOn t _ voice fadeTicks phase heard short stopped
    | ended k phase pos soon full stopped => exact .ended t _ k phase pos soon full stopped
  | aside x =>
    have spares : x.Spares v := lets
    cases h with
    | goesOn voice fadeTicks phase heard short stopped =>
      exact .goesOn t _ voice fadeTicks phase (spares.isDone s.2 heard) short
        (stopped.trans (spares.stopped s.2))
    | ended k phase pos soon full stopped =>
      exact .ended t _ k phase pos soon full (stopped.trans (spares.stopped s.2))

theorem Course.playAll (h : Course n v start t s) {cues : List Cue} (lets : ∀ c ∈ cues, c.Lets v) :
    Course n v start (t + Cue.ticks cues) (Cue.playAll s cues) := by
  induction cues generalizing t s with
  | nil => exact h
  | cons c rest ih =>
    have later := ih (h.play (lets c (by simp))) fun d mem => lets d (List.mem_cons_of_mem c mem)
    have count : Cue.ticks ([c] ++ rest) = Cue.ticks [c] + Cue.ticks rest := List.countP_append
    rw [List.singleton_append] at count
    rw [count, ← Nat.add_assoc]
    exact later

/-- In time a fade is over. -/
theorem Course.in_time (h : Course n v start t s) (late : max n 1 ≤ t) :
    s.1.phase = .done ∧ start.Stopped v 1 s.2 := by
  cases h with
  | goesOn voice fadeTicks phase heard short stopped =>
    rcases short with rfl | short
    · omega
    · exact absurd (fadeFraction_full (by omega)) short
  | ended k phase pos soon full stopped => exact ⟨phase, stopped⟩

/-- A fade whose ticks are exact as singles is not over before its time. -/
theorem Course.underway (h : Course n v start t s) (small : n ≤ 2 ^ 24) (early : t < max n 1) :
    s.1.phase = .fading t ∧ start.Stopped v 0 s.2 := by
  cases h with
  | goesOn voice fadeTicks phase heard short stopped => exact ⟨phase, stopped⟩
  | ended k phase pos soon full stopped => exact absurd full (fadeFraction_part (by omega) small)

end Courses

/-- Told to fade, and left to it while its voice is heard, the emitter takes its time and stops its
voice once. -/
structure FadesInFull (n : ℕ) (e : Emitter) (o : Output) : Prop where
  ends : ∀ cues, (∀ c ∈ cues, c.Lets e.voice) → max n 1 ≤ Cue.ticks cues →
    (Cue.playAll (e.fade, o) cues).1.phase = .done ∧
      o.Stopped e.voice 1 (Cue.playAll (e.fade, o) cues).2
  lasts : n ≤ 2 ^ 24 → ∀ cues, (∀ c ∈ cues, c.Lets e.voice) → Cue.ticks cues < max n 1 →
    (Cue.playAll (e.fade, o) cues).1.phase = .fading (Cue.ticks cues) ∧
      o.Stopped e.voice 0 (Cue.playAll (e.fade, o) cues).2

structure Whole (n : ℕ) (e : Emitter) (o : Output) : Prop where
  active : e.phase = .active
  progress : e.progress = 0
  pushes : ∀ scale, o.isDone e.voice = false →
    e.tick scale o = ({ e with volume := e.throttle * scale },
      o.setVolume e.voice (e.throttle * scale)) ∧
    (e.tick scale o).2.volume? e.voice = some (e.throttle * scale)
  fades : o.isDone e.voice = false → e.FadesInFull n o

/-- The emitter is done and only takes throttles any more. It makes no call: the output only sees what
others do. -/
structure AtRest (e : Emitter) (o : Output) : Prop where
  done : ∀ cues, (Cue.playAll (e, o) cues).1.phase = .done
  still : ∀ cues, ∃ x, (Cue.playAll (e, o) cues).1 = { e with throttle := x }
  silent : ∀ cues,
    (Cue.playAll (e, o) cues).2 = (cues.filterMap Cue.aside?).foldl Aside.on o

section Endings

variable {n : ℕ} {e : Emitter} {o : Output}

theorem fadesInFull (active : e.phase = .active) (fadeTicks : e.fadeTicks = n)
    (heard : o.isDone e.voice = false) : e.FadesInFull n o := by
  have begun : Course n e.voice o 0 (e.fade, o) := by
    rw [fade_active active]
    exact .goesOn 0 _ rfl fadeTicks rfl heard (.inl rfl) (.of_calls_eq rfl rfl)
  have course (cues : List Cue) (lets : ∀ c ∈ cues, c.Lets e.voice) :
      Course n e.voice o (Cue.ticks cues) (Cue.playAll (e.fade, o) cues) := by
    simpa using begun.playAll lets
  exact ⟨fun cues lets late => (course cues lets).in_time late,
    fun small cues lets early => (course cues lets).underway small early⟩

theorem whole (active : e.phase = .active) (fadeTicks : e.fadeTicks = n) : e.Whole n o where
  active := active
  progress := by rw [progress, active]
  pushes := by
    intro scale heard
    have pushed : e.tick scale o = e.push (e.throttle * scale) o := tick_active active heard
    rw [pushed]
    exact ⟨rfl, Output.volume?_setVolume _ heard⟩
  fades := fadesInFull active fadeTicks

theorem playAll_done (ended : e.phase = .done) (cues : List Cue) :
    (∃ x, (Cue.playAll (e, o) cues).1 = { e with throttle := x }) ∧
      (Cue.playAll (e, o) cues).2 = (cues.filterMap Cue.aside?).foldl Aside.on o := by
  induction cues generalizing e o with
  | nil => exact ⟨⟨e.throttle, rfl⟩, rfl⟩
  | cons c rest ih =>
    obtain ⟨⟨x, first⟩, output⟩ := play_done (o := o) ended c
    have played : c.play (e, o) = ({ e with throttle := x }, c.aside?.toList.foldl Aside.on o) :=
      Prod.ext first output
    have later : Cue.playAll (e, o) (c :: rest) = Cue.playAll (c.play (e, o)) rest := rfl
    rw [later, played]
    obtain ⟨⟨y, last⟩, all⟩ := ih (e := { e with throttle := x }) ended
    refine ⟨⟨y, last⟩, all.trans ?_⟩
    cases c <;> rfl

theorem atRest (ended : e.phase = .done) : e.AtRest o where
  done := by
    intro cues
    obtain ⟨⟨x, same⟩, -⟩ := playAll_done (o := o) ended cues
    rw [same]
    exact ended
  still := fun cues => (playAll_done ended cues).1
  silent := fun cues => (playAll_done ended cues).2

end Endings

/-- Whatever an emitter was told and whatever happened meanwhile: if it is active, it is as if it had
never begun to fade; if it is fading, it is so again once the fade is given up; and if it is done, it
is so for ever. -/
theorem history_free (a : AcousticId) (throttle : Float32) (n : ℕ) (o : Output)
    (history : List Cue) :
    let s := Cue.playAll (start a throttle n o) history
    (s.1.phase = .active → s.1.Whole n s.2) ∧ (s.1.isFading = true → s.1.unfade.Whole n s.2) ∧
      (s.1.isDone = true → s.1.AtRest s.2) := by
  intro s
  have length : s.1.fadeTicks = n := Cue.playAll_fadeTicks _ history
  refine ⟨fun active => whole active length, ?_, ?_⟩
  · intro fading
    cases phase : s.1.phase with
    | fading k =>
      rw [unfade_fading phase]
      exact whole rfl length
    | active => simp [isFading, phase] at fading
    | done => simp [isFading, phase] at fading
  · intro ended
    exact atRest (by simpa [isDone] using ended)

def resumed : Emitter × Output :=
  Cue.playAll (start ⟨3⟩ 0.8 4 (.silent true))
    [.tick 1, .fade, .tick 1, .tick 1, .unfade, .setThrottle 0.5]

theorem resumed_history_free :
    (resumed.1.phase = .active ∧ resumed.2.isDone resumed.1.voice = false) ∧
      (Cue.playAll (resumed.1.fade, resumed.2) (.replicate 3 (.tick 1))).1.phase = .fading 3 ∧
      (Cue.playAll (resumed.1.fade, resumed.2) (.replicate 4 (.tick 1))).1.phase = .done ∧
      resumed.2.Stopped resumed.1.voice 1
        (Cue.playAll (resumed.1.fade, resumed.2) (.replicate 4 (.tick 1))).2 := by
  have active : resumed.1.phase = .active := by decide +kernel
  have heard : resumed.2.isDone resumed.1.voice = false := by decide +kernel
  have fades : resumed.1.FadesInFull 4 resumed.2 :=
    ((history_free ⟨3⟩ 0.8 4 (.silent true)
      [.tick 1, .fade, .tick 1, .tick 1, .unfade, .setThrottle 0.5]).1 active).fades heard
  have lets {m : ℕ} : ∀ c ∈ List.replicate m (Cue.tick 1), c.Lets resumed.1.voice := by
    intro c mem
    rw [List.eq_of_mem_replicate mem]
    trivial
  exact ⟨⟨active, heard⟩, (fades.lasts (by decide) _ lets (by decide)).1,
    fades.ends _ lets (by decide)⟩

end Emitter

end AmbientSound
