import AmbientSound.Proofs.Mix.AreaVolume
import AmbientSound.Proofs.Playback.Ownership
import AmbientSound.Proofs.Playback.Ticking
import AmbientSound.Proofs.Session.Deeds
/-!
How the emitters fall in line with a mix that stays the same: what is wanted is heard at its volume,
and whatever else there was fades and is removed. For each acoustic a countdown says how many ticks
that still takes.
-/
namespace AmbientSound

namespace Session

structure InLine (wanted : AcousticId → Option Float32) (s : Session) : Prop where
  heard : ∀ a v, wanted a = some v → ∃ voice, s.output.isDone voice = false ∧ s.roster.get? a =
    some ⟨a, voice, v, .active, s.settings.fadeTicks, v * s.settings.scale⟩
  gone : ∀ a, wanted a = none → s.roster.get? a = none

/-- A cycle is due after `d` more ticks. -/
def DueIn (s : Session) (d : Nat) : Prop := fallsOn (s.tick + d) s.settings.interval = true

theorem exists_dueIn (s : Session) (pos : 0 < s.settings.interval) :
    ∃ d, d < s.settings.interval ∧ s.DueIn d := by
  have some : max s.settings.interval 1 = s.settings.interval := by omega
  have below := Nat.mod_lt s.tick pos
  have parts := Nat.div_add_mod s.tick s.settings.interval
  simp only [DueIn, fallsOn, some, beq_iff_eq]
  by_cases now : s.tick % s.settings.interval = 0
  · exact ⟨0, pos, now⟩
  · refine ⟨s.settings.interval - s.tick % s.settings.interval, by omega, ?_⟩
    have round : s.tick + (s.settings.interval - s.tick % s.settings.interval) =
        s.settings.interval * (s.tick / s.settings.interval + 1) := by
      rw [Nat.mul_add]
      omega
    rw [round, Nat.mul_mod_right]

theorem DueIn.next {s t : Session} {d : Nat} (h : s.DueIn d) (idle : s.isDue = false)
    (time : t.tick = s.tick + 1) (settings : t.settings = s.settings) :
    ∃ c, d = c + 1 ∧ t.DueIn c := by
  cases d with
  | zero =>
    rw [DueIn, Nat.add_zero] at h
    rw [isDue, h] at idle
    cases idle
  | succ c =>
    refine ⟨c, rfl, ?_⟩
    rw [DueIn, time, settings, Nat.add_assoc, Nat.add_comm 1 c]
    exact h

structure Tidy (s : Session) : Prop where
  numbered : Numbered s.stage
  fades : s.roster.Fades s.settings.fadeTicks

/-- Before the emitters of a session take their step in a tick they are as they were, or a cycle
was due and has brought them in line with a mix. -/
inductive Prepared (wanted : AcousticId → Option Float32) (s : Session) (started : List AcousticId) :
    Roster → Output → Prop where
  | idle (none : s.isDue = false) : Prepared wanted s started s.roster s.output
  | mixed (m : Mix) (o : Output) (due : s.isDue = true) (asks : ∀ a, m.get? a = wanted a)
      (next : o.next = s.output.next) (playing : o.playing = s.output.playing)
      (failing : o.failing = s.output.failing)
      (starts : ∀ n ∈ (s.roster.reconcile m o).newcomers, n.1 ∈ started) :
      Prepared wanted s started (s.roster.reconcile m o).roster (s.roster.reconcile m o).output

structure Stepped (r : Roster) (o : Output) (scale : Float32) (t : Session) : Prop where
  absent : ∀ a, r.get? a = none → t.roster.get? a = none
  present : ∀ a e, r.get? a = some e → ∃ o', o'.isDone e.voice = o.isDone e.voice ∧
    t.roster.get? a = some (e.tick scale o').1 ∧
      t.output.isDone e.voice = (e.tick scale o').2.isDone e.voice

structure Turn (wanted : AcousticId → Option Float32) (s : Session) (started : List AcousticId)
    (t : Session) : Prop where
  settings : t.settings = s.settings
  time : t.tick = s.tick + 1
  steps : ∃ r o, Prepared wanted s started r o ∧ Stepped r o s.settings.scale t

/-- After at most `n` ticks nothing is left of an acoustic that is not wanted. -/
inductive Leaving (s : Session) (a : AcousticId) (n : Nat) : Prop where
  | gone (absent : s.roster.get? a = none)
  | finished (e : Emitter) (d : Nat) (found : s.roster.get? a = some e) (ended : e.phase = .done)
      (due : s.DueIn d) (soon : d < n)
  | fading (e : Emitter) (k : Nat) (found : s.roster.get? a = some e) (phase : e.phase = .fading k)
      (soon : e.fadeTicks - (k + 1) + s.settings.interval < n)
  | active (e : Emitter) (d : Nat) (found : s.roster.get? a = some e) (phase : e.phase = .active)
      (due : s.DueIn d) (soon : d + max e.fadeTicks 1 + s.settings.interval ≤ n)

/-- After at most `n` ticks a wanted acoustic is heard at its volume. -/
inductive Joining (s : Session) (a : AcousticId) (v : Float32) (n : Nat) : Prop where
  | heard (voice : VoiceId) (sounds : s.output.isDone voice = false) (found : s.roster.get? a =
      some ⟨a, voice, v, .active, s.settings.fadeTicks, v * s.settings.scale⟩)
  | waiting (d : Nat) (ready : ∀ e, s.roster.get? a = some e →
        e.isDone = true ∨ s.output.isDone e.voice = false)
      (due : s.DueIn d) (soon : d < n)
  | unsure (soon : s.settings.interval < n)

section Turns

variable {wanted : AcousticId → Option Float32} {s t : Session} {started : List AcousticId}
  {a : AcousticId} {v : Float32} {n : Nat}

theorem Leaving.finished_of {e : Emitter} (pos : 0 < s.settings.interval)
    (found : s.roster.get? a = some e) (ended : e.isDone = true) (soon : s.settings.interval ≤ n) :
    s.Leaving a n := by
  obtain ⟨d, less, due⟩ := s.exists_dueIn pos
  exact .finished e d found (by simpa [Emitter.isDone] using ended) due (by omega)

/-- From wherever an emitter stands, two intervals and a fade less a tick are enough. -/
theorem Tidy.leaving (h : s.Tidy) (pos : 0 < s.settings.interval) (a : AcousticId)
    (long : 2 * s.settings.interval + max s.settings.fadeTicks 1 ≤ n + 1) : s.Leaving a n := by
  obtain ⟨d, less, due⟩ := s.exists_dueIn pos
  cases found : s.roster.get? a with
  | none => exact .gone found
  | some e =>
    have same := h.fades.emitters a e found
    cases phase : e.phase with
    | active => exact .active e d found phase due (by omega)
    | fading k => exact .fading e k found phase (by omega)
    | done => exact .finished e d found phase due (by omega)

theorem Leaving.congr {output : Output} (h : s.Leaving a n) :
    Leaving { s with output := output } a n := by
  cases h with
  | gone absent => exact .gone absent
  | finished e d found ended due soon => exact .finished e d found ended due soon
  | fading e k found phase soon => exact .fading e k found phase soon
  | active e d found phase due soon => exact .active e d found phase due soon

theorem Stepped.of_fading {r : Roster} {o : Output} {scale : Float32} {e : Emitter} {k : Nat}
    (steps : Stepped r o scale t) (found : r.get? a = some e) (phase : e.phase = .fading k) :
    ∃ f, t.roster.get? a = some f ∧ f.fadeTicks = e.fadeTicks ∧
      (f.isDone = true ∨ f.phase = .fading (k + 1) ∧ k + 1 < e.fadeTicks) := by
  obtain ⟨o', -, there, -⟩ := steps.present a e found
  exact ⟨_, there, (e.tick_steps scale o').fadeTicks, Emitter.tick_of_fading phase⟩

namespace Turn

variable {e : Emitter}

theorem of_absent (turn : Turn wanted s started t) (unwanted : wanted a = none)
    (absent : s.roster.get? a = none) : t.roster.get? a = none := by
  obtain ⟨-, -, r, o, prepared, steps⟩ := turn
  apply steps.absent
  cases prepared with
  | idle none => exact absent
  | mixed m x due asks =>
    exact Roster.reconcile_get?_removed (by simp [absent]) ((asks a).trans unwanted)

theorem of_done (turn : Turn wanted s started t) (unwanted : wanted a = none)
    (found : s.roster.get? a = some e) (ended : e.isDone = true) :
    (s.isDue = false ∧ t.roster.get? a = some e) ∨ t.roster.get? a = none := by
  obtain ⟨-, -, r, o, prepared, steps⟩ := turn
  cases prepared with
  | idle none =>
    obtain ⟨o', -, there, -⟩ := steps.present a e found
    rw [Emitter.tick_done (by simpa [Emitter.isDone] using ended)] at there
    exact .inl ⟨none, there⟩
  | mixed m x due asks =>
    refine .inr (steps.absent a (Roster.reconcile_get?_removed ?_ ((asks a).trans unwanted)))
    intro f found'
    obtain rfl : e = f := Option.some.inj (found.symm.trans found')
    exact ended

theorem of_fading (turn : Turn wanted s started t) (unwanted : wanted a = none) {k : Nat}
    (found : s.roster.get? a = some e) (phase : e.phase = .fading k) :
    ∃ f, t.roster.get? a = some f ∧ f.fadeTicks = e.fadeTicks ∧
      (f.isDone = true ∨ f.phase = .fading (k + 1) ∧ k + 1 < e.fadeTicks) := by
  obtain ⟨-, -, r, o, prepared, steps⟩ := turn
  apply steps.of_fading _ phase
  cases prepared with
  | idle none => exact found
  | mixed m x due asks =>
    have alive : e.isDone = false := by simp [Emitter.isDone, phase]
    rw [Roster.reconcile_get?_faded found alive ((asks a).trans unwanted), Emitter.fade, phase]

theorem of_active (turn : Turn wanted s started t) (unwanted : wanted a = none)
    (found : s.roster.get? a = some e) (phase : e.phase = .active) :
    ∃ f, t.roster.get? a = some f ∧ f.fadeTicks = e.fadeTicks ∧ (f.isDone = true ∨
      (s.isDue = false ∧ f.phase = .active) ∨ f.phase = .fading 1 ∧ 1 < e.fadeTicks) := by
  obtain ⟨-, -, r, o, prepared, steps⟩ := turn
  cases prepared with
  | idle none =>
    obtain ⟨o', -, there, -⟩ := steps.present a e found
    refine ⟨_, there, (e.tick_steps s.settings.scale o').fadeTicks, ?_⟩
    rcases Emitter.tick_of_active phase with ended | active
    · exact .inl ended
    · exact .inr (.inl ⟨none, active⟩)
  | mixed m x due asks =>
    have alive : e.isDone = false := by simp [Emitter.isDone, phase]
    have begun : e.fade = { e with phase := .fading 0 } := by rw [Emitter.fade, phase]
    have faded := Roster.reconcile_get?_faded (o := x) found alive ((asks a).trans unwanted)
    rw [begun] at faded
    obtain ⟨f, there, same, rest⟩ := steps.of_fading faded rfl
    exact ⟨f, there, same, rest.imp_right .inr⟩

end Turn

theorem Leaving.tick (h : s.Leaving a (n + 1)) (turn : Turn wanted s started t)
    (pos : 0 < s.settings.interval) (unwanted : wanted a = none) : t.Leaving a n := by
  have interval : t.settings.interval = s.settings.interval := by rw [turn.settings]
  have pos' : 0 < t.settings.interval := by omega
  cases h with
  | gone absent => exact .gone (turn.of_absent unwanted absent)
  | finished e d found ended due soon =>
    rcases turn.of_done unwanted found (by simp [Emitter.isDone, ended]) with ⟨idle, there⟩ | absent
    · obtain ⟨c, rfl, later⟩ := due.next idle turn.time turn.settings
      exact .finished e c there ended later (by omega)
    · exact .gone absent
  | fading e k found phase soon =>
    obtain ⟨f, there, length, ended | ⟨longer, short⟩⟩ := turn.of_fading unwanted found phase
    · exact .finished_of pos' there ended (by omega)
    · exact .fading f (k + 1) there longer (by omega)
  | active e d found phase due soon =>
    obtain ⟨f, there, length, ended | ⟨idle, active⟩ | ⟨begun, short⟩⟩ :=
      turn.of_active unwanted found phase
    · exact .finished_of pos' there ended (by omega)
    · obtain ⟨c, rfl, later⟩ := due.next idle turn.time turn.settings
      exact .active f c there active later (by omega)
    · exact .fading f 1 there begun (by omega)

theorem Stepped.heard {r : Roster} {o : Output} {e : Emitter}
    (steps : Stepped r o t.settings.scale t) (found : r.get? a = some e) (acoustic : e.acoustic = a)
    (throttle : e.throttle = v) (phase : e.phase = .active)
    (fadeTicks : e.fadeTicks = t.settings.fadeTicks) (sounds : o.isDone e.voice = false) :
    t.Joining a v n := by
  obtain ⟨o', same, there, heard⟩ := steps.present a e found
  rw [Emitter.tick_active phase (same.trans sounds)] at there heard
  refine .heard e.voice ?_ ?_
  · rw [heard, Emitter.push_output, Output.isDone_setVolume, same, sounds]
  · rw [there, Emitter.push, acoustic, throttle, phase, fadeTicks]

theorem Stepped.ready {r : Roster} {o : Output} {scale : Float32} (steps : Stepped r o scale t)
    (e : Emitter) (found : t.roster.get? a = some e) :
    e.isDone = true ∨ t.output.isDone e.voice = false := by
  cases before : r.get? a with
  | none =>
    rw [steps.absent a before] at found
    cases found
  | some f =>
    obtain ⟨o', -, there, heard⟩ := steps.present a f before
    have step := f.tick_steps scale o'
    obtain rfl := Option.some.inj (there.symm.trans found)
    rw [step.voice, heard]
    exact step.heard

/-- A tick brings a wanted acoustic a tick closer to being heard, unless its start fails. -/
theorem Joining.tick (h : s.Joining a v (n + 1)) (turn : Turn wanted s started t)
    (pos : 0 < s.settings.interval) (tidy : s.Tidy) (wants : wanted a = some v)
    (audible : Single.Audible v) (works : ∀ b ∈ started, s.output.failing.contains b = false) :
    t.Joining a v n := by
  obtain ⟨settings, time, r, o, prepared, steps⟩ := turn
  have unit : Single.clampUnit v = v := by
    obtain ⟨k, weighs, -, le⟩ := audible
    exact Single.clampUnit_eq_self weighs le
  rw [← settings] at steps
  cases h with
  | heard voice sounds found =>
    rw [← settings] at found
    cases prepared with
    | idle none => exact steps.heard found rfl rfl rfl rfl sounds
    | mixed m x due asks next playing =>
      have there := Roster.reconcile_get?_wanted (o := x) found rfl ((asks a).trans wants)
        audible.pos
      refine steps.heard there rfl unit rfl rfl (Roster.reconcile_isDone ?_)
      rwa [Output.isDone, playing]
  | waiting d prompt due soon =>
    cases prepared with
    | idle none =>
      obtain ⟨c, rfl, later⟩ := due.next none time settings
      exact .waiting c steps.ready later (by omega)
    | mixed m x due asks next playing failing starts =>
      have asked := (asks a).trans wants
      by_cases gone : ∀ e, s.roster.get? a = some e → e.isDone = true
      · obtain ⟨voice, new, heard⟩ :=
          Roster.reconcile_get?_new (o := x) gone asked audible.not_le_zero
        have newcomer := Roster.mem_newcomers.mpr
          ⟨asked, Roster.live_get?_eq_none gone, audible.not_le_zero⟩
        rw [tidy.fades.roster, ← settings] at new
        refine steps.heard new rfl unit rfl rfl (heard ?_)
        rw [failing]
        rw [Roster.reconcile_newcomers] at starts
        exact works a (starts (a, v) newcomer)
      · simp only [Classical.not_forall, exists_prop, Bool.not_eq_true] at gone
        obtain ⟨e, found, alive⟩ := gone
        have there := Roster.reconcile_get?_wanted (o := x) found alive asked audible.pos
        have keyed := tidy.numbered.keyed (a, e) ((s.roster.emitters.get?_eq_some_iff a e).mp found)
        have length := tidy.fades.emitters a e found
        rw [← settings] at length
        refine steps.heard there keyed unit rfl length (Roster.reconcile_isDone ?_)
        have heard := (prompt e found).resolve_left (by simp [alive])
        rwa [Output.isDone, playing]
  | unsure soon =>
    obtain ⟨d, less, due⟩ := t.exists_dueIn (by rwa [settings])
    rw [settings] at less
    exact .waiting d steps.ready due (by omega)

end Turns

end Session

end AmbientSound
