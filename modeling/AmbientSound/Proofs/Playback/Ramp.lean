import AmbientSound.Proofs.Playback.Fading
/-!
How a fade sounds. From the last volume of an active emitter on no tick is louder than the one before
it, however the counters of the fade are rounded, and the end is silent.
-/
namespace AmbientSound

open Single (Share Weighs)

namespace Cue

/-- The emitter ticks at one scale, and is neither told to play on nor given another throttle. -/
def Dims (scale : Float32) : Cue → Prop
  | .tick x => x = scale
  | .unfade => False
  | .setThrottle _ => False
  | _ => True

def volumes (s : Emitter × Output) : List Cue → List Float32
  | [] => [s.1.volume]
  | c :: rest => s.1.volume :: volumes (c.play s) rest

theorem play_voice (s : Emitter × Output) (c : Cue) : (c.play s).1.voice = s.1.voice := by
  cases c with
  | tick scale => exact (s.1.tick_steps scale s.2).voice
  | fade =>
    change s.1.fade.voice = s.1.voice
    unfold Emitter.fade
    split <;> rfl
  | unfade =>
    change s.1.unfade.voice = s.1.voice
    unfold Emitter.unfade
    split <;> rfl
  | setThrottle x => rfl
  | stop =>
    change (s.1.stop s.2).1.voice = s.1.voice
    unfold Emitter.stop
    split <;> rfl
  | aside x => rfl

theorem playAll_voice (s : Emitter × Output) (cues : List Cue) :
    (playAll s cues).1.voice = s.1.voice := by
  induction cues generalizing s with
  | nil => rfl
  | cons c rest ih => exact (ih (c.play s)).trans (play_voice s c)

end Cue

namespace Emitter

def level (throttle scale : Float32) (fadeTicks : ℕ) : Phase → Float32
  | .active => throttle * scale
  | .fading 0 => throttle * scale
  | .fading (k + 1) => throttle * (1 - fadeFraction (k + 1) fadeTicks) * scale
  | .done => 0

section Levels

variable {throttle scale : Float32} {n m k : ℕ}

theorem level_weighs (share : Share throttle) (whole : Weighs scale k) (phase : Phase) :
    ∃ r, Weighs (level throttle scale n phase) r := by
  have loud {x : Float32} (part : Share x) : ∃ r, Weighs (x * scale) r := by
    obtain ⟨r, product, -⟩ := part.mul_weighs whole
    exact ⟨r, product⟩
  match phase with
  | .active => exact loud share
  | .fading 0 => exact loud share
  | .fading (j + 1) => exact loud (share.mul (fadeFraction_share (j + 1) n).one_sub)
  | .done => exact ⟨0, Single.zero_weighs⟩

/-- The phases between which a tick plays on. -/
inductive Onward : Phase → Phase → Prop where
  | active : Onward .active .active
  | fading (j : ℕ) : Onward (.fading j) (.fading (j + 1))

theorem Onward.level_le {p q : Phase} (h : Onward p q) (share : Share throttle)
    (whole : Weighs scale k) : level throttle scale n q ≤ level throttle scale n p := by
  have rest (i : ℕ) : Share (1 - fadeFraction i n) := (fadeFraction_share i n).one_sub
  cases h with
  | active =>
    obtain ⟨r, weighs⟩ := level_weighs (n := n) share whole .active
    exact (Single.le_iff weighs weighs).mpr le_rfl
  | fading j =>
    cases j with
    | zero => exact (share.mul (rest 1)).mul_mono_left share (share.mul_le_left (rest 1)) whole
    | succ j =>
      have less : 1 - fadeFraction (j + 2) n ≤ 1 - fadeFraction (j + 1) n :=
        (fadeFraction_share (j + 1) n).one_sub_anti (fadeFraction_share (j + 2) n)
          (fadeFraction_mono (Nat.le_succ (j + 1)))
      exact (share.mul (rest (j + 2))).mul_mono_left (share.mul (rest (j + 1)))
        (share.mul_mono (rest (j + 2)) (rest (j + 1)) less) whole

end Levels

inductive Ticked (scale : Float32) (e : Emitter) (o : Output) : Emitter × Output → Prop where
  | rested (ended : e.phase = .done) : Ticked scale e o (e, o)
  | ended : Ticked scale e o (e.finish o)
  | played (p : Phase) (onward : Onward e.phase p) : Ticked scale e o
      (({ e with phase := p } : Emitter).push (level e.throttle scale e.fadeTicks p) o)

theorem ticked (scale : Float32) (e : Emitter) (o : Output) : Ticked scale e o (e.tick scale o) := by
  cases phase : e.phase with
  | done =>
    rw [tick_done phase]
    exact .rested phase
  | active =>
    cases heard : o.isDone e.voice with
    | true =>
      have ended : e.tick scale o = e.finish o := by simp [tick, phase, heard]
      rw [ended]
      exact .ended
    | false =>
      have onward : Onward e.phase .active := by
        rw [phase]
        exact .active
      have same : e = { e with phase := .active } := by rw [← phase]
      rw [tick_active phase heard]
      have played : Ticked scale e o _ := .played .active onward
      rwa [← same] at played
  | fading j =>
    cases heard : o.isDone e.voice with
    | true =>
      have ended : e.tick scale o = e.finish o := by simp [tick, phase, heard]
      rw [ended]
      exact .ended
    | false =>
      by_cases full : 1 ≤ fadeFraction (j + 1) e.fadeTicks
      · rw [tick_last scale phase heard full]
        exact .ended
      · have onward : Onward e.phase (.fading (j + 1)) := by
          rw [phase]
          exact .fading j
        rw [tick_onward scale phase heard full]
        exact .played (.fading (j + 1)) onward

theorem tick_pushes {e : Emitter} {o : Output} {scale : Float32}
    (alive : (e.tick scale o).1.isDone = false) :
    (e.tick scale o).2 = o.setVolume e.voice (e.tick scale o).1.volume := by
  have ticked := ticked scale e o
  generalize e.tick scale o = t at ticked alive ⊢
  cases ticked with
  | rested ended => simp [isDone, ended] at alive
  | ended => simp at alive
  | played p onward => rfl

structure Level (scale : Float32) (e : Emitter) : Prop where
  share : Share e.throttle
  volume : e.volume = level e.throttle scale e.fadeTicks e.phase

namespace Level

variable {e : Emitter} {s : Emitter × Output} {scale : Float32} {k m : ℕ} {c : Cue}

structure Below (scale : Float32) (m : ℕ) (e : Emitter) : Prop where
  level : Level scale e
  below : ∃ r, Weighs e.volume r ∧ r ≤ m

theorem done (h : Level scale e) (ended : e.phase = .done) : e.volume = 0 := by
  rw [h.volume, ended]
  rfl

theorem below_refl (h : Level scale e) (weighs : Weighs e.volume m) : Below scale m e :=
  ⟨h, m, weighs, le_rfl⟩

theorem finish (h : Level scale e) (o : Output) : Below scale m (e.finish o).1 :=
  ⟨⟨h.share, rfl⟩, 0, Single.zero_weighs, Nat.zero_le m⟩

theorem tick (h : Level scale e) (whole : Weighs scale k) (weighs : Weighs e.volume m)
    (o : Output) : Below scale m (e.tick scale o).1 := by
  have ticked := ticked scale e o
  generalize e.tick scale o = t at ticked ⊢
  cases ticked with
  | rested ended => exact h.below_refl weighs
  | ended => exact h.finish o
  | played p onward =>
    obtain ⟨r, next⟩ := level_weighs (n := e.fadeTicks) h.share whole p
    rw [h.volume] at weighs
    exact ⟨⟨h.share, rfl⟩, r, next,
      (Single.le_iff next weighs).mp (onward.level_le h.share whole)⟩

theorem play (h : Level scale s.1) (whole : Weighs scale k) (weighs : Weighs s.1.volume m)
    (dims : c.Dims scale) : Below scale m (c.play s).1 := by
  cases c with
  | tick x =>
    obtain rfl : x = scale := dims
    exact h.tick whole weighs s.2
  | unfade => exact dims.elim
  | setThrottle x => exact dims.elim
  | aside x => exact h.below_refl weighs
  | fade =>
    cases phase : s.1.phase with
    | active =>
      rw [Cue.play, fade_active phase]
      refine below_refl ⟨h.share, ?_⟩ weighs
      rw [h.volume, phase]
      rfl
    | fading j =>
      rw [Cue.play, fade_fading phase]
      exact h.below_refl weighs
    | done =>
      rw [Cue.play, fade_done phase]
      exact h.below_refl weighs
  | stop =>
    rw [Cue.play]
    unfold Emitter.stop
    split
    · exact h.below_refl weighs
    · exact h.finish s.2

theorem playAll {cues : List Cue} (h : Level scale s.1) (whole : Weighs scale k)
    (weighs : Weighs s.1.volume m) (dims : ∀ c ∈ cues, c.Dims scale) :
    Level scale (Cue.playAll s cues).1 := by
  induction cues generalizing s m with
  | nil => exact h
  | cons c rest ih =>
    obtain ⟨level, r, next, -⟩ := h.play whole weighs (dims c (by simp))
    exact ih level next fun d mem => dims d (List.mem_cons_of_mem c mem)

theorem volumes {cues : List Cue} (h : Level scale s.1) (whole : Weighs scale k)
    (weighs : Weighs s.1.volume m) (dims : ∀ c ∈ cues, c.Dims scale) :
    (∀ v ∈ Cue.volumes s cues, ∃ r, Weighs v r ∧ r ≤ m) ∧
      (Cue.volumes s cues).Pairwise fun v w => w ≤ v := by
  induction cues generalizing s m with
  | nil => exact ⟨by simpa [Cue.volumes] using ⟨m, weighs, le_rfl⟩, List.pairwise_singleton _ _⟩
  | cons c rest ih =>
    obtain ⟨level, r, next, less⟩ := h.play whole weighs (dims c (by simp))
    obtain ⟨all, falling⟩ := ih level next fun d mem => dims d (List.mem_cons_of_mem c mem)
    have later : ∀ v ∈ Cue.volumes (c.play s) rest, ∃ q, Weighs v q ∧ q ≤ m := by
      intro v mem
      obtain ⟨q, weighs', less'⟩ := all v mem
      exact ⟨q, weighs', less'.trans less⟩
    refine ⟨List.forall_mem_cons.mpr ⟨⟨m, weighs, le_rfl⟩, later⟩,
      List.pairwise_cons.mpr ⟨?_, falling⟩⟩
    intro v mem
    obtain ⟨q, weighs', less'⟩ := later v mem
    exact (Single.le_iff weighs' weighs).mpr less'

end Level

structure Quietens (scale : Float32) (e : Emitter) (s : Emitter × Output) (cues : List Cue) :
    Prop where
  falling : (Cue.volumes s cues).Pairwise fun v w => w ≤ v
  within : ∀ v ∈ Cue.volumes s cues, 0 ≤ v ∧ v ≤ e.throttle * scale
  pushed : ∀ before after, cues = before ++ .tick scale :: after →
    let t := Cue.playAll s before
    (t.1.tick scale t.2).1.isDone = false →
      (t.1.tick scale t.2).2 = t.2.setVolume e.voice (t.1.tick scale t.2).1.volume
  silent : ∀ before after, cues = before ++ after → (Cue.playAll s before).1.isDone = true →
    (Cue.playAll s before).1.volume = 0

/-- From the tick of an active emitter on, through a fade or an end of the voice at any point, no
volume is above the one before. -/
theorem never_louder (e : Emitter) (o : Output) (scale : Float32) (cues : List Cue)
    (throttle : 0 ≤ e.throttle ∧ e.throttle ≤ 1) (finite : scale.isFinite = true)
    (nonneg : 0 ≤ scale) (active : e.phase = .active) (heard : o.isDone e.voice = false)
    (dims : ∀ c ∈ cues, c.Dims scale) :
    (e.tick scale o).1.volume = e.throttle * scale ∧
      Quietens scale e (e.tick scale o) cues := by
  have share : Share e.throttle := (Single.share_iff e.throttle).mpr throttle
  obtain ⟨k, whole⟩ := Single.weighs_of_finite finite nonneg
  obtain ⟨m, loud, -⟩ := share.mul_weighs whole
  have pushed : e.tick scale o = e.push (e.throttle * scale) o := tick_active active heard
  have level : Level scale (e.tick scale o).1 := by
    rw [pushed]
    refine ⟨share, ?_⟩
    rw [push_volume]
    simp [push, active, Emitter.level]
  have first : Weighs (e.tick scale o).1.volume m := by rwa [pushed]
  obtain ⟨all, falling⟩ := level.volumes whole first dims
  have part {before after : List Cue} (split : cues = before ++ after) :
      ∀ c ∈ before, c.Dims scale := fun c mem => dims c (by simp [split, mem])
  refine ⟨by rw [pushed, push_volume], falling, ?_, ?_, ?_⟩
  · intro v mem
    obtain ⟨r, weighs, less⟩ := all v mem
    exact ⟨(Single.le_iff Single.zero_weighs weighs).mpr (Nat.zero_le r),
      (Single.le_iff weighs loud).mpr less⟩
  · intro before after split t alive
    have voice : t.1.voice = e.voice :=
      (Cue.playAll_voice _ before).trans (e.tick_steps scale o).voice
    rw [← voice]
    exact tick_pushes alive
  · intro before after split ended
    have last := level.playAll whole first (part split)
    exact last.done (by simpa [isDone] using ended)

theorem cut_short_never_louder :
    let s := start ⟨3⟩ 0.8 4 (.silent true)
    let cues : List Cue := [.fade, .tick 3, .tick 3, .aside (.finish ⟨0⟩), .tick 3]
    ((0 ≤ s.1.throttle ∧ s.1.throttle ≤ 1) ∧ (3 : Float32).isFinite = true ∧ (0 : Float32) ≤ 3 ∧
      s.1.phase = .active ∧ s.2.isDone s.1.voice = false ∧ ∀ c ∈ cues, c.Dims 3) ∧
      Quietens 3 s.1 (s.1.tick 3 s.2) cues ∧
      Cue.volumes (s.1.tick 3 s.2) cues =
        [0.8 * 3, 0.8 * 3, 0.8 * 0.75 * 3, 0.8 * 0.5 * 3, 0.8 * 0.5 * 3, 0] := by
  intro s cues
  have throttle : 0 ≤ s.1.throttle ∧ s.1.throttle ≤ 1 := by decide +kernel
  have finite : (3 : Float32).isFinite = true := by decide +kernel
  have nonneg : (0 : Float32) ≤ 3 := by decide +kernel
  have dims : ∀ c ∈ cues, c.Dims 3 := by simp [cues, Cue.Dims]
  have heard : s.2.isDone s.1.voice = false := by decide +kernel
  exact ⟨⟨throttle, finite, nonneg, rfl, heard, dims⟩,
    (never_louder s.1 s.2 3 cues throttle finite nonneg rfl heard dims).2, by decide +kernel⟩

end Emitter

end AmbientSound
