import AmbientSound.Proofs.Number.Shares
import AmbientSound.Proofs.Playback.Reconcile
/-!
What a step of every emitter makes of each of them. An emitter only ever touches its own voice, so
as long as the voices are apart each takes its step as if it were alone.
-/
namespace AmbientSound

namespace Output

variable (o : Output) {v w : VoiceId}

@[simp] theorem isDone_setVolume (x : Float32) : (o.setVolume v x).isDone w = o.isDone w := by
  simp only [isDone, setVolume, record_playing]
  cases found : o.playing.get? v with
  | none => rfl
  | some old =>
    simp only [IdentMap.contains, IdentMap.get?_insert]
    split
    · rename_i same
      rw [← same, found]
      rfl
    · rfl

theorem isDone_stop_other (other : w ≠ v) : (o.stop v).isDone w = o.isDone w := by
  simp only [isDone, stop_playing, IdentMap.contains, IdentMap.erase, IdentMap.get?_filter]
  cases o.playing.get? w <;> simp [other]

theorem isDone_finish_other (other : w ≠ v) : (o.finish v).isDone w = o.isDone w := by
  simp only [isDone, finish, IdentMap.contains, IdentMap.erase, IdentMap.get?_filter]
  cases o.playing.get? w <;> simp [other]

end Output

namespace Emitter

variable {e : Emitter} {o : Output} {scale : Float32} {elapsed : Nat}

theorem fadeFraction_full {n : Nat} (le : n ≤ elapsed) : 1 ≤ fadeFraction elapsed n := by
  have whole : (1 : Float32) ≤ 1 := (Single.le_iff Single.one_weighs Single.one_weighs).mpr le_rfl
  unfold fadeFraction
  split
  · exact whole
  · rename_i some
    simp only [if_neg (Single.ofNat_div_not_lt_one (by omega) le)]
    exact whole

theorem fadeFraction_part {n : Nat} (part : elapsed < n) (small : n ≤ 2 ^ 24) :
    ¬ 1 ≤ fadeFraction elapsed n := by
  have less := Single.ofNat_div_lt_one part small
  obtain ⟨r, weighs, -⟩ := Single.ofNat_div_share (by omega) less
  have below := (Single.lt_iff weighs Single.one_weighs).mp less
  unfold fadeFraction
  rw [if_neg (by omega)]
  simp only [if_pos less]
  rw [Single.le_iff Single.one_weighs weighs]
  omega

theorem fadeFraction_share (elapsed fadeTicks : Nat) :
    Single.Share (fadeFraction elapsed fadeTicks) := by
  unfold fadeFraction
  split
  · exact Single.one_share
  · rename_i some
    simp only
    split
    · rename_i less
      exact Single.ofNat_div_share (by omega) less
    · exact Single.one_share

theorem fadeFraction_mono {n j k : Nat} (le : j ≤ k) : fadeFraction j n ≤ fadeFraction k n := by
  by_cases part : n ≠ 0 ∧ Single.ofNat k / Single.ofNat n < 1
  · obtain ⟨some, less⟩ := part
    obtain ⟨less', order⟩ := Single.ofNat_div_mono (Nat.pos_of_ne_zero some) le less
    simpa only [fadeFraction, if_neg some, if_pos less, if_pos less'] using order
  · have whole : fadeFraction k n = 1 := by
      by_cases none : n = 0
      · exact if_pos none
      · have full : ¬ Single.ofNat k / Single.ofNat n < 1 := fun less => part ⟨none, less⟩
        simp only [fadeFraction, if_neg none, if_neg full]
    rw [whole]
    exact (fadeFraction_share j n).le_one

theorem tick_done (ended : e.phase = .done) : e.tick scale o = (e, o) := by
  rw [tick, ended]

theorem tick_active (active : e.phase = .active) (heard : o.isDone e.voice = false) :
    e.tick scale o = e.push (e.throttle * scale) o := by
  simp [tick, active, heard]

theorem tick_of_active (active : e.phase = .active) :
    (e.tick scale o).1.isDone = true ∨ (e.tick scale o).1.phase = .active := by
  unfold tick
  simp only [active]
  split
  · exact .inl rfl
  · exact .inr active

/-- A fade goes on by a tick, or comes to its end, at the latest when its time is over. -/
theorem tick_of_fading (fading : e.phase = .fading elapsed) :
    (e.tick scale o).1.isDone = true ∨
      ((e.tick scale o).1.phase = .fading (elapsed + 1) ∧ elapsed + 1 < e.fadeTicks) := by
  unfold tick
  simp only [fading]
  split
  · exact .inl rfl
  · split
    · exact .inl rfl
    · rename_i short
      refine .inr ⟨rfl, ?_⟩
      by_contra ended
      exact short (fadeFraction_full (by omega))

/-- What a step does not touch; and the voice of an emitter that lives on is heard. -/
structure Steps (e f : Emitter) (o o' : Output) : Prop where
  voice : f.voice = e.voice
  fadeTicks : f.fadeTicks = e.fadeTicks
  others : ∀ v, v ≠ e.voice → o'.isDone v = o.isDone v
  heard : f.isDone = true ∨ o'.isDone e.voice = false

theorem tick_steps (e : Emitter) (scale : Float32) (o : Output) :
    e.Steps (e.tick scale o).1 o (e.tick scale o).2 := by
  have finished : e.Steps (e.finish o).1 o (e.finish o).2 :=
    ⟨rfl, rfl, fun v other => o.isDone_stop_other other, .inl rfl⟩
  unfold tick
  split
  · rename_i ended
    exact ⟨rfl, rfl, fun v other => rfl, .inl (by simp [isDone, ended])⟩
  · split
    · exact finished
    · rename_i sounding
      exact ⟨rfl, rfl, by simp, .inr (by simpa using sounding)⟩
  · split
    · exact finished
    · rename_i sounding
      simp only
      split
      · exact ⟨rfl, rfl, finished.others, .inl rfl⟩
      · exact ⟨rfl, rfl, by simp, .inr (by simpa using sounding)⟩

theorem tick_throttle (e : Emitter) (scale : Float32) (o : Output) :
    (e.tick scale o).1.throttle = e.throttle := by
  unfold tick
  split
  · rfl
  · split <;> rfl
  · split
    · rfl
    · simp only
      split <;> rfl

end Emitter

namespace Roster

variable {r : Roster} {scale : Float32} {a : AcousticId} {e : Emitter}

theorem eachTick_others {es : List (AcousticId × Emitter)} {o : Output} {v : VoiceId}
    (others : ∀ e ∈ es, e.2.voice ≠ v) :
    (eachEmitter (fun e => e.tick scale) es o).2.isDone v = o.isDone v := by
  induction es generalizing o with
  | nil => rfl
  | cons first rest ih =>
    simp only [eachEmitter]
    rw [ih fun e mem => others e (List.mem_cons_of_mem first mem)]
    exact (first.2.tick_steps scale o).others v (others first (by simp)).symm

theorem eachTick {es : List (AcousticId × Emitter)} (scale : Float32) (o : Output)
    (apart : (es.map (·.2.voice)).Nodup) (mem : (a, e) ∈ es) :
    ∃ o', o'.isDone e.voice = o.isDone e.voice ∧
      (a, (e.tick scale o').1) ∈ (eachEmitter (fun e => e.tick scale) es o).1 ∧
      (eachEmitter (fun e => e.tick scale) es o).2.isDone e.voice =
        (e.tick scale o').2.isDone e.voice := by
  induction es generalizing o with
  | nil => exact absurd mem List.not_mem_nil
  | cons first rest ih =>
    obtain ⟨fresh, tail⟩ := List.nodup_cons.mp apart
    have differs : ∀ f ∈ rest, f.2.voice ≠ first.2.voice := by
      intro f inside same
      exact fresh (List.mem_map.mpr ⟨f, inside, same⟩)
    rcases List.mem_cons.mp mem with rfl | later
    · refine ⟨o, rfl, by simp [eachEmitter], ?_⟩
      simp only [eachEmitter]
      exact eachTick_others differs
    · obtain ⟨o', before, inside, after⟩ := ih (first.2.tick scale o).2 tail later
      refine ⟨o', before.trans ?_, List.mem_cons_of_mem _ inside, after⟩
      exact (first.2.tick_steps scale o).others e.voice (differs (a, e) later)

theorem tickAll_get?_none {o : Output} (absent : r.get? a = none) :
    (r.tickAll scale o).1.get? a = none := by
  have keys := keys_eachEmitter (fun e => e.tick scale) r.emitters.entries o
  refine ((r.tickAll scale o).1.emitters.get?_eq_none_iff a).mpr ?_
  intro f mem
  have key : a ∈ r.emitters.entries.map (·.1) := by
    rw [← keys]
    exact List.mem_map_of_mem mem
  obtain ⟨⟨b, e⟩, inside, rfl⟩ := List.mem_map.mp key
  exact (r.emitters.get?_eq_none_iff b).mp absent e inside

theorem tickAll_get?_some (scale : Float32) (o : Output)
    (apart : (r.emitters.entries.map (·.2.voice)).Nodup) (found : r.get? a = some e) :
    ∃ o', o'.isDone e.voice = o.isDone e.voice ∧
      (r.tickAll scale o).1.get? a = some (e.tick scale o').1 ∧
      (r.tickAll scale o).2.isDone e.voice = (e.tick scale o').2.isDone e.voice := by
  obtain ⟨o', before, inside, after⟩ := eachTick scale o apart
    ((r.emitters.get?_eq_some_iff a e).mp found)
  exact ⟨o', before, ((r.tickAll scale o).1.emitters.get?_eq_some_iff a _).mpr inside, after⟩

theorem tickAll_forall {P : Emitter → Prop} {o : Output} {f : Emitter}
    (kept : ∀ e o, P e → P (e.tick scale o).1) (all : ∀ a e, r.get? a = some e → P e)
    (found : (r.tickAll scale o).1.get? a = some f) : P f := by
  have entries : ∀ e ∈ r.emitters.entries, P e.2 := by
    intro e mem
    exact all e.1 e.2 ((r.emitters.get?_eq_some_iff e.1 e.2).mpr mem)
  have stepped := eachEmitter_forall kept entries o
  exact stepped (a, f) (((r.tickAll scale o).1.emitters.get?_eq_some_iff a f).mp found)

theorem Fades.tickAll {n : Nat} {o : Output} (h : r.Fades n) : (r.tickAll scale o).1.Fades n := by
  refine ⟨h.roster, ?_⟩
  intro a f found
  apply tickAll_forall (P := fun e => e.fadeTicks = n) _ h.emitters found
  intro e o same
  exact (e.tick_steps scale o).fadeTicks.trans same

end Roster

end AmbientSound
