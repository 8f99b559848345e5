import AmbientSound.Proofs.Mix.AreaVolume
import AmbientSound.Proofs.Playback.Additions
import AmbientSound.Proofs.Playback.Ticking
/-!
How loud the output is told to play. As long as the throttles of all emitters are to be heard and
the scale is a share, every volume is a number from zero to the scale.
-/
namespace AmbientSound

open Single (Share)

theorem Single.Audible.clamped {v : Float32} (h : Audible v) : clampUnit v = v := by
  obtain ⟨n, weighs, -, le⟩ := h
  exact clampUnit_eq_self weighs le

def Call.volume? : Call → Option Float32
  | .setVolume _ x => some x
  | .once _ x => some x
  | _ => none

/-- A call that asks for a volume asks for a number from zero to `most`. -/
def Call.Moderate (most : Float32) (c : Call) : Prop :=
  ∀ x, c.volume? = some x → x.isNaN = false ∧ 0 ≤ x ∧ x ≤ most

def Mix.Audible (m : Mix) : Prop := ∀ a v, m.get? a = some v → Single.Audible v

section Emitters

variable {e : Emitter} {scale : Float32}

theorem Call.moderate_of_product {x : Float32} {c : Call} (part : Share x) (whole : Share scale)
    (asks : c.volume? = some (x * scale)) : c.Moderate scale := by
  intro y asked
  obtain rfl := Option.some.inj (asks.symm.trans asked)
  exact ⟨(part.mul whole).number, (part.mul whole).nonneg, part.mul_le whole⟩

theorem Call.moderate_of_silent {most : Float32} {c : Call} (silent : c.volume? = none) :
    c.Moderate most := by
  intro x asked
  rw [silent] at asked
  cases asked

theorem Emitter.tick_moderate (audible : Single.Audible e.throttle) (share : Share scale)
    (o : Output) : o.Adds (Call.Moderate scale) (e.tick scale o).2 := by
  apply e.tick_adds
  · exact Call.moderate_of_silent rfl
  · exact Call.moderate_of_product audible.share share rfl
  · intro k n
    exact Call.moderate_of_product (audible.share.mul (fadeFraction_share k n).one_sub) share rfl

theorem Roster.adjust_throttle (m : Mix) (a : AcousticId) (e : Emitter) :
    (adjust m a e).throttle = e.throttle ∨
      ∃ v, m.get? a = some v ∧ (adjust m a e).throttle = Single.clampUnit v := by
  have faded : e.fade.throttle = e.throttle := by
    unfold Emitter.fade
    split <;> rfl
  have unfaded (x : Float32) : (e.setThrottle x).unfade.throttle = Single.clampUnit x := by
    unfold Emitter.unfade
    split <;> rfl
  unfold adjust
  cases wanted : m.get? a with
  | none => exact .inl faded
  | some v =>
    simp only
    split
    · exact .inr ⟨v, rfl, unfaded v⟩
    · exact .inl faded

end Emitters

namespace Roster

def Audible (r : Roster) : Prop := ∀ a e, r.get? a = some e → Single.Audible e.throttle

theorem vacant_audible (fadeTicks : Nat) : (vacant fadeTicks).Audible := by
  intro a e found
  cases found

variable {r : Roster} {m : Mix} {o : Output} {scale : Float32}

theorem Audible.reconcile (h : r.Audible) (mixed : m.Audible) :
    (r.reconcile m o).roster.Audible := by
  intro a f found
  apply reconcile_forall (P := fun e => Single.Audible e.throttle) _ _ found
  · intro e there
    rcases adjust_throttle m a e with same | ⟨v, wanted, new⟩
    · rw [same]
      exact h a e there
    · rw [new, (mixed a v wanted).clamped]
      exact mixed a v wanted
  · intro v voice wanted
    rw [(mixed a v wanted).clamped]
    exact mixed a v wanted

theorem Audible.tickAll (h : r.Audible) : (r.tickAll scale o).1.Audible := by
  intro a f found
  apply tickAll_forall (P := fun e => Single.Audible e.throttle) _ h found
  intro e o' audible
  rw [e.tick_throttle]
  exact audible

theorem Audible.tickAll_moderate (h : r.Audible) (share : Share scale) :
    o.Adds (Call.Moderate scale) (r.tickAll scale o).2 := by
  apply eachEmitter_adds
  intro e mem o'
  exact Emitter.tick_moderate (h e.1 e.2 ((r.emitters.get?_eq_some_iff e.1 e.2).mpr mem)) share o'

end Roster

structure Moderate (scale : Float32) (r : Roster) (o : Output) : Prop where
  roster : r.Audible
  calls : ∀ c ∈ o.calls.toList, c.Moderate scale

namespace Moderate

variable {scale : Float32} {r q : Roster} {o p : Output}

theorem adds (h : Moderate scale r o) (audible : q.Audible)
    (more : o.Adds (Call.Moderate scale) p) : Moderate scale q p := by
  obtain ⟨new, calls, good⟩ := more
  refine ⟨audible, ?_⟩
  rw [calls]
  intro c mem
  rcases List.mem_append.mp mem with old | late
  · exact h.calls c old
  · exact good c late

theorem playAll (h : Moderate scale r o) (share : Share scale) (as : List AcousticId) :
    Moderate scale r (as.foldl (fun output a => output.playOnce a scale) o) := by
  apply h.adds h.roster
  apply Output.playAll_adds
  intro a x asked
  obtain rfl := Option.some.inj asked
  exact ⟨share.number, share.nonneg, share.le_refl⟩

theorem reconcile (h : Moderate scale r o) {m : Mix} (audible : m.Audible) :
    Moderate scale (r.reconcile m o).roster (r.reconcile m o).output := by
  apply h.adds (h.roster.reconcile audible)
  apply r.reconcile_adds
  intro a v
  exact Call.moderate_of_silent rfl

theorem tickAll (h : Moderate scale r o) (share : Share scale) :
    Moderate scale (r.tickAll scale o).1 (r.tickAll scale o).2 :=
  h.adds h.roster.tickAll (h.roster.tickAll_moderate share)

theorem clear (h : Moderate scale r o) : Moderate scale (r.clear o).1 (r.clear o).2 := by
  apply h.adds (Roster.vacant_audible r.fadeTicks)
  apply r.clear_adds
  intro v
  exact Call.moderate_of_silent rfl

theorem stopAll (h : Moderate scale r o) : Moderate scale r o.stopAll :=
  h.adds h.roster (Output.stopAll_adds (Call.moderate_of_silent rfl))

end Moderate

end AmbientSound
