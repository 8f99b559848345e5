import AmbientSound.Proofs.Number.Words
import AmbientSound.Proofs.Playback.Loudness
/-!
Reconciliations on a machine that numbers its voices in words of sixty-four bits. Past the last of
them it may stop, or begin anew with numbers that are already taken; in neither case is anything
louder than before. As long as there are numbers left, nothing is different.
-/
namespace AmbientSound

open Single (Share)

variable {v : Overflow}

namespace Roster

end Roster

section Loud

variable (scale : Float32)

namespace Roster

variable {scale} {r : Roster} {m : Mix} {o : Output}

theorem Audible.insert (h : r.Audible) (a : AcousticId) {e : Emitter}
    (audible : Single.Audible e.throttle) : Audible ⟨r.emitters.insert a e, r.fadeTicks⟩ := by
  intro b f found
  simp only [get?, IdentMap.get?_insert] at found
  split at found
  · obtain rfl := Option.some.inj found
    exact audible
  · exact h b f found

theorem Audible.tendLive (h : r.Audible) (mixed : m.Audible) :
    (r.tendLive m o).1.roster.Audible := by
  intro a f found
  rw [tendLive_roster] at found
  simp only [get?, IdentMap.get?_map] at found
  obtain ⟨e, live, rfl⟩ := Option.map_eq_some_iff.mp found
  have there := get?_of_mem_live ((r.live.get?_eq_some_iff a e).mp live)
  rcases adjust_throttle m a e with same | ⟨x, wanted, new⟩
  · rw [same]
    exact h a e there
  · rw [new, (mixed a x wanted).clamped]
    exact mixed a x wanted

end Roster

end Loud

section Early

namespace Roster

end Roster

end Early

end AmbientSound
