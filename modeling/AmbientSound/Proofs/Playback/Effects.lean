import AmbientSound.Playback.Emitter
import AmbientSound.Proofs.Lookup
/-!
What each call leaves of an output, field by field. No later proof opens an operation of the
output.
-/
namespace AmbientSound

namespace Output

variable (o : Output) (a : AcousticId) (v : VoiceId) (x : Float32) (c : Call)

@[simp] theorem record_next : (o.record c).next = o.next := by
  unfold record; split <;> rfl

@[simp] theorem record_playing : (o.record c).playing = o.playing := by
  unfold record; split <;> rfl

@[simp] theorem record_failing : (o.record c).failing = o.failing := by
  unfold record; split <;> rfl

@[simp] theorem record_recording : (o.record c).recording = o.recording := by
  unfold record; split <;> rfl

theorem record_calls (on : o.recording = true) :
    (o.record c).calls.toList = o.calls.toList ++ [c] := by
  simp [record, on]

@[simp] theorem start_voice : (o.start a).1 = ⟨o.next⟩ := rfl

@[simp] theorem start_next : (o.start a).2.next = o.next + 1 := by simp [start]

@[simp] theorem start_failing : (o.start a).2.failing = o.failing := by simp [start]

@[simp] theorem start_recording : (o.start a).2.recording = o.recording := by simp [start]

@[simp] theorem start_playing : (o.start a).2.playing =
    if o.failing.contains a then o.playing else o.playing.insert ⟨o.next⟩ ⟨a, 0⟩ := by
  simp [start]

theorem start_calls (on : o.recording = true) :
    (o.start a).2.calls.toList = o.calls.toList ++ [.start a ⟨o.next⟩] :=
  record_calls _ _ on

@[simp] theorem setVolume_next : (o.setVolume v x).next = o.next := by simp [setVolume]

@[simp] theorem setVolume_recording : (o.setVolume v x).recording = o.recording := by
  simp [setVolume]

theorem setVolume_calls (on : o.recording = true) :
    (o.setVolume v x).calls.toList = o.calls.toList ++ [.setVolume v x] :=
  record_calls _ _ on

theorem mem_playing_setVolume (w : VoiceId) (y : Voice) :
    (w, y) ∈ (o.setVolume v x).playing.entries ↔
      (w = v ∧ ∃ old, (v, old) ∈ o.playing.entries ∧ y = ⟨old.acoustic, x⟩) ∨
        (w ≠ v ∧ (w, y) ∈ o.playing.entries) := by
  simp only [setVolume, record_playing]
  cases found : o.playing.get? v with
  | none =>
    have absent := (o.playing.get?_eq_none_iff v).mp found
    constructor
    · intro mem
      refine .inr ⟨?_, mem⟩
      intro same
      rw [same] at mem
      exact absent y mem
    · rintro (⟨-, old, mem, -⟩ | ⟨-, mem⟩)
      · exact absurd mem (absent old)
      · exact mem
  | some old =>
    have present := (o.playing.get?_eq_some_iff v old).mp found
    simp only [IdentMap.mem_entries_insert]
    constructor
    · rintro (⟨rfl, rfl⟩ | other)
      · exact .inl ⟨rfl, old, present, rfl⟩
      · exact .inr other
    · rintro (⟨rfl, older, mem, rfl⟩ | other)
      · rw [IdentMap.entry_unique mem present]
        exact .inl ⟨rfl, rfl⟩
      · exact .inr other

@[simp] theorem stop_next : (o.stop v).next = o.next := by simp [stop]

@[simp] theorem stop_recording : (o.stop v).recording = o.recording := by simp [stop]

@[simp] theorem stop_playing : (o.stop v).playing = o.playing.erase v := by simp [stop]

theorem stop_calls (on : o.recording = true) :
    (o.stop v).calls.toList = o.calls.toList ++ [.stop v] :=
  record_calls _ _ on

@[simp] theorem playOnce_next : (o.playOnce a x).next = o.next := by simp [playOnce]

@[simp] theorem playOnce_playing : (o.playOnce a x).playing = o.playing := by simp [playOnce]

@[simp] theorem playOnce_failing : (o.playOnce a x).failing = o.failing := by simp [playOnce]

@[simp] theorem playOnce_recording : (o.playOnce a x).recording = o.recording := by
  simp [playOnce]

theorem playOnce_calls (on : o.recording = true) :
    (o.playOnce a x).calls.toList = o.calls.toList ++ [.once a x] :=
  record_calls _ _ on

@[simp] theorem stopAll_next : o.stopAll.next = o.next := by simp [stopAll]

@[simp] theorem stopAll_playing : o.stopAll.playing = .empty := by simp [stopAll]

@[simp] theorem stopAll_recording : o.stopAll.recording = o.recording := by simp [stopAll]

theorem stopAll_calls (on : o.recording = true) :
    o.stopAll.calls.toList = o.calls.toList ++ [.stopAll] :=
  record_calls _ _ on

end Output

namespace Emitter

variable (e : Emitter) (o : Output) (a : AcousticId) (throttle volume : Float32) (fadeTicks : Nat)

@[simp] theorem start_acoustic : (start a throttle fadeTicks o).1.acoustic = a := rfl

@[simp] theorem start_voice : (start a throttle fadeTicks o).1.voice = ⟨o.next⟩ := rfl

@[simp] theorem start_volume : (start a throttle fadeTicks o).1.volume = 0 := rfl

@[simp] theorem start_isDone : (start a throttle fadeTicks o).1.isDone = false := rfl

@[simp] theorem start_output : (start a throttle fadeTicks o).2 = (o.start a).2 := rfl

@[simp] theorem finish_voice : (e.finish o).1.voice = e.voice := rfl

@[simp] theorem finish_isDone : (e.finish o).1.isDone = true := rfl

@[simp] theorem finish_output : (e.finish o).2 = o.stop e.voice := rfl

@[simp] theorem push_voice : (e.push volume o).1.voice = e.voice := rfl

@[simp] theorem push_volume : (e.push volume o).1.volume = volume := rfl

@[simp] theorem push_isDone : (e.push volume o).1.isDone = e.isDone := rfl

@[simp] theorem push_output : (e.push volume o).2 = o.setVolume e.voice volume := rfl

end Emitter

end AmbientSound
