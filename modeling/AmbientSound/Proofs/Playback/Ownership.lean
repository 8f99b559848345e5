import Mathlib.Data.List.Nodup
import AmbientSound.Proofs.Playback.Moves
import AmbientSound.Proofs.Playback.CallLog
/-!
Who owns a voice. Every move keeps the voices of the emitters apart, keeps every playing voice
with the emitter that started it, and keeps the record of calls in step with the emitters.
-/
namespace AmbientSound

def Owned (es : List (AcousticId × Emitter)) (a : AcousticId) (v : VoiceId) : Prop :=
  ∃ e, (a, e) ∈ es ∧ e.voice = v ∧ e.isDone = false

structure Numbered (x : Stage) : Prop where
  keyed : ∀ e ∈ x.emitters, e.2.acoustic = e.1
  issued : ∀ e ∈ x.emitters, e.2.voice.index < x.output.next
  apart : (x.emitters.map (·.2.voice)).Nodup

/-- Every playing voice belongs to a live emitter, which knows its volume. -/
def Voiced (x : Stage) : Prop :=
  ∀ v y, (v, y) ∈ x.output.playing.entries →
    ∃ e, (y.acoustic, e) ∈ x.emitters ∧ e.voice = v ∧ e.isDone = false ∧ e.volume = y.volume

def Sounding (x : Stage) : Prop :=
  ∀ e ∈ x.emitters, e.2.isDone = false → ∃ y, (e.2.voice, y) ∈ x.output.playing.entries

/-- The record of calls is lawful, and the voices open in it are those of the live emitters. -/
structure Booked (x : Stage) : Prop where
  recording : x.output.recording = true
  lawful : Lawful x.output.calls.toList
  issued : ∀ a v, .start a v ∈ x.output.calls.toList → v.index < x.output.next
  live : ∀ a v, OpenIn x.output.calls.toList a v ↔ Owned x.emitters a v

section Replacement

variable {before after : List (AcousticId × Emitter)} {a b : AcousticId} {e f : Emitter}
  {v : VoiceId}

theorem mem_replace {p : AcousticId × Emitter} (h : p ∈ before ++ (a, f) :: after) :
    p = (a, f) ∨ p ∈ before ++ (a, e) :: after := by
  simp only [List.mem_append, List.mem_cons] at h ⊢
  tauto

theorem Owned.replace (voice : f.voice = e.voice) (stays : f.isDone = false)
    (h : Owned (before ++ (a, e) :: after) b v) : Owned (before ++ (a, f) :: after) b v := by
  obtain ⟨g, mem, owned, living⟩ := h
  rcases mem_replace (e := f) mem with same | old
  · obtain ⟨rfl, rfl⟩ := Prod.mk.inj same
    exact ⟨f, by simp, voice.trans owned, stays⟩
  · exact ⟨g, old, owned, living⟩

theorem owned_replace_iff (voice : f.voice = e.voice) (alive : e.isDone = false)
    (stays : f.isDone = false) :
    Owned (before ++ (a, f) :: after) b v ↔ Owned (before ++ (a, e) :: after) b v :=
  ⟨fun h => h.replace voice.symm alive, fun h => h.replace voice stays⟩

theorem owned_finished_iff (voice : f.voice = e.voice) (ended : f.isDone = true)
    (apart : ((before ++ (a, e) :: after).map (·.2.voice)).Nodup) :
    Owned (before ++ (a, f) :: after) b v ↔
      Owned (before ++ (a, e) :: after) b v ∧ v ≠ e.voice := by
  constructor
  · rintro ⟨g, mem, owned, living⟩
    have apart' : ((before ++ (a, f) :: after).map (·.2.voice)).Nodup := by
      simpa [voice] using apart
    have differs : g ≠ f := by
      intro same
      rw [same, ended] at living
      cases living
    rcases mem_replace (e := e) mem with same | old
    · exact absurd (Prod.mk.inj same).2 differs
    · refine ⟨⟨g, old, owned, living⟩, ?_⟩
      intro same
      have found := List.inj_on_of_nodup_map apart' mem (show (a, f) ∈ _ by simp)
        (show g.voice = f.voice by rw [owned, same, voice])
      exact differs (Prod.mk.inj found).2
  · rintro ⟨⟨g, mem, owned, living⟩, other⟩
    rcases mem_replace (e := f) mem with same | old
    · obtain ⟨-, rfl⟩ := Prod.mk.inj same
      exact absurd owned.symm other
    · exact ⟨g, old, owned, living⟩

theorem owned_reap_iff (es : List (AcousticId × Emitter)) :
    Owned (es.filter fun e => !e.2.isDone) b v ↔ Owned es b v := by
  constructor
  · rintro ⟨g, mem, rest⟩
    exact ⟨g, (List.mem_filter.mp mem).1, rest⟩
  · rintro ⟨g, mem, owned, living⟩
    exact ⟨g, List.mem_filter.mpr ⟨mem, by simp [living]⟩, owned, living⟩

theorem owned_enter_iff {es fs : List (AcousticId × Emitter)} (entered : fs.Perm ((a, e) :: es))
    (alive : e.isDone = false) :
    Owned fs b v ↔ Owned es b v ∨ (b = a ∧ v = e.voice) := by
  simp only [Owned, entered.mem_iff, List.mem_cons, Prod.mk.injEq]
  constructor
  · rintro ⟨g, ⟨rfl, rfl⟩ | old, owned, living⟩
    · exact .inr ⟨rfl, owned.symm⟩
    · exact .inl ⟨g, old, owned, living⟩
  · rintro (⟨g, old, rest⟩ | ⟨rfl, rfl⟩)
    · exact ⟨g, .inr old, rest⟩
    · exact ⟨e, .inl ⟨rfl, rfl⟩, rfl, alive⟩

end Replacement

namespace Numbered

variable {before after es : List (AcousticId × Emitter)} {a : AcousticId} {e f : Emitter}
  {o o' : Output}

theorem replace (h : Numbered ⟨before ++ (a, e) :: after, o⟩) (acoustic : f.acoustic = e.acoustic)
    (voice : f.voice = e.voice) (next : o'.next = o.next) :
    Numbered ⟨before ++ (a, f) :: after, o'⟩ where
  keyed := by
    intro p mem
    rcases mem_replace (e := e) mem with rfl | old
    · exact acoustic.trans (h.keyed (a, e) (by simp))
    · exact h.keyed p old
  issued := by
    intro p mem
    simp only [next]
    rcases mem_replace (e := e) mem with rfl | old
    · simp only [voice]
      exact h.issued (a, e) (by simp)
    · exact h.issued p old
  apart := by simpa [voice] using h.apart

theorem sameEmitters (h : Numbered ⟨es, o⟩) (next : o'.next = o.next) : Numbered ⟨es, o'⟩ where
  keyed := h.keyed
  issued := by simpa [next] using h.issued
  apart := h.apart

theorem unique {x : Stage} (h : Numbered x) {p q : AcousticId × Emitter} (mem : p ∈ x.emitters)
    (mem' : q ∈ x.emitters) (same : p.2.voice = q.2.voice) : p = q :=
  List.inj_on_of_nodup_map h.apart mem mem' same

theorem fresh {x : Stage} (h : Numbered x) {p : AcousticId × Emitter} (mem : p ∈ x.emitters) :
    p.2.voice ≠ ⟨x.output.next⟩ := by
  intro same
  have below := h.issued p mem
  rw [same] at below
  exact Nat.lt_irrefl _ below

theorem start {fs : List (AcousticId × Emitter)} (h : Numbered ⟨es, o⟩) (throttle : Float32)
    (fadeTicks : Nat)
    (entered : fs.Perm ((a, (Emitter.start a throttle fadeTicks o).1) :: es)) :
    Numbered ⟨fs, (Emitter.start a throttle fadeTicks o).2⟩ where
  keyed := by
    intro p mem
    rcases List.mem_cons.mp (entered.mem_iff.mp mem) with rfl | old
    · rfl
    · exact h.keyed p old
  issued := by
    intro p mem
    simp only [Emitter.start_output, Output.start_next]
    rcases List.mem_cons.mp (entered.mem_iff.mp mem) with rfl | old
    · exact Nat.lt_succ_self o.next
    · exact Nat.lt_succ_of_lt (h.issued p old)
  apart := by
    rw [(entered.map _).nodup_iff]
    refine List.nodup_cons.mpr ⟨?_, h.apart⟩
    intro taken
    obtain ⟨p, mem, same⟩ := List.mem_map.mp taken
    exact h.fresh mem same

theorem move {calm : Prop} {x y : Stage} (h : Numbered x) (move : Move calm x y) :
    Numbered y := by
  cases move with
  | retune before after a e f o acoustic voice volume alive stays =>
    exact h.replace acoustic voice rfl
  | push before after a e volume o alive sounding => exact h.replace rfl rfl (by simp)
  | finish before after a e o alive => exact h.replace rfl rfl (by simp)
  | reap es o =>
    exact ⟨fun e mem => h.keyed e (List.mem_filter.mp mem).1,
      fun e mem => h.issued e (List.mem_filter.mp mem).1, h.apart.sublist (List.filter_sublist.map _)⟩
  | start es fs a throttle fadeTicks o absent entered works =>
    exact h.start throttle fadeTicks entered
  | once es o a volume => exact h.sameEmitters (by simp)
  | stopAll o => exact h.sameEmitters (by simp)
  | fail es o a => exact h.sameEmitters rfl
  | heal es o a => exact h.sameEmitters rfl
  | ended es o v harm => exact h.sameEmitters rfl

theorem moves {calm : Prop} {x y : Stage} (h : Numbered x) (run : Moves calm x y) : Numbered y :=
  run.invariant (fun _ _ numbered one => numbered.move one) h

end Numbered

namespace Voiced

variable {before after es fs : List (AcousticId × Emitter)} {a : AcousticId} {e : Emitter}
  {o : Output}

theorem push (numbered : Numbered ⟨before ++ (a, e) :: after, o⟩)
    (h : Voiced ⟨before ++ (a, e) :: after, o⟩) (alive : e.isDone = false) (volume : Float32) :
    Voiced ⟨before ++ (a, (e.push volume o).1) :: after, (e.push volume o).2⟩ := by
  intro v y playing
  rcases (o.mem_playing_setVolume e.voice volume v y).mp playing with
    ⟨rfl, old, present, rfl⟩ | ⟨other, present⟩
  · -- the voice is that of the emitter, whose acoustic is therefore the voice's
    obtain ⟨g, mem, owned, -, -⟩ := h e.voice old present
    have same := numbered.unique mem (show (a, e) ∈ _ by simp) owned
    obtain ⟨acoustic, -⟩ := Prod.mk.inj same
    exact ⟨(e.push volume o).1, by simp [acoustic], rfl, alive, rfl⟩
  · obtain ⟨g, mem, owned, living, known⟩ := h v y present
    rcases mem_replace (e := (e.push volume o).1) mem with same | kept
    · obtain ⟨-, rfl⟩ := Prod.mk.inj same
      exact absurd owned.symm other
    · exact ⟨g, kept, owned, living, known⟩

theorem start (h : Voiced ⟨es, o⟩) (throttle : Float32) (fadeTicks : Nat)
    (entered : fs.Perm ((a, (Emitter.start a throttle fadeTicks o).1) :: es)) :
    Voiced ⟨fs, (Emitter.start a throttle fadeTicks o).2⟩ := by
  intro v y playing
  have kept (old : (v, y) ∈ o.playing.entries) :
      ∃ e, (y.acoustic, e) ∈ fs ∧ e.voice = v ∧ e.isDone = false ∧ e.volume = y.volume := by
    obtain ⟨g, mem, rest⟩ := h v y old
    exact ⟨g, entered.mem_iff.mpr (List.mem_cons_of_mem _ mem), rest⟩
  simp only [Emitter.start_output, Output.start_playing] at playing
  split at playing
  · exact kept playing
  · rcases (o.playing.mem_entries_insert _ v _ y).mp playing with ⟨rfl, rfl⟩ | ⟨-, old⟩
    · exact ⟨_, entered.mem_iff.mpr (List.mem_cons_self ..), rfl, rfl, rfl⟩
    · exact kept old

theorem move {calm : Prop} {x y : Stage} (numbered : Numbered x) (h : Voiced x)
    (move : Move calm x y) : Voiced y := by
  cases move with
  | retune before after a e f o acoustic voice volume alive stays =>
    intro v y playing
    obtain ⟨g, mem, owned, living, known⟩ := h v y playing
    rcases mem_replace (e := f) mem with same | old
    · obtain ⟨rfl, rfl⟩ := Prod.mk.inj same
      exact ⟨f, by simp, voice.trans owned, stays, volume.trans known⟩
    · exact ⟨g, old, owned, living, known⟩
  | push before after a e volume o alive sounding => exact push numbered h alive volume
  | finish before after a e o alive =>
    intro v y playing
    simp only [Emitter.finish_output, Output.stop_playing] at playing
    obtain ⟨present, other⟩ := (o.playing.mem_entries_erase e.voice v y).mp playing
    obtain ⟨g, mem, owned, living, known⟩ := h v y present
    rcases mem_replace (e := (e.finish o).1) mem with same | kept
    · obtain ⟨-, rfl⟩ := Prod.mk.inj same
      exact absurd owned.symm other
    · exact ⟨g, kept, owned, living, known⟩
  | reap es o =>
    intro v y playing
    obtain ⟨g, mem, owned, living, known⟩ := h v y playing
    exact ⟨g, List.mem_filter.mpr ⟨mem, by simp [living]⟩, owned, living, known⟩
  | start es fs a throttle fadeTicks o absent entered works =>
    exact h.start throttle fadeTicks entered
  | once es o a volume =>
    intro v y playing
    exact h v y (by simpa using playing)
  | stopAll o =>
    intro v y playing
    simp only [Output.stopAll_playing] at playing
    exact absurd playing (List.not_mem_nil)
  | fail es o a => exact h
  | heal es o a => exact h
  | ended es o v harm =>
    intro w y playing
    exact h w y ((o.playing.mem_entries_erase v w y).mp playing).1

end Voiced

namespace Sounding

variable {before after es fs : List (AcousticId × Emitter)} {a : AcousticId} {e : Emitter}
  {o : Output}

theorem push (h : Sounding ⟨before ++ (a, e) :: after, o⟩) (alive : e.isDone = false)
    (volume : Float32) :
    Sounding ⟨before ++ (a, (e.push volume o).1) :: after, (e.push volume o).2⟩ := by
  intro p mem living
  obtain ⟨y, playing⟩ : ∃ y, (p.2.voice, y) ∈ o.playing.entries := by
    rcases mem_replace (e := e) mem with rfl | old
    · exact h (a, e) (by simp) alive
    · exact h p old living
  by_cases same : p.2.voice = e.voice
  · rw [same] at playing ⊢
    exact ⟨_, (o.mem_playing_setVolume e.voice volume e.voice _).mpr
      (.inl ⟨rfl, y, playing, rfl⟩)⟩
  · exact ⟨y, (o.mem_playing_setVolume e.voice volume p.2.voice y).mpr (.inr ⟨same, playing⟩)⟩

theorem finish (numbered : Numbered ⟨before ++ (a, e) :: after, o⟩)
    (h : Sounding ⟨before ++ (a, e) :: after, o⟩) :
    Sounding ⟨before ++ (a, (e.finish o).1) :: after, (e.finish o).2⟩ := by
  intro p mem living
  have numbered' : Numbered ⟨before ++ (a, (e.finish o).1) :: after, o⟩ :=
    numbered.replace rfl rfl rfl
  rcases mem_replace (e := e) mem with rfl | old
  · simp at living
  · obtain ⟨y, playing⟩ := h p old living
    simp only [Emitter.finish_output, Output.stop_playing]
    refine ⟨y, (o.playing.mem_entries_erase e.voice p.2.voice y).mpr ⟨playing, ?_⟩⟩
    intro same
    have found := numbered'.unique mem (show (a, (e.finish o).1) ∈ _ by simp) same
    rw [found] at living
    simp at living

theorem start (numbered : Numbered ⟨es, o⟩) (h : Sounding ⟨es, o⟩) (throttle : Float32)
    (fadeTicks : Nat) (works : o.failing.contains a = false)
    (entered : fs.Perm ((a, (Emitter.start a throttle fadeTicks o).1) :: es)) :
    Sounding ⟨fs, (Emitter.start a throttle fadeTicks o).2⟩ := by
  intro p mem living
  simp only [Emitter.start_output, Output.start_playing, works, Bool.false_eq_true, if_false]
  rcases List.mem_cons.mp (entered.mem_iff.mp mem) with rfl | old
  · exact ⟨_, (o.playing.mem_entries_insert _ _ _ _).mpr (.inl ⟨rfl, rfl⟩)⟩
  · obtain ⟨y, playing⟩ := h p old living
    exact ⟨y, (o.playing.mem_entries_insert _ _ _ _).mpr
      (.inr ⟨numbered.fresh old, playing⟩)⟩

theorem move {x y : Stage} (numbered : Numbered x) (h : Sounding x)
    (move : Move True x y) : Sounding y := by
  cases move with
  | retune before after a e f o acoustic voice volume alive stays =>
    intro p mem living
    rcases mem_replace (e := e) mem with rfl | old
    · simp only [voice]
      exact h (a, e) (by simp) alive
    · exact h p old living
  | push before after a e volume o alive sounding => exact h.push alive volume
  | finish before after a e o alive => exact finish numbered h
  | reap es o =>
    intro p mem living
    exact h p (List.mem_filter.mp mem).1 living
  | start es fs a throttle fadeTicks o absent entered works =>
    exact start numbered h throttle fadeTicks (works trivial) entered
  | once es o a volume => simpa [Sounding] using h
  | stopAll o => simp [Sounding]
  | fail es o a => exact h
  | heal es o a => exact h
  | ended es o v harm => exact absurd trivial harm

end Sounding

namespace Booked

variable {before after es fs : List (AcousticId × Emitter)} {a : AcousticId} {e : Emitter}
  {o o' : Output} {c : Call}

theorem call (h : Booked ⟨es, o⟩) (on : o'.recording = o.recording) (next : o'.next = o.next)
    (calls : o'.calls.toList = o.calls.toList ++ [c]) (allowed : Allowed o.calls.toList c)
    (noStart : ∀ a v, c ≠ .start a v) (noStop : ∀ v, c ≠ .stop v)
    (owners : ∀ a v, Owned fs a v ↔ Owned es a v) : Booked ⟨fs, o'⟩ where
  recording := on.trans h.recording
  lawful := by
    rw [calls]
    exact h.lawful.snoc allowed
  issued := by
    intro a v mem
    simp only [calls, List.mem_append, List.mem_singleton, (noStart a v).symm, or_false] at mem
    simp only [next]
    exact h.issued a v mem
  live := by
    intro a v
    simp only [calls]
    rw [openIn_append_other noStart noStop, owners]
    exact h.live a v

theorem opened (h : Booked ⟨es, o⟩) (mem : (a, e) ∈ es) (alive : e.isDone = false) :
    OpenIn o.calls.toList a e.voice :=
  (h.live a e.voice).mpr ⟨e, mem, rfl, alive⟩

theorem finish (numbered : Numbered ⟨before ++ (a, e) :: after, o⟩)
    (h : Booked ⟨before ++ (a, e) :: after, o⟩) (alive : e.isDone = false) :
    Booked ⟨before ++ (a, (e.finish o).1) :: after, (e.finish o).2⟩ := by
  have calls := o.stop_calls e.voice h.recording
  refine ⟨by simpa using h.recording, ?_, ?_, ?_⟩
  · simp only [Emitter.finish_output, calls]
    exact h.lawful.snoc ⟨a, h.opened (by simp) alive⟩
  · intro b v mem
    simp only [Emitter.finish_output, calls, List.mem_append, List.mem_singleton, reduceCtorEq,
      or_false] at mem
    simpa using h.issued b v mem
  · intro b v
    simp only [Emitter.finish_output, calls]
    rw [openIn_append_stop, owned_finished_iff (e.finish_voice o) (e.finish_isDone o)
      numbered.apart]
    exact and_congr_left' (h.live b v)

theorem start (h : Booked ⟨es, o⟩) (throttle : Float32) (fadeTicks : Nat)
    (absent : ∀ p ∈ es, p.1 ≠ a)
    (entered : fs.Perm ((a, (Emitter.start a throttle fadeTicks o).1) :: es)) :
    Booked ⟨fs, (Emitter.start a throttle fadeTicks o).2⟩ := by
  have fresh : ∀ b, .start b ⟨o.next⟩ ∉ o.calls.toList := by
    intro b mem
    exact Nat.lt_irrefl _ (h.issued b ⟨o.next⟩ mem)
  have idle : ∀ w, ¬ OpenIn o.calls.toList a w := by
    intro w opened
    obtain ⟨g, mem, -, -⟩ := (h.live a w).mp opened
    exact absent (a, g) mem rfl
  have calls := o.start_calls a h.recording
  refine ⟨by simpa using h.recording, ?_, ?_, ?_⟩
  · simp only [Emitter.start_output, calls]
    exact h.lawful.snoc ⟨fresh, idle⟩
  · intro b v mem
    simp only [Emitter.start_output, calls, List.mem_append, List.mem_singleton,
      Call.start.injEq] at mem
    simp only [Emitter.start_output, Output.start_next]
    rcases mem with old | ⟨-, rfl⟩
    · exact Nat.lt_succ_of_lt (h.issued b v old)
    · exact Nat.lt_succ_self o.next
  · intro b v
    have running := h.lawful.unstopped_of_fresh fresh
    simp only [Emitter.start_output, calls]
    rw [openIn_append_start, owned_enter_iff entered rfl]
    refine or_congr (h.live b v) ?_
    constructor
    · exact fun new => ⟨new.1, new.2.1⟩
    · rintro ⟨rfl, rfl⟩
      exact ⟨rfl, rfl, running⟩

theorem move {calm : Prop} {x y : Stage} (numbered : Numbered x) (h : Booked x)
    (move : Move calm x y) : Booked y := by
  have on := h.recording
  cases move with
  | retune before after a e f o acoustic voice volume alive stays =>
    refine ⟨on, h.lawful, h.issued, ?_⟩
    intro b v
    rw [owned_replace_iff voice alive stays]
    exact h.live b v
  | push before after a e volume o alive sounding =>
    exact h.call (by simp) (by simp) (o.setVolume_calls e.voice volume on)
      ⟨a, h.opened (by simp) alive⟩ (by simp) (by simp) fun b v => owned_replace_iff rfl alive alive
  | finish before after a e o alive => exact finish numbered h alive
  | reap es o =>
    refine ⟨on, h.lawful, h.issued, ?_⟩
    intro b v
    rw [owned_reap_iff]
    exact h.live b v
  | start es fs a throttle fadeTicks o absent entered works =>
    exact h.start throttle fadeTicks absent entered
  | once es o a volume =>
    exact h.call (by simp) (by simp) (o.playOnce_calls a volume on) trivial (by simp) (by simp)
      fun b v => Iff.rfl
  | stopAll o =>
    have none : ∀ b v, ¬ OpenIn o.calls.toList b v := by
      intro b v opened
      obtain ⟨g, mem, -⟩ := (h.live b v).mp opened
      exact List.not_mem_nil mem
    exact h.call (by simp) (by simp) (o.stopAll_calls on) none (by simp) (by simp)
      fun b v => Iff.rfl
  | fail es o a => exact ⟨on, h.lawful, h.issued, h.live⟩
  | heal es o a => exact ⟨on, h.lawful, h.issued, h.live⟩
  | ended es o v harm => exact ⟨on, h.lawful, h.issued, h.live⟩

end Booked

end AmbientSound
