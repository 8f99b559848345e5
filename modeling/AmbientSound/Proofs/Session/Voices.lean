import AmbientSound.Proofs.Playback.Ownership
import AmbientSound.Proofs.Session.Deeds
/-!
The voices of a session over whole runs: the calls its output is given come in order, and every
voice that plays has an emitter that answers for it.
-/
namespace AmbientSound

structure Accounted (r : Roster) (o : Output) : Prop where
  keyed : ∀ a e, r.get? a = some e → e.acoustic = a
  issued : ∀ a e, r.get? a = some e → e.voice.index < o.next
  apart : ∀ a b e f, r.get? a = some e → r.get? b = some f → e.voice = f.voice → a = b
  owned : ∀ v y, o.playing.get? v = some y → ∃ e, r.get? y.acoustic = some e ∧ e.voice = v ∧
    e.phase ≠ .done ∧ e.volume = y.volume
  one_for_each_acoustic : ∀ v w y z, o.playing.get? v = some y → o.playing.get? w = some z →
    y.acoustic = z.acoustic → v = w
  size_le : o.playing.size ≤ r.size

def PlaysExactly (r : Roster) (o : Output) : Prop :=
  ∀ v, o.playing.contains v = true ↔ ∃ a e, r.get? a = some e ∧ e.voice = v ∧ e.phase ≠ .done

theorem Emitter.isDone_eq_false_iff (e : Emitter) : e.isDone = false ↔ e.phase ≠ .done := by
  simp [Emitter.isDone]

section Stages

variable {r : Roster} {o : Output}

theorem voice_unique (voiced : Voiced ⟨r.emitters.entries, o⟩) {v w : VoiceId} {y z : Voice}
    (first : (v, y) ∈ o.playing.entries) (second : (w, z) ∈ o.playing.entries)
    (same : y.acoustic = z.acoustic) : v = w := by
  obtain ⟨e, mem, owned, -, -⟩ := voiced v y first
  obtain ⟨f, mem', owned', -, -⟩ := voiced w z second
  rw [← same] at mem'
  rw [← owned, ← owned', IdentMap.entry_unique mem mem']

theorem playing_size_le (voiced : Voiced ⟨r.emitters.entries, o⟩) :
    o.playing.size ≤ r.size := by
  have distinct : (o.playing.entries.map (·.2.acoustic)).Nodup := by
    refine List.Nodup.map_on ?_ o.playing.keys_nodup.of_map
    intro p mem q mem' same
    have voices := voice_unique voiced mem mem' same
    have key : (p.1, q.2) ∈ o.playing.entries := by
      rw [voices]
      exact mem'
    exact Prod.ext voices (IdentMap.entry_unique mem key)
  have inside : o.playing.entries.map (·.2.acoustic) ⊆ r.emitters.keys := by
    intro a mem
    obtain ⟨p, playing, rfl⟩ := List.mem_map.mp mem
    obtain ⟨e, entry, -⟩ := voiced p.1 p.2 playing
    exact List.mem_map.mpr ⟨(p.2.acoustic, e), entry, rfl⟩
  have fewer := distinct.length_le_of_subset inside
  simpa [IdentMap.keys, IdentMap.size, Roster.size] using fewer

theorem accounted_of_stage (numbered : Numbered ⟨r.emitters.entries, o⟩)
    (voiced : Voiced ⟨r.emitters.entries, o⟩) : Accounted r o where
  keyed := by
    intro a e found
    exact numbered.keyed (a, e) ((r.emitters.get?_eq_some_iff a e).mp found)
  issued := by
    intro a e found
    exact numbered.issued (a, e) ((r.emitters.get?_eq_some_iff a e).mp found)
  apart := by
    intro a b e f first second same
    have mem := (r.emitters.get?_eq_some_iff a e).mp first
    have mem' := (r.emitters.get?_eq_some_iff b f).mp second
    exact (Prod.mk.inj (numbered.unique mem mem' same)).1
  owned := by
    intro v y playing
    obtain ⟨e, mem, owned, living, known⟩ :=
      voiced v y ((o.playing.get?_eq_some_iff v y).mp playing)
    exact ⟨e, (r.emitters.get?_eq_some_iff y.acoustic e).mpr mem, owned,
      e.isDone_eq_false_iff.mp living, known⟩
  one_for_each_acoustic := by
    intro v w y z first second same
    exact voice_unique voiced ((o.playing.get?_eq_some_iff v y).mp first)
      ((o.playing.get?_eq_some_iff w z).mp second) same
  size_le := playing_size_le voiced

theorem playsExactly_of_stage (voiced : Voiced ⟨r.emitters.entries, o⟩)
    (sounding : Sounding ⟨r.emitters.entries, o⟩) : PlaysExactly r o := by
  intro v
  rw [IdentMap.contains_iff]
  constructor
  · rintro ⟨y, playing⟩
    obtain ⟨e, mem, owned, living, -⟩ := voiced v y playing
    exact ⟨y.acoustic, e, (r.emitters.get?_eq_some_iff y.acoustic e).mpr mem, owned,
      e.isDone_eq_false_iff.mp living⟩
  · rintro ⟨a, e, found, rfl, living⟩
    exact sounding (a, e) ((r.emitters.get?_eq_some_iff a e).mp found)
      (e.isDone_eq_false_iff.mpr living)

end Stages

namespace Session

variable {settings : Settings} {sounds : Repertoire} {recording : Bool} {seed : UInt64}
  {ds : List Deed} {t : Session}

theorem start_numbered : Numbered (start settings sounds (.silent recording) seed).stage :=
  ⟨by simp [stage, start, Roster.vacant, IdentMap.empty],
    by simp [stage, start, Roster.vacant, IdentMap.empty],
    by simp [stage, start, Roster.vacant, IdentMap.empty]⟩

theorem start_voiced : Voiced (start settings sounds (.silent recording) seed).stage := by
  intro v y playing
  exact absurd playing List.not_mem_nil

theorem start_sounding : Sounding (start settings sounds (.silent recording) seed).stage := by
  intro e mem
  exact absurd mem List.not_mem_nil

theorem start_booked : Booked (start settings sounds (.silent true) seed).stage := by
  refine ⟨rfl, .nil, by simp [stage, start, Output.silent], ?_⟩
  intro a v
  simp [stage, start, Output.silent, OpenIn, Owned, Roster.vacant, IdentMap.empty]

/-- Each prefix of the record of a whole run is in order. -/
theorem calls_orderly (run : (start settings sounds (.silent true) seed).after ds = some t)
    {p : List Call} (front : p <+: t.output.calls.toList) : Orderly p := by
  have moves : Moves False (start settings sounds (.silent true) seed).stage t.stage :=
    after_moves run False.elim
  have kept : Numbered t.stage ∧ Booked t.stage := by
    refine moves.invariant (P := fun x => Numbered x ∧ Booked x) ?_ ⟨start_numbered, start_booked⟩
    rintro x y ⟨numbered, booked⟩ move
    exact ⟨numbered.move move, booked.move numbered move⟩
  exact (kept.2.lawful.of_prefix front).orderly

theorem small_calls_orderly :
    ∃ t, (start smallSettings smallSounds (.silent true) 0).after smallDeeds = some t ∧
      t.output.calls.size = 12 ∧ Orderly t.output.calls.toList := by
  have sized : ((start smallSettings smallSounds (.silent true) 0).after smallDeeds).map
      (·.output.calls.size) = some 12 := by decide +kernel
  obtain ⟨t, run, size⟩ := Option.map_eq_some_iff.mp sized
  exact ⟨t, run, size, calls_orderly run (List.prefix_refl _)⟩

/-- No voice is without an owner; and unless a voice ended by itself or a start failed, no live
emitter is without its voice. -/
theorem voices_accounted
    (run : (start settings sounds (.silent recording) seed).after ds = some t) :
    Accounted t.roster t.output ∧
      ((start settings sounds (.silent recording) seed).Undisturbed ds →
        PlaysExactly t.roster t.output) := by
  have keeps {calm : Prop} (x y : Stage) (h : Numbered x ∧ Voiced x) (move : Move calm x y) :
      Numbered y ∧ Voiced y := ⟨h.1.move move, h.2.move h.1 move⟩
  constructor
  · have moves : Moves False (start settings sounds (.silent recording) seed).stage t.stage :=
      after_moves run False.elim
    have kept := moves.invariant (P := fun x => Numbered x ∧ Voiced x) keeps
      ⟨start_numbered, start_voiced⟩
    exact accounted_of_stage kept.1 kept.2
  · intro undisturbed
    have moves : Moves True (start settings sounds (.silent recording) seed).stage t.stage :=
      after_moves run fun _ => undisturbed
    have kept : (Numbered t.stage ∧ Voiced t.stage) ∧ Sounding t.stage := by
      refine moves.invariant (P := fun x => (Numbered x ∧ Voiced x) ∧ Sounding x) ?_
        ⟨⟨start_numbered, start_voiced⟩, start_sounding⟩
      rintro x y ⟨owned, sounding⟩ move
      exact ⟨keeps x y owned move, sounding.move owned.1 move⟩
    exact playsExactly_of_stage kept.1.2 kept.2

theorem small_voices_accounted :
    ∃ t, (start smallSettings smallSounds (.silent false) 0).after (smallDeeds.take 2) = some t ∧
      t.output.playing.size = 1 ∧ Accounted t.roster t.output ∧
        PlaysExactly t.roster t.output := by
  have sized : ((start smallSettings smallSounds (.silent false) 0).after
      (smallDeeds.take 2)).map (·.output.playing.size) = some 1 := by decide +kernel
  obtain ⟨t, run, size⟩ := Option.map_eq_some_iff.mp sized
  have accounts := voices_accounted run
  refine ⟨t, run, size, accounts.1, accounts.2 ?_⟩
  refine ⟨⟨by simp, ?_⟩, ?_⟩
  · intro u r first a mem
    rfl
  · rintro u r first
    obtain ⟨rfl, -⟩ := Prod.mk.inj (Option.some.inj first)
    refine ⟨⟨by simp, ?_⟩, fun _ _ _ => trivial⟩
    intro u r first a mem
    rfl

end Session

end AmbientSound
