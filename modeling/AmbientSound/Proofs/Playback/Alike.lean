import Mathlib.Data.List.Forall2
import AmbientSound.Proofs.Playback.Moves
/-!
Two rosters that play on outputs of their own, a gap between them. The first may have handed out
voices and recorded calls before the second began, and unless the gap is tight the volumes and the
spot sounds of the two differ. None of that ever decides what a roster does next: whatever both do,
the gap stays as it is.
-/
namespace AmbientSound

structure Gap where
  /-- The voices that only the first output had handed out. -/
  voices : Nat
  /-- The calls that only the first output had recorded. -/
  calls : List Call
  /-- Volumes and spot sounds are the same too. -/
  tight : Prop

def Ident.shift {k : Kind} (n : Nat) (a : Ident k) : Ident k := ⟨a.index + n⟩

def Call.shift (n : Nat) : Call → Call
  | .start a v => .start a (v.shift n)
  | .setVolume v x => .setVolume (v.shift n) x
  | .stop v => .stop (v.shift n)
  | .once a x => .once a x
  | .stopAll => .stopAll

/-- What is left of a call when volumes are erased and spot sounds deleted. -/
def Call.hushed? : Call → Option Call
  | .setVolume v _ => some (.setVolume v 0)
  | .once _ _ => none
  | c => some c

theorem Ident.shift_inj {k : Kind} {n : Nat} {a b : Ident k} : a.shift n = b.shift n ↔ a = b := by
  constructor
  · intro same
    apply Ident.eq_of_index_eq
    exact Nat.add_right_cancel (congrArg Ident.index same)
  · intro same
    rw [same]

namespace IdentMap

variable {k : Kind} {α β γ δ : Type} {n : Nat} {R : α → β → Prop} {S : γ → δ → Prop}

/-- Entries that correspond one to one, the keys of the first `n` farther on. -/
def Matches (n : Nat) (R : α → β → Prop) (m : IdentMap k α) (l : IdentMap k β) : Prop :=
  List.Forall₂ (fun e f => e.1 = f.1.shift n ∧ R e.2 f.2) m.entries l.entries

variable {m : IdentMap k α} {l : IdentMap k β}

theorem matches_empty : Matches n R (empty : IdentMap k α) (empty : IdentMap k β) := .nil

theorem Matches.size (h : Matches n R m l) : m.size = l.size := h.length_eq

theorem Matches.get? (h : Matches n R m l) (a : Ident k) :
    Option.Rel R (m.get? (a.shift n)) (l.get? a) := by
  obtain ⟨es, ordered⟩ := m
  obtain ⟨fs, ordered'⟩ := l
  simp only [Matches, IdentMap.get?] at h ⊢
  clear ordered ordered'
  induction h with
  | nil => exact .none
  | cons first rest ih =>
    simp only [lookup, first.1, Ident.shift_inj]
    split
    · exact .some first.2
    · exact ih

theorem Matches.contains (h : Matches n R m l) (a : Ident k) :
    m.contains (a.shift n) = l.contains a := by
  have found := h.get? a
  unfold IdentMap.contains
  generalize m.get? (a.shift n) = x at found
  generalize l.get? a = y at found
  cases found <;> rfl

theorem Matches.insert (h : Matches n R m l) (a : Ident k) {v : α} {w : β} (related : R v w) :
    Matches n R (m.insert (a.shift n) v) (l.insert a w) := by
  obtain ⟨es, ordered⟩ := m
  obtain ⟨fs, ordered'⟩ := l
  simp only [Matches, IdentMap.insert] at h ⊢
  clear ordered ordered'
  -- A shift keeps the order of keys, so both insertions stop at the same place.
  induction h with
  | nil => exact .cons ⟨rfl, related⟩ .nil
  | cons first rest ih =>
    have order (b c : Ident k) : (b.shift n).index < (c.shift n).index ↔ b.index < c.index :=
      Nat.add_lt_add_iff_right
    simp only [insertEntry, first.1, order]
    split
    · exact .cons ⟨rfl, related⟩ (.cons first rest)
    · split
      · exact .cons first ih
      · exact .cons ⟨rfl, related⟩ rest

theorem Matches.filter {keep : Ident k → α → Bool} {keep' : Ident k → β → Bool}
    (h : Matches n R m l) (same : ∀ a v w, R v w → keep (a.shift n) v = keep' a w) :
    Matches n R (m.filter keep) (l.filter keep') := by
  apply List.rel_filter _ h
  rintro ⟨a, v⟩ ⟨b, w⟩ ⟨rfl, related⟩
  simp only [same b v w related]

theorem Matches.erase (h : Matches n R m l) (a : Ident k) :
    Matches n R (m.erase (a.shift n)) (l.erase a) := by
  apply h.filter
  intro b v w _
  simp only [bne, BEq.beq, Ident.shift_inj]

theorem Matches.map {f : Ident k → α → γ} {g : Ident k → β → δ} (h : Matches n R m l)
    (carries : ∀ a v w, R v w → S (f (a.shift n) v) (g a w)) :
    Matches n S (m.map f) (l.map g) := by
  apply List.rel_map _ h
  rintro ⟨a, v⟩ ⟨b, w⟩ ⟨rfl, related⟩
  exact ⟨rfl, carries b v w related⟩

end IdentMap

structure Voice.Alike (g : Gap) (y z : Voice) : Prop where
  acoustic : y.acoustic = z.acoustic
  volume : g.tight → y.volume = z.volume

namespace Output

structure Alike (g : Gap) (o p : Output) : Prop where
  next : o.next = p.next + g.voices
  playing : o.playing.Matches g.voices (Voice.Alike g) p.playing
  failing : o.failing = p.failing
  recording : o.recording = p.recording
  calls : g.tight → o.calls.toList = g.calls ++ p.calls.toList.map (Call.shift g.voices)
  hushed : o.calls.toList.filterMap Call.hushed? = g.calls.filterMap Call.hushed? ++
    (p.calls.toList.map (Call.shift g.voices)).filterMap Call.hushed?

variable {g : Gap} {o p : Output} {a : AcousticId} {v : VoiceId} {c d : Call} {x y : Float32}

theorem record_silent (off : o.recording = false) : o.record c = o := by
  simp [record, off]

namespace Alike

theorem isDone (h : o.Alike g p) (v : VoiceId) : o.isDone (v.shift g.voices) = p.isDone v := by
  rw [Output.isDone, Output.isDone, h.playing.contains]

theorem record (h : o.Alike g p) (same : g.tight → c = d.shift g.voices)
    (hushed : c.hushed? = (d.shift g.voices).hushed?) : (o.record c).Alike g (p.record d) := by
  cases on : p.recording with
  | false =>
    rw [record_silent on, record_silent (h.recording.trans on)]
    exact h
  | true =>
    have here := o.record_calls c (h.recording.trans on)
    have there := p.record_calls d on
    constructor
    · simpa using h.next
    · simpa using h.playing
    · simpa using h.failing
    · simpa using h.recording
    · intro tight
      rw [here, there, h.calls tight, same tight]
      simp
    · rw [here, there]
      simp [h.hushed, List.filterMap_cons, hushed]

theorem once_left (h : o.Alike g p) (loose : ¬ g.tight) : (o.playOnce a x).Alike g p := by
  cases on : o.recording with
  | false =>
    rw [playOnce, record_silent on]
    exact h
  | true =>
    constructor
    · simpa using h.next
    · simpa using h.playing
    · simpa using h.failing
    · simpa using h.recording
    · intro tight
      exact absurd tight loose
    · rw [o.playOnce_calls a x on]
      simpa [List.filterMap_cons, Call.hushed?] using h.hushed

theorem once_right (h : o.Alike g p) (loose : ¬ g.tight) : o.Alike g (p.playOnce a x) := by
  cases on : p.recording with
  | false =>
    rw [playOnce, record_silent on]
    exact h
  | true =>
    constructor
    · simpa using h.next
    · simpa using h.playing
    · simpa using h.failing
    · simpa using h.recording
    · intro tight
      exact absurd tight loose
    · rw [p.playOnce_calls a x on]
      simpa [List.filterMap_cons, Call.hushed?, Call.shift] using h.hushed

theorem playAll {as bs : List AcousticId} (h : o.Alike g p) (same : g.tight → as = bs ∧ x = y) :
    (as.foldl (fun o a => o.playOnce a x) o).Alike g
      (bs.foldl (fun o a => o.playOnce a y) p) := by
  by_cases tight : g.tight
  · obtain ⟨rfl, rfl⟩ := same tight
    clear same
    induction as generalizing o p with
    | nil => exact h
    | cons a rest ih =>
      apply ih
      apply h.record
      · intro _
        rfl
      · rfl
  · -- In a loose gap the two lists have nothing to do with each other: first all of one, then all of
    -- the other.
    have left : (as.foldl (fun o a => o.playOnce a x) o).Alike g p := by
      clear same
      induction as generalizing o with
      | nil => exact h
      | cons a rest ih => exact ih (h.once_left tight)
    clear h same
    induction bs generalizing p with
    | nil => exact left
    | cons b rest ih => exact ih (left.once_right tight)

theorem start (h : o.Alike g p) (a : AcousticId) : (o.start a).2.Alike g (p.start a).2 := by
  have voice : (⟨o.next⟩ : VoiceId) = Ident.shift g.voices ⟨p.next⟩ := by
    rw [h.next]
    rfl
  unfold Output.start
  simp only
  rw [voice, h.failing]
  apply record
  · constructor
    · simp only [h.next]
      omega
    · simp only
      split
      · exact h.playing
      · exact h.playing.insert _ ⟨rfl, fun _ => rfl⟩
    · rfl
    · exact h.recording
    · exact h.calls
    · exact h.hushed
  · intro _
    rfl
  · rfl

theorem setVolume (h : o.Alike g p) (v : VoiceId) (same : g.tight → x = y) :
    (o.setVolume (v.shift g.voices) x).Alike g (p.setVolume v y) := by
  have found := h.playing.get? v
  unfold Output.setVolume
  simp only
  apply record
  · refine ⟨h.next, ?_, h.failing, h.recording, h.calls, h.hushed⟩
    simp only
    generalize o.playing.get? (v.shift g.voices) = here at found
    generalize p.playing.get? v = there at found
    cases found with
    | none => exact h.playing
    | some alike => exact h.playing.insert v ⟨alike.acoustic, same⟩
  · intro tight
    rw [same tight]
    rfl
  · rfl

theorem stop (h : o.Alike g p) (v : VoiceId) :
    (o.stop (v.shift g.voices)).Alike g (p.stop v) := by
  unfold Output.stop
  apply record
  · exact ⟨h.next, h.playing.erase v, h.failing, h.recording, h.calls, h.hushed⟩
  · intro _
    rfl
  · rfl

theorem stopAll (h : o.Alike g p) : o.stopAll.Alike g p.stopAll := by
  unfold Output.stopAll
  apply record
  · exact ⟨h.next, IdentMap.matches_empty, h.failing, h.recording, h.calls, h.hushed⟩
  · intro _
    rfl
  · rfl

theorem fail (h : o.Alike g p) (a : AcousticId) : (o.fail a).Alike g (p.fail a) :=
  ⟨h.next, h.playing, congrArg (·.insert a ()) h.failing, h.recording, h.calls, h.hushed⟩

theorem heal (h : o.Alike g p) (a : AcousticId) : (o.heal a).Alike g (p.heal a) :=
  ⟨h.next, h.playing, congrArg (·.erase a) h.failing, h.recording, h.calls, h.hushed⟩

theorem finish (h : o.Alike g p) (v : VoiceId) :
    (o.finish (v.shift g.voices)).Alike g (p.finish v) :=
  ⟨h.next, h.playing.erase v, h.failing, h.recording, h.calls, h.hushed⟩

end Alike

end Output

namespace Emitter

/-- Emitters that differ in the number of their voice and, unless the gap is tight, in volume. -/
structure Alike (g : Gap) (e f : Emitter) : Prop where
  acoustic : e.acoustic = f.acoustic
  voice : e.voice = f.voice.shift g.voices
  throttle : e.throttle = f.throttle
  phase : e.phase = f.phase
  fadeTicks : e.fadeTicks = f.fadeTicks
  volume : g.tight → e.volume = f.volume

namespace Alike

variable {g : Gap} {e f : Emitter} {o p : Output} {x y : Float32}

theorem isDone (h : e.Alike g f) : e.isDone = f.isDone := by
  rw [Emitter.isDone, Emitter.isDone, h.phase]

theorem isFading (h : e.Alike g f) : e.isFading = f.isFading := by
  rw [Emitter.isFading, Emitter.isFading, h.phase]

theorem rephase (h : e.Alike g f) (q : Phase) :
    ({ e with phase := q } : Emitter).Alike g { f with phase := q } :=
  ⟨h.acoustic, h.voice, h.throttle, rfl, h.fadeTicks, h.volume⟩

theorem setThrottle (h : e.Alike g f) (v : Float32) : (e.setThrottle v).Alike g (f.setThrottle v) :=
  ⟨h.acoustic, h.voice, rfl, h.phase, h.fadeTicks, h.volume⟩

theorem fade (h : e.Alike g f) : e.fade.Alike g f.fade := by
  unfold Emitter.fade
  rw [h.phase]
  split
  · exact h.rephase _
  · exact h

theorem unfade (h : e.Alike g f) : e.unfade.Alike g f.unfade := by
  unfold Emitter.unfade
  rw [h.phase]
  split
  · exact h.rephase _
  · exact h

theorem adjust (h : e.Alike g f) (m : Mix) (a : AcousticId) :
    (Roster.adjust m a e).Alike g (Roster.adjust m a f) := by
  unfold Roster.adjust
  split
  · split
    · exact (h.setThrottle _).unfade
    · exact h.fade
  · exact h.fade

theorem start (h : o.Alike g p) (a : AcousticId) (throttle : Float32) (fadeTicks : Nat) :
    (Emitter.start a throttle fadeTicks o).1.Alike g (Emitter.start a throttle fadeTicks p).1 ∧
      (Emitter.start a throttle fadeTicks o).2.Alike g (Emitter.start a throttle fadeTicks p).2 := by
  refine ⟨⟨rfl, ?_, rfl, rfl, rfl, fun _ => rfl⟩, h.start a⟩
  simp only [start_voice, h.next]
  rfl

theorem finish (h : e.Alike g f) (outputs : o.Alike g p) :
    (e.finish o).1.Alike g (f.finish p).1 ∧ (e.finish o).2.Alike g (f.finish p).2 := by
  refine ⟨⟨h.acoustic, h.voice, h.throttle, rfl, h.fadeTicks, fun _ => rfl⟩, ?_⟩
  rw [finish_output, finish_output, h.voice]
  exact outputs.stop f.voice

theorem push (h : e.Alike g f) (outputs : o.Alike g p) (same : g.tight → x = y) :
    (e.push x o).1.Alike g (f.push y p).1 ∧ (e.push x o).2.Alike g (f.push y p).2 := by
  refine ⟨⟨h.acoustic, h.voice, h.throttle, h.phase, h.fadeTicks, same⟩, ?_⟩
  rw [push_output, push_output, h.voice]
  exact outputs.setVolume f.voice same

theorem stop (h : e.Alike g f) (outputs : o.Alike g p) :
    (e.stop o).1.Alike g (f.stop p).1 ∧ (e.stop o).2.Alike g (f.stop p).2 := by
  unfold Emitter.stop
  rw [h.phase]
  split
  · exact ⟨h, outputs⟩
  · exact h.finish outputs

/-- The scales may differ, for no step of an emitter depends on them. -/
theorem tick (h : e.Alike g f) (outputs : o.Alike g p) (same : g.tight → x = y) :
    (e.tick x o).1.Alike g (f.tick y p).1 ∧ (e.tick x o).2.Alike g (f.tick y p).2 := by
  have heard : o.isDone e.voice = p.isDone f.voice := by rw [h.voice, outputs.isDone]
  -- Every test of the step is on the phase or on the voice.
  unfold Emitter.tick
  rw [h.phase, heard]
  split
  · exact ⟨h, outputs⟩
  · split
    · exact h.finish outputs
    · apply h.push outputs
      intro tight
      rw [h.throttle, same tight]
  · rename_i elapsed _
    have longer := h.rephase (.fading (elapsed + 1))
    have part : fadeFraction (elapsed + 1) e.fadeTicks = fadeFraction (elapsed + 1) f.fadeTicks := by
      rw [h.fadeTicks]
    split
    · exact h.finish outputs
    · simp only [part]
      split
      · exact longer.finish outputs
      · apply longer.push outputs
        intro tight
        rw [h.throttle, same tight]

end Alike

end Emitter

theorem countP_eq_of_forall₂ {α β : Type} {R : α → β → Prop} {p : α → Bool} {q : β → Bool}
    {xs : List α} {ys : List β} (h : List.Forall₂ R xs ys) (same : ∀ x y, R x y → p x = q y) :
    xs.countP p = ys.countP q := by
  induction h with
  | nil => rfl
  | cons first rest ih => simp only [List.countP_cons, ih, same _ _ first]

structure Reconciliation.Alike (g : Gap) (r q : Reconciliation) : Prop where
  emitters : r.roster.emitters.Matches 0 (Emitter.Alike g) q.roster.emitters
  fadeTicks : r.roster.fadeTicks = q.roster.fadeTicks
  output : r.output.Alike g q.output
  summary : r.summary = q.summary
  newcomers : r.newcomers = q.newcomers

namespace Roster

structure Alike (g : Gap) (r q : Roster) : Prop where
  emitters : r.emitters.Matches 0 (Emitter.Alike g) q.emitters
  fadeTicks : r.fadeTicks = q.fadeTicks

variable {g : Gap} {r q : Roster} {o p : Output}

theorem eachEmitter_alike {f k : Emitter → Output → Emitter × Output}
    (one : ∀ e e' o p, e.Alike g e' → o.Alike g p →
      (f e o).1.Alike g (k e' p).1 ∧ (f e o).2.Alike g (k e' p).2)
    {es fs : List (AcousticId × Emitter)}
    (h : List.Forall₂ (fun e f => e.1 = f.1.shift 0 ∧ e.2.Alike g f.2) es fs)
    (outputs : o.Alike g p) :
    List.Forall₂ (fun e f => e.1 = f.1.shift 0 ∧ e.2.Alike g f.2)
        (eachEmitter f es o).1 (eachEmitter k fs p).1 ∧
      (eachEmitter f es o).2.Alike g (eachEmitter k fs p).2 := by
  induction h generalizing o p with
  | nil => exact ⟨.nil, outputs⟩
  | cons first rest ih =>
    obtain ⟨here, next⟩ := one _ _ o p first.2 outputs
    obtain ⟨later, last⟩ := ih next
    exact ⟨.cons ⟨first.1, here⟩ later, last⟩

theorem enter_alike (fadeTicks : Nat) (fresh : List (AcousticId × Float32))
    (state state' : IdentMap .acoustic Emitter × Output)
    (emitters : state.1.Matches 0 (Emitter.Alike g) state'.1)
    (outputs : state.2.Alike g state'.2) :
    (fresh.foldl (enter fadeTicks) state).1.Matches 0 (Emitter.Alike g)
        (fresh.foldl (enter fadeTicks) state').1 ∧
      (fresh.foldl (enter fadeTicks) state).2.Alike g (fresh.foldl (enter fadeTicks) state').2 := by
  induction fresh generalizing state state' with
  | nil => exact ⟨emitters, outputs⟩
  | cons first rest ih =>
    obtain ⟨new, next⟩ := Emitter.Alike.start outputs first.1 first.2 fadeTicks
    exact ih _ _ (emitters.insert first.1 new) next

namespace Alike

theorem live (h : r.Alike g q) : r.live.Matches 0 (Emitter.Alike g) q.live := by
  apply h.emitters.filter
  intro a e f alike
  simp only [alike.isDone]

theorem newcomers_eq (h : r.Alike g q) (m : Mix) : newcomers r.live m = newcomers q.live m := by
  unfold newcomers
  apply List.filter_congr
  intro e _
  have known : r.live.contains e.1 = q.live.contains e.1 := h.live.contains e.1
  rw [known]

theorem tickAll (h : r.Alike g q) (outputs : o.Alike g p) {x y : Float32} (same : g.tight → x = y) :
    (r.tickAll x o).1.Alike g (q.tickAll y p).1 ∧ (r.tickAll x o).2.Alike g (q.tickAll y p).2 := by
  have stepped := eachEmitter_alike (f := fun e => e.tick x) (k := fun e => e.tick y)
    (fun _ _ _ _ emitters outputs => emitters.tick outputs same) h.emitters outputs
  exact ⟨⟨stepped.1, h.fadeTicks⟩, stepped.2⟩

theorem clear (h : r.Alike g q) (outputs : o.Alike g p) :
    (r.clear o).1.Alike g (q.clear p).1 ∧ (r.clear o).2.Alike g (q.clear p).2 := by
  have stopped := eachEmitter_alike (f := Emitter.stop) (k := Emitter.stop)
    (fun _ _ _ _ emitters outputs => emitters.stop outputs) h.emitters outputs
  exact ⟨⟨IdentMap.matches_empty, h.fadeTicks⟩, stopped.2⟩

theorem reconcile (h : r.Alike g q) (m : Mix) (outputs : o.Alike g p) :
    (r.reconcile m o).Alike g (q.reconcile m p) := by
  have fresh := h.newcomers_eq m
  have adjusted : (r.live.map (adjust m)).Matches 0 (Emitter.Alike g) (q.live.map (adjust m)) :=
    h.live.map fun a e f alike => alike.adjust m a
  have counts {n k : AcousticId × Emitter → Bool}
      (same : ∀ a e f, Emitter.Alike g e f → n (a, e) = k (a, f)) :
      r.live.entries.countP n = q.live.entries.countP k := by
    apply countP_eq_of_forall₂ h.live
    rintro ⟨a, e⟩ ⟨b, f⟩ ⟨rfl, alike⟩
    exact same b e f alike
  obtain ⟨entered, played⟩ :=
    enter_alike q.fadeTicks (newcomers q.live m) (_, o) (_, p) adjusted outputs
  rw [reconcile_eq, reconcile_eq]
  unfold Roster.reconciled
  simp only [h.fadeTicks, fresh]
  refine ⟨entered, rfl, played, ?_, rfl⟩
  -- The counts of the summary ask only for phases, which agree.
  have reaped : r.size - r.live.size = q.size - q.live.size := by
    rw [h.live.size, size, size, h.emitters.size]
  rw [reaped, counts (k := fun e => m.wants e.1) fun a e f alike => rfl,
    counts (k := fun e => m.wants e.1 && e.2.isFading) fun a e f alike => by rw [alike.isFading],
    counts (k := fun e => !m.wants e.1 && !e.2.isFading) fun a e f alike => by rw [alike.isFading]]

end Alike

end Roster

end AmbientSound
