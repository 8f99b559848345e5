import AmbientSound.Proofs.Mix.Made
import AmbientSound.Proofs.Playback.Reconcile
/-!
A reconciliation brings a roster in line with its mix: what is wanted is active at its volume, what
is not wanted fades, and no emitter that lives is ever replaced by another.
-/
namespace AmbientSound

open Single (Share)

section Volumes

variable {m : Mix} {a : AcousticId} {v : Float32}

theorem Mix.Made.share (h : m.Made) (found : m.get? a = some v) : Share v :=
  h.entries_share (a, v) ((m.volumes.get?_eq_some_iff a v).mp found)

theorem Mix.Made.not_le_zero_iff (h : m.Made) (found : m.get? a = some v) : ¬ v ≤ 0 ↔ 0 < v := by
  obtain ⟨n, weighs, -⟩ := h.share found
  rw [Single.le_iff weighs Single.zero_weighs, Single.lt_iff Single.zero_weighs weighs]
  omega

theorem Mix.Made.clamped (h : m.Made) (found : m.get? a = some v) : Single.clampUnit v = v := by
  obtain ⟨n, weighs, le⟩ := h.share found
  exact Single.clampUnit_eq_self weighs le

theorem Mix.wants_iff : m.wants a = true ↔ ∃ v, m.get? a = some v ∧ 0 < v := by
  unfold wants
  cases m.get? a <;> simp

end Volumes

/-- What becomes of an emitter that lives: it goes on at the wanted volume or fades, from the
beginning or from where it was, and stays the same otherwise. -/
inductive Emitter.GoesOn (wanted : Option Float32) (e : Emitter) : Emitter → Prop where
  | active (v : Float32) (wants : wanted = some v) (loud : 0 < v) :
      GoesOn wanted e { e with throttle := v, phase := .active }
  | fading (k : Nat) (unwanted : ∀ v, wanted = some v → ¬ 0 < v)
      (since : e.phase = .fading k ∨ e.phase = .active ∧ k = 0) :
      GoesOn wanted e { e with phase := .fading k }

structure Conforms (m : Mix) (r s : Roster) (starts : List (AcousticId × VoiceId)) : Prop where
  alive : ∀ a e, s.get? a = some e → e.phase ≠ .done
  active_iff : ∀ a, (∃ e, s.get? a = some e ∧ e.phase = .active) ↔ ∃ v, m.get? a = some v ∧ 0 < v
  throttle : ∀ a e, s.get? a = some e → e.phase = .active → m.get? a = some e.throttle
  kept : ∀ a e, r.get? a = some e → e.phase ≠ .done →
    ∃ f, s.get? a = some f ∧ e.GoesOn (m.get? a) f
  fading : ∀ a f, s.get? a = some f → f.phase ≠ .active →
    ∃ e k, r.get? a = some e ∧ f = { e with phase := .fading k } ∧
      (e.phase = .fading k ∨ e.phase = .active ∧ k = 0)
  ascending : starts.Pairwise fun p q => p.1.index < q.1.index
  started_iff : ∀ a, (∃ voice, (a, voice) ∈ starts) ↔
    (∃ v, m.get? a = some v ∧ 0 < v) ∧ ∀ e, r.get? a = some e → e.phase = .done
  voices : ∀ a voice, (a, voice) ∈ starts → ∃ e, s.get? a = some e ∧ e.voice = voice

theorem Conforms.wants_iff {m : Mix} {r s : Roster} {starts : List (AcousticId × VoiceId)}
    {a : AcousticId} (h : Conforms m r s starts) :
    m.wants a = true ↔ ∃ e, s.get? a = some e ∧ e.phase = .active := by
  rw [Mix.wants_iff, h.active_iff]

inductive Fate (m : Mix) (r s : Roster) (a : AcousticId) : Prop where
  | goesOn (e f : Emitter) (there : r.get? a = some e) (alive : e.phase ≠ .done)
      (later : s.get? a = some f) (goes : e.GoesOn (m.get? a) f)
  | starts (v : Float32) (voice : VoiceId) (gone : ∀ e, r.get? a = some e → e.phase = .done)
      (wanted : m.get? a = some v) (loud : 0 < v)
      (later : s.get? a = some ⟨a, voice, v, .active, r.fadeTicks, 0⟩)
  | none (gone : ∀ e, r.get? a = some e → e.phase = .done)
      (unwanted : ∀ v, m.get? a = some v → ¬ 0 < v) (later : s.get? a = none)

section Fates

variable {m : Mix} {r s : Roster} {a : AcousticId} {e f : Emitter}

theorem Emitter.GoesOn.active_iff {wanted : Option Float32} (h : e.GoesOn wanted f) :
    f.phase = .active ↔ ∃ v, wanted = some v ∧ 0 < v := by
  cases h with
  | active v wants loud => simp [wants, loud]
  | fading k unwanted since =>
    constructor
    · intro never
      cases never
    · rintro ⟨v, wants, loud⟩
      exact absurd loud (unwanted v wants)

namespace Fate

theorem of_some (h : Fate m r s a) (found : s.get? a = some f) :
    (∃ e, r.get? a = some e ∧ e.GoesOn (m.get? a) f) ∨
      f.phase = .active ∧ m.get? a = some f.throttle := by
  cases h with
  | goesOn e g there alive later goes =>
    obtain rfl := Option.some.inj (later.symm.trans found)
    exact .inl ⟨e, there, goes⟩
  | starts v voice gone wanted loud later =>
    obtain rfl := Option.some.inj (later.symm.trans found)
    exact .inr ⟨rfl, wanted⟩
  | none gone unwanted later =>
    rw [later] at found
    cases found

theorem alive (h : Fate m r s a) (found : s.get? a = some f) : f.phase ≠ .done := by
  rcases h.of_some found with ⟨e, -, goes⟩ | ⟨active, -⟩
  · cases goes <;> simp
  · simp [active]

theorem active_iff (h : Fate m r s a) :
    (∃ e, s.get? a = some e ∧ e.phase = .active) ↔ ∃ v, m.get? a = some v ∧ 0 < v := by
  cases h with
  | goesOn g f there lives later goes =>
    rw [← goes.active_iff, later]
    simp
  | starts v voice gone wanted loud later => simp [wanted, loud, later]
  | none gone unwanted later =>
    rw [later]
    simpa using unwanted

theorem throttle (h : Fate m r s a) (found : s.get? a = some f) (active : f.phase = .active) :
    m.get? a = some f.throttle := by
  rcases h.of_some found with ⟨e, -, goes⟩ | ⟨-, wanted⟩
  · cases goes with
    | active v wants loud => exact wants
    | fading k unwanted since => cases active
  · exact wanted

theorem kept (h : Fate m r s a) (there : r.get? a = some e) (lives : e.phase ≠ .done) :
    ∃ f, s.get? a = some f ∧ e.GoesOn (m.get? a) f := by
  cases h with
  | goesOn g f there' lives' later goes =>
    obtain rfl := Option.some.inj (there.symm.trans there')
    exact ⟨f, later, goes⟩
  | starts v voice gone wanted loud later => exact absurd (gone e there) lives
  | none gone unwanted later => exact absurd (gone e there) lives

theorem fading (h : Fate m r s a) (found : s.get? a = some f) (inactive : f.phase ≠ .active) :
    ∃ e k, r.get? a = some e ∧ f = { e with phase := .fading k } ∧
      (e.phase = .fading k ∨ e.phase = .active ∧ k = 0) := by
  rcases h.of_some found with ⟨e, there, goes⟩ | ⟨active, -⟩
  · cases goes with
    | active v wants loud => exact absurd rfl inactive
    | fading k unwanted since => exact ⟨e, k, there, rfl, since⟩
  · exact absurd active inactive

end Fate

end Fates

namespace Roster

variable {σ : Type} {start : σ → AcousticId → VoiceId × σ} {r : Roster} {m : Mix} {d : σ}
  {a : AcousticId} {e : Emitter}

theorem adjust_goesOn (made : m.Made) (alive : e.isDone = false) :
    e.GoesOn (m.get? a) (adjust m a e) := by
  have faded (unwanted : ∀ v, m.get? a = some v → ¬ 0 < v) : e.GoesOn (m.get? a) e.fade := by
    unfold Emitter.fade
    cases phase : e.phase with
    | active => exact .fading 0 unwanted (.inr ⟨phase, rfl⟩)
    | fading k =>
      have same : e = { e with phase := .fading k } := by rw [← phase]
      rw [same]
      exact .fading k unwanted (.inl rfl)
    | done => simp [Emitter.isDone, phase] at alive
  unfold adjust
  cases found : m.get? a with
  | none =>
    rw [found] at faded
    exact faded (by simp)
  | some v =>
    simp only
    split
    · rename_i loud
      have same : (e.setThrottle v).unfade = { e with throttle := v, phase := .active } := by
        unfold Emitter.unfade Emitter.setThrottle
        rw [made.clamped found]
        cases phase : e.phase <;> simp_all [Emitter.isDone]
      rw [same]
      exact .active v rfl loud
    · rename_i silent
      rw [found] at faded
      apply faded
      intro x same
      obtain rfl := Option.some.inj same
      exact silent

theorem mem_newcomers_iff (made : m.Made) {v : Float32} : (a, v) ∈ newcomers r.live m ↔
    (m.get? a = some v ∧ 0 < v) ∧ ∀ e, r.get? a = some e → e.phase = .done := by
  rw [mem_newcomers]
  constructor
  · rintro ⟨wanted, missing, loud⟩
    refine ⟨⟨wanted, (made.not_le_zero_iff wanted).mp loud⟩, ?_⟩
    intro e found
    by_contra alive
    rw [live_get?_eq_some found (by simpa [Emitter.isDone] using alive)] at missing
    cases missing
  · rintro ⟨⟨wanted, loud⟩, gone⟩
    refine ⟨wanted, live_get?_eq_none ?_, (made.not_le_zero_iff wanted).mpr loud⟩
    intro e found
    simp [Emitter.isDone, gone e found]

theorem reconcileOn_fate (made : m.Made) (start : σ → AcousticId → VoiceId × σ) (d : σ)
    (a : AcousticId) : Fate m r (r.reconcileOn start m d).1 a := by
  by_cases gone : ∀ e, r.get? a = some e → e.phase = .done
  · have ended : ∀ e, r.get? a = some e → e.isDone = true := by
      intro e found
      simp [Emitter.isDone, gone e found]
    by_cases wanted : ∃ v, m.get? a = some v ∧ 0 < v
    · obtain ⟨v, found, loud⟩ := wanted
      obtain ⟨starts, voice, -, -, later⟩ := reconcileOn_get?_new start r m d
        ((mem_newcomers_iff made).mpr ⟨⟨found, loud⟩, gone⟩)
      rw [made.clamped found] at later
      exact .starts v voice gone found loud later
    · have unwanted : ∀ v, m.get? a = some v → ¬ 0 < v := by
        intro v found loud
        exact wanted ⟨v, found, loud⟩
      apply Fate.none gone unwanted
      apply reconcileOn_get?_none ended
      intro v found
      by_contra loud
      exact unwanted v found ((made.not_le_zero_iff found).mp loud)
  · simp only [Classical.not_forall, exists_prop] at gone
    obtain ⟨e, there, alive⟩ := gone
    have lives : e.isDone = false := by simpa [Emitter.isDone] using alive
    exact .goesOn e _ there alive (reconcileOn_get?_live there lives) (adjust_goesOn made lives)

theorem reconcileOn_conforms (made : m.Made) (start : σ → AcousticId → VoiceId × σ) (r : Roster)
    (d : σ) : ∃ starts, Starts start d starts (r.reconcileOn start m d).2 ∧
      Conforms m r (r.reconcileOn start m d).1 starts := by
  have fate (a : AcousticId) : Fate m r (r.reconcileOn start m d).1 a :=
    reconcileOn_fate made start d a
  obtain ⟨starts, keys, told, entered⟩ := reconcileOn_starts start r m d
  have mem_iff (a : AcousticId) : (∃ voice, (a, voice) ∈ starts) ↔
      ∃ v, (a, v) ∈ newcomers r.live m := by
    have key : a ∈ starts.map (·.1) ↔ a ∈ (newcomers r.live m).map (·.1) := by rw [keys]
    simpa using key
  refine ⟨starts, told, fun a e => (fate a).alive, fun a => (fate a).active_iff,
    fun a e => (fate a).throttle, fun a e => (fate a).kept, fun a f => (fate a).fading, ?_, ?_, ?_⟩
  · have ordered : (newcomers r.live m).Pairwise fun p q => p.1.index < q.1.index :=
      m.volumes.ascending.filter _
    have inOrder : (starts.map (·.1)).Pairwise fun a b => a.index < b.index := by
      rw [keys]
      exact List.pairwise_map.mpr ordered
    rwa [List.pairwise_map] at inOrder
  · intro a
    rw [mem_iff]
    simp only [mem_newcomers_iff made]
    exact exists_and_right
  · intro a voice mem
    obtain ⟨v, -, later⟩ := entered a voice mem
    exact ⟨_, later, rfl⟩

/-- On every device, and so on every output, a reconciliation brings the roster in line with its mix
and asks for nothing but starts. -/
theorem reconcile_conforms (made : m.Made) (r : Roster) :
    (∀ {σ : Type} (start : σ → AcousticId → VoiceId × σ) (d : σ), ∃ starts,
      Starts start d starts (r.reconcileOn start m d).2 ∧
        Conforms m r (r.reconcileOn start m d).1 starts) ∧
    ∀ o : Output,
      ((r.reconcile m o).roster, (r.reconcile m o).output) = r.reconcileOn Output.start m o ∧
      ∃ starts, Conforms m r (r.reconcile m o).roster starts ∧
        Starts Output.start o starts (r.reconcile m o).output ∧
        (o.recording = true → (r.reconcile m o).output.calls.toList =
          o.calls.toList ++ starts.map fun e => .start e.1 e.2) := by
  constructor
  · intro σ start d
    exact reconcileOn_conforms made start r d
  · intro o
    refine ⟨r.reconcile_eq_reconcileOn m o, ?_⟩
    obtain ⟨starts, told, conforms⟩ := reconcileOn_conforms made Output.start r o
    rw [reconcile_roster, reconcile_output]
    exact ⟨starts, conforms, told, told.calls⟩

def smallRoster : Roster :=
  let emitter (a : Nat) (phase : Phase) : AcousticId × Emitter :=
    (⟨a⟩, ⟨⟨a⟩, ⟨a⟩, 0.5, phase, 8, 0⟩)
  ⟨.ofList [emitter 0 .active, emitter 1 (.fading 3), emitter 2 .done, emitter 3 (.fading 5)], 8⟩

def smallMix : Mix := .ofList [(⟨1⟩, 0.25), (⟨2⟩, 1), (⟨3⟩, 0), (⟨4⟩, 0.75)]

theorem small_reconcile_conforms :
    smallMix.Made ∧
    (smallRoster.reconcile smallMix { Output.silent true with next := 6 }).output.calls.toList =
      [.start ⟨2⟩ ⟨6⟩, .start ⟨4⟩ ⟨7⟩] ∧
    Conforms smallMix smallRoster
      (smallRoster.reconcile smallMix { Output.silent true with next := 6 }).roster
      [(⟨2⟩, ⟨6⟩), (⟨4⟩, ⟨7⟩)] := by
  have made : smallMix.Made := .ofList _
  have calls : (smallRoster.reconcile smallMix
      { Output.silent true with next := 6 }).output.calls.toList =
        [.start ⟨2⟩ ⟨6⟩, .start ⟨4⟩ ⟨7⟩] := by decide +kernel
  obtain ⟨-, starts, conforms, -, recorded⟩ :=
    (reconcile_conforms made smallRoster).2 { Output.silent true with next := 6 }
  have same := (recorded rfl).symm.trans calls
  have told : starts = [(⟨2⟩, ⟨6⟩), (⟨4⟩, ⟨7⟩)] := by
    have injective : Function.Injective fun e : AcousticId × VoiceId => Call.start e.1 e.2 := by
      rintro ⟨a, v⟩ ⟨b, w⟩ equal
      simpa using equal
    exact List.map_injective_iff.mpr injective same
  rw [told] at conforms
  exact ⟨made, calls, conforms⟩

end Roster

end AmbientSound
