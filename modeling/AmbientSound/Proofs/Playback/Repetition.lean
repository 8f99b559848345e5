import AmbientSound.Proofs.Playback.Bookkeeping
import AmbientSound.Proofs.Playback.Ownership
import AmbientSound.Proofs.Playback.Ticking
/-!
The same mix for a second time. As long as the voices that it wanted go on to play, another
reconciliation with it finds nothing to do, however many steps the emitters took meanwhile.
-/
namespace AmbientSound

namespace Emitter

variable {e : Emitter} {o : Output} {scale : Float32}

theorem tick_inactive (inactive : e.phase ≠ .active) : (e.tick scale o).1.phase ≠ .active := by
  cases phase : e.phase with
  | active => exact absurd phase inactive
  | done =>
    rw [tick_done phase]
    exact inactive
  | fading k =>
    intro active
    have steps : (e.tick scale o).1.isDone = true ∨
        (e.tick scale o).1.phase = .fading (k + 1) ∧ k + 1 < e.fadeTicks := tick_of_fading phase
    simp [isDone, active] at steps

end Emitter

inductive Act where
  | reconcile (m : Mix)
  | tickAll (scale : Float32)
  | clear
  | fail (a : AcousticId)
  | heal (a : AcousticId)
  | finish (v : VoiceId)

namespace Act

def apply (x : Roster × Output) : Act → Roster × Output
  | .reconcile m => ((x.1.reconcile m x.2).roster, (x.1.reconcile m x.2).output)
  | .tickAll scale => x.1.tickAll scale x.2
  | .clear => x.1.clear x.2
  | .fail a => (x.1, x.2.fail a)
  | .heal a => (x.1, x.2.heal a)
  | .finish v => (x.1, x.2.finish v)

def run (x : Roster × Output) (acts : List Act) : Roster × Output := acts.foldl apply x

/-- A step of the emitters, or something that happens to the output and ends none of the voices. -/
def Spares (voices : VoiceId → Prop) : Act → Prop
  | .reconcile _ => False
  | .clear => False
  | .finish v => ¬ voices v
  | _ => True

theorem apply_moves (x : Roster × Output) (act : Act) :
    Moves False ⟨x.1.emitters.entries, x.2⟩
      ⟨(act.apply x).1.emitters.entries, (act.apply x).2⟩ := by
  cases act with
  | reconcile m => exact x.1.reconcile_moves m x.2 False.elim
  | tickAll scale => exact x.1.tickAll_moves scale x.2
  | clear => exact x.1.clear_moves x.2
  | fail a => exact .single (.fail _ x.2 a)
  | heal a => exact .single (.heal _ x.2 a)
  | finish v => exact .single (.ended _ x.2 v id)

theorem run_numbered {x : Roster × Output} (h : Numbered ⟨x.1.emitters.entries, x.2⟩)
    (acts : List Act) :
    Numbered ⟨(run x acts).1.emitters.entries, (run x acts).2⟩ := by
  induction acts generalizing x with
  | nil => exact h
  | cons act rest ih => exact ih (h.moves (apply_moves x act))

end Act

namespace Roster

structure Lasts (first : Roster) (x : Roster × Output) : Prop where
  numbered : Numbered ⟨x.1.emitters.entries, x.2⟩
  active : ∀ a e, first.get? a = some e → e.phase = .active → ∃ f, x.1.get? a = some f ∧
    f.phase = .active ∧ f.voice = e.voice ∧ f.throttle = e.throttle ∧ x.2.isDone e.voice = false
  old : ∀ a f, x.1.get? a = some f → ∃ e, first.get? a = some e ∧ f.voice = e.voice ∧
    (e.phase ≠ .active → f.phase ≠ .active)

namespace Lasts

variable {first : Roster} {x : Roster × Output}

theorem of_output {o : Output} (h : Lasts first x) (next : o.next = x.2.next)
    (heard : ∀ a e, first.get? a = some e → e.phase = .active → x.2.isDone e.voice = false →
      o.isDone e.voice = false) : Lasts first (x.1, o) := by
  refine ⟨h.numbered.sameEmitters next, ?_, h.old⟩
  intro a e there active
  obtain ⟨f, later, active', voice, throttle, sounds⟩ := h.active a e there active
  exact ⟨f, later, active', voice, throttle, heard a e there active sounds⟩

theorem tickAll (h : Lasts first x) (scale : Float32) : Lasts first (x.1.tickAll scale x.2) := by
  refine ⟨h.numbered.moves (Act.apply_moves x (.tickAll scale)), ?_, ?_⟩
  · intro a e there active
    obtain ⟨f, later, active', voice, throttle, sounds⟩ := h.active a e there active
    rw [← voice] at sounds ⊢
    obtain ⟨o, before, found, after⟩ := x.1.tickAll_get?_some scale x.2 h.numbered.apart later
    rw [Emitter.tick_active active' (before.trans sounds)] at found after
    refine ⟨_, found, active', rfl, throttle, ?_⟩
    rw [after]
    exact (o.isDone_setVolume _).trans (before.trans sounds)
  · intro a g found
    cases there : x.1.get? a with
    | none =>
      rw [tickAll_get?_none there] at found
      cases found
    | some f =>
      obtain ⟨o, -, found', -⟩ := x.1.tickAll_get?_some scale x.2 h.numbered.apart there
      obtain rfl := Option.some.inj (found'.symm.trans found)
      obtain ⟨e, there', voice, inactive⟩ := h.old a f there
      exact ⟨e, there', (f.tick_steps scale o).voice.trans voice,
        fun ended => Emitter.tick_inactive (inactive ended)⟩

theorem apply (h : Lasts first x) {act : Act}
    (spared : act.Spares fun v => ∃ a e, first.get? a = some e ∧ e.phase = .active ∧ e.voice = v) :
    Lasts first (act.apply x) := by
  cases act with
  | reconcile m => exact spared.elim
  | clear => exact spared.elim
  | tickAll scale => exact h.tickAll scale
  | fail a => exact h.of_output rfl fun _ _ _ _ sounds => sounds
  | heal a => exact h.of_output rfl fun _ _ _ _ sounds => sounds
  | finish v =>
    refine h.of_output (o := x.2.finish v) rfl ?_
    intro a e there active sounds
    rw [Output.isDone_finish_other, sounds]
    intro same
    exact spared ⟨a, e, there, active, same⟩

theorem run (h : Lasts first x) {acts : List Act}
    (spared : ∀ act ∈ acts,
      act.Spares fun v => ∃ a e, first.get? a = some e ∧ e.phase = .active ∧ e.voice = v) :
    Lasts first (Act.run x acts) := by
  induction acts generalizing x with
  | nil => exact h
  | cons act rest ih =>
    exact ih (h.apply (spared act (by simp))) fun act mem => spared act (List.mem_cons_of_mem _ mem)

end Lasts

/-- A second reconciliation with a mix that found nothing to do: what is wanted goes on as the first
one left it, and what else there is was already fading then. -/
structure Repeats (m : Mix) (first : Roster) (o : Output) (second : Reconciliation) : Prop where
  started : second.summary.started = 0
  unfaded : second.summary.unfaded = 0
  faded : second.summary.faded = 0
  continued : second.summary.continued = m.wanted
  output : second.output = o
  wanted : ∀ a, m.wants a = true → ∃ e f, first.get? a = some e ∧ second.roster.get? a = some f ∧
    e.phase = .active ∧ f.phase = .active ∧ f.voice = e.voice ∧ f.throttle = e.throttle
  others : ∀ a f, second.roster.get? a = some f → m.wants a = false →
    ∃ e k, first.get? a = some e ∧ e.phase = .fading k ∧ f.voice = e.voice

section Repetition

variable {m : Mix} {r first : Roster} {starts : List (AcousticId × VoiceId)} {x : Roster × Output}
  {a : AcousticId} {e f : Emitter}

namespace Lasts

theorem wanted (h : Lasts first x) (conforms : Conforms m r first starts)
    (wants : m.wants a = true) :
    ∃ e f, first.get? a = some e ∧ x.1.get? a = some f ∧ e.phase = .active ∧ f.phase = .active ∧
      f.voice = e.voice ∧ f.throttle = e.throttle := by
  obtain ⟨e, there, active⟩ := conforms.wants_iff.mp wants
  obtain ⟨f, later, active', voice, throttle, -⟩ := h.active a e there active
  exact ⟨e, f, there, later, active, active', voice, throttle⟩

theorem unwanted (h : Lasts first x) (conforms : Conforms m r first starts)
    (unwanted : m.wants a = false) (later : x.1.get? a = some f) :
    f.phase ≠ .active ∧ ∃ e k, first.get? a = some e ∧ e.phase = .fading k ∧ f.voice = e.voice := by
  obtain ⟨e, there, voice, inactive⟩ := h.old a f later
  have fades : e.phase ≠ .active := by
    intro active
    rw [conforms.wants_iff.mpr ⟨e, there, active⟩] at unwanted
    cases unwanted
  refine ⟨inactive fades, e, ?_⟩
  cases phase : e.phase with
  | active => exact absurd phase fades
  | fading k => exact ⟨k, there, rfl, voice⟩
  | done => exact absurd phase (conforms.alive a e there)

theorem newcomers_eq_nil (h : Lasts first x) (made : m.Made) (conforms : Conforms m r first starts) :
    newcomers x.1.live m = [] := by
  apply List.eq_nil_iff_forall_not_mem.mpr
  rintro ⟨a, v⟩ mem
  obtain ⟨wants, gone⟩ := (mem_newcomers_iff made).mp mem
  obtain ⟨e, f, -, later, -, active, -⟩ := h.wanted conforms (Mix.wants_iff.mpr ⟨v, wants⟩)
  rw [gone f later] at active
  cases active

theorem unfaded_eq_zero (h : Lasts first x) (conforms : Conforms m r first starts) :
    (x.1.summary m).unfaded = 0 := by
  rw [summary_counts]
  apply List.countP_eq_zero.mpr
  intro e mem both
  obtain ⟨wants, fading⟩ := Bool.and_eq_true_iff.mp both
  obtain ⟨-, f, -, later, -, active, -⟩ := h.wanted conforms wants
  obtain rfl := Option.some.inj (later.symm.trans (get?_of_mem_live mem))
  simp [Emitter.isFading, active] at fading

theorem faded_eq_zero (h : Lasts first x) (conforms : Conforms m r first starts) :
    (x.1.summary m).faded = 0 := by
  rw [summary_counts]
  apply List.countP_eq_zero.mpr
  intro e mem both
  obtain ⟨unwanted, steady⟩ := Bool.and_eq_true_iff.mp both
  have alive := x.1.live_alive e mem
  have inactive := (h.unwanted conforms (by simpa using unwanted) (get?_of_mem_live mem)).1
  cases phase : e.2.phase <;> simp_all [Emitter.isFading, Emitter.isDone]

theorem repeats (h : Lasts first x) (made : m.Made) (conforms : Conforms m r first starts) :
    Repeats m first x.2 (x.1.reconcile m x.2) := by
  have none := h.newcomers_eq_nil made conforms
  have started : (x.1.summary m).started = 0 := by
    rw [summary_counts, none]
    rfl
  obtain ⟨_, -, again⟩ := reconcileOn_conforms made Output.start x.1 x.2
  rw [← reconcile_roster] at again
  constructor
  · rw [summary_eq]
    exact started
  · rw [summary_eq]
    exact h.unfaded_eq_zero conforms
  · rw [summary_eq]
    exact h.faded_eq_zero conforms
  · have wanted := started_add_continued (r := x.1) made
    rw [started, Nat.zero_add] at wanted
    rwa [summary_eq]
  · simp only [reconcile_eq, reconciled, none]
    rfl
  · intro a wants
    obtain ⟨e, f, there, later, active, active', voice, throttle⟩ := h.wanted conforms wants
    obtain ⟨g, found, goes⟩ := again.kept a f later (by simp [active'])
    refine ⟨e, g, there, found, active, ?_⟩
    cases goes with
    | active v same loud =>
      obtain rfl := Option.some.inj ((conforms.throttle a e there active).symm.trans same)
      exact ⟨rfl, voice, rfl⟩
    | fading k unwanted since =>
      obtain ⟨v, same, loud⟩ := Mix.wants_iff.mp wants
      exact absurd loud (unwanted v same)
  · intro a g found unwanted
    have inactive : g.phase ≠ .active := by
      intro active
      rw [again.wants_iff.mpr ⟨g, found, active⟩] at unwanted
      cases unwanted
    obtain ⟨f, k, later, rfl, -⟩ := again.fading a g found inactive
    exact (h.unwanted conforms unwanted later).2

end Lasts

/-- If what a mix wants is heard after a reconciliation, and goes on to be heard, then the same mix
finds nothing to do later on. -/
theorem reconcile_again {fadeTicks : Nat} {recording : Bool} {before between : List Act}
    (made : m.Made) :
    let x := Act.run (vacant fadeTicks, .silent recording) before
    let first := (x.1.reconcile m x.2).roster
    let y := Act.run (first, (x.1.reconcile m x.2).output) between
    (∀ a e, m.wants a = true → first.get? a = some e →
      (x.1.reconcile m x.2).output.isDone e.voice = false) →
    (∀ act ∈ between, act.Spares fun v => ∃ a e, m.wants a = true ∧ first.get? a = some e ∧
      e.voice = v) →
    Repeats m first y.2 (y.1.reconcile m y.2) := by
  intro x first y heard spared
  have numbered : Numbered ⟨x.1.emitters.entries, x.2⟩ :=
    Act.run_numbered ⟨by simp [vacant, IdentMap.empty], by simp [vacant, IdentMap.empty],
      by simp [vacant, IdentMap.empty]⟩ before
  obtain ⟨starts, -, conforms⟩ := reconcileOn_conforms made Output.start x.1 x.2
  rw [← reconcile_roster] at conforms
  have lasts : Lasts first (first, (x.1.reconcile m x.2).output) := by
    refine ⟨numbered.moves (Act.apply_moves x (.reconcile m)), ?_, ?_⟩
    · intro a e there active
      exact ⟨e, there, active, rfl, rfl,
        heard a e (conforms.wants_iff.mpr ⟨e, there, active⟩) there⟩
    · intro a f found
      exact ⟨f, found, rfl, id⟩
  apply Lasts.repeats _ made conforms
  apply lasts.run
  -- The voices of active emitters are those of the wanted ones, and these are spared.
  intro act mem
  have spares := spared act mem
  cases act with
  | finish v =>
    rintro ⟨a, e, there, active, voice⟩
    exact spares ⟨a, e, conforms.wants_iff.mpr ⟨e, there, active⟩, there, voice⟩
  | _ => exact spares

theorem small_reconcile_again :
    let m := Mix.ofList [(⟨1⟩, 0.75), (⟨2⟩, 1)]
    let x := Act.run (vacant 5, .silent true)
      [.reconcile (.ofList [(⟨0⟩, 1), (⟨1⟩, 0.5)]), .tickAll 1, .fail ⟨0⟩]
    let first := (x.1.reconcile m x.2).roster
    let y := Act.run (first, (x.1.reconcile m x.2).output)
      [.tickAll 1, .finish ⟨0⟩, .tickAll 0.5, .fail ⟨1⟩, .tickAll 1]
    Repeats m first y.2 (y.1.reconcile m y.2) ∧ first.size = 3 ∧
      (y.1.reconcile m y.2).roster.size = 2 := by
  intro m x first y
  have heard : ∀ e ∈ first.emitters.entries, m.wants e.1 = true →
      (x.1.reconcile m x.2).output.isDone e.2.voice = false ∧ e.2.voice ≠ ⟨0⟩ := by decide +kernel
  have entry {a : AcousticId} {e : Emitter} (found : first.get? a = some e) :
      (a, e) ∈ first.emitters.entries := (first.emitters.get?_eq_some_iff a e).mp found
  refine ⟨reconcile_again (.ofList _) ?_ ?_, by decide +kernel, by decide +kernel⟩
  · intro a e wants found
    exact (heard (a, e) (entry found) wants).1
  · intro act mem
    simp only [List.mem_cons, List.not_mem_nil, or_false] at mem
    rcases mem with rfl | rfl | rfl | rfl | rfl
    · trivial
    · rintro ⟨a, e, wants, found, voice⟩
      exact (heard (a, e) (entry found) wants).2 voice
    · trivial
    · trivial
    · trivial

end Repetition

end Roster

end AmbientSound
