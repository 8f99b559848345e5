import Mathlib.Data.List.Induction
import AmbientSound.Playback.Output
/-!
The order in which calls reach an output. A log is lawful if each call was allowed after the
calls before it. Lawful logs are closed under prefixes, and in each of them a voice is started
once, steered only while it is open, and stopped at most once.
-/
namespace AmbientSound

def OpenIn (log : List Call) (a : AcousticId) (v : VoiceId) : Prop :=
  .start a v ∈ log ∧ .stop v ∉ log

def Allowed (log : List Call) : Call → Prop
  | .start a v => (∀ b, .start b v ∉ log) ∧ ∀ w, ¬ OpenIn log a w
  | .setVolume v _ => ∃ a, OpenIn log a v
  | .stop v => ∃ a, OpenIn log a v
  | .once _ _ => True
  | .stopAll => ∀ a v, ¬ OpenIn log a v

inductive Lawful : List Call → Prop where
  | nil : Lawful []
  | snoc {log : List Call} {c : Call} (earlier : Lawful log) (allowed : Allowed log c) :
      Lawful (log ++ [c])

def Call.starts (v : VoiceId) : Call → Bool
  | .start _ w => w == v
  | _ => false

def Call.stops (v : VoiceId) : Call → Bool
  | .stop w => w == v
  | _ => false

def Call.steers (v : VoiceId) : Call → Bool
  | .setVolume w _ => w == v
  | .stop w => w == v
  | _ => false

def Call.concerns (log : List Call) (a : AcousticId) : Call → Bool
  | .start b _ => b == a
  | .stop v => decide (.start a v ∈ log)
  | _ => false

/-- Starts and stops of an acoustic take turns, each stop for the voice of the start before it.
At the end a voice is playing, or none is. -/
inductive Turns (a : AcousticId) : List Call → Option VoiceId → Prop where
  | nil : Turns a [] none
  | start {calls : List Call} (v : VoiceId) (idle : Turns a calls none) :
      Turns a (calls ++ [.start a v]) (some v)
  | stop {calls : List Call} {v : VoiceId} (playing : Turns a calls (some v)) :
      Turns a (calls ++ [.stop v]) none

/-- The order of a log, read off the log itself. -/
structure Orderly (log : List Call) : Prop where
  started_once : ∀ c ∈ log, ∀ v, c.starts v = true ∨ c.steers v = true →
    log.countP (Call.starts v) = 1
  steered_after_start : ∀ before c after v, log = before ++ c :: after → c.steers v = true →
    ∃ a, .start a v ∈ before
  silent_after_stop : ∀ before after v, log = before ++ .stop v :: after →
    ∀ c ∈ after, c.steers v = false
  one_for_each_acoustic : ∀ a v w, OpenIn log a v → OpenIn log a w → v = w
  turns : ∀ a, ∃ last, Turns a (log.filter (Call.concerns log a)) last
  stopped_before_stopAll : ∀ before after, log = before ++ .stopAll :: after →
    ∀ a v, .start a v ∈ before → before.countP (Call.stops v) = 1

section Calls

variable {log : List Call} {a b : AcousticId} {v w : VoiceId} {c : Call}

theorem Call.starts_iff : c.starts v = true ↔ ∃ a, c = .start a v := by
  cases c <;> simp [Call.starts]

theorem Call.stops_iff : c.stops v = true ↔ c = .stop v := by
  cases c <;> simp [Call.stops]

theorem Call.steers_iff : c.steers v = true ↔ c = .stop v ∨ ∃ x, c = .setVolume v x := by
  cases c <;> simp [Call.steers]

theorem openIn_append_start :
    OpenIn (log ++ [.start a v]) b w ↔ OpenIn log b w ∨ (b = a ∧ w = v ∧ .stop v ∉ log) := by
  simp only [OpenIn, List.mem_append, List.mem_singleton, Call.start.injEq, reduceCtorEq, or_false]
  constructor
  · rintro ⟨old | ⟨rfl, rfl⟩, running⟩
    · exact .inl ⟨old, running⟩
    · exact .inr ⟨rfl, rfl, running⟩
  · rintro (⟨old, running⟩ | ⟨rfl, rfl, running⟩)
    · exact ⟨.inl old, running⟩
    · exact ⟨.inr ⟨rfl, rfl⟩, running⟩

theorem openIn_append_stop :
    OpenIn (log ++ [.stop v]) b w ↔ OpenIn log b w ∧ w ≠ v := by
  simp only [OpenIn, List.mem_append, List.mem_singleton, Call.stop.injEq, reduceCtorEq, or_false,
    not_or, ne_eq]
  exact and_assoc.symm

theorem openIn_append_other (noStart : ∀ a v, c ≠ .start a v) (noStop : ∀ v, c ≠ .stop v) :
    OpenIn (log ++ [c]) b w ↔ OpenIn log b w := by
  simp [OpenIn, (noStart b w).symm, (noStop w).symm]

end Calls

namespace Lawful

variable {log before after : List Call} {a b : AcousticId} {v w : VoiceId} {c : Call}

theorem of_snoc (h : Lawful (log ++ [c])) : Lawful log ∧ Allowed log c := by
  generalize whole : log ++ [c] = full at h
  cases h with
  | nil => simp at whole
  | snoc earlier allowed =>
    obtain ⟨rfl, same⟩ := List.append_inj' whole rfl
    obtain rfl := List.singleton_inj.mp same
    exact ⟨earlier, allowed⟩

theorem of_append (h : Lawful (before ++ after)) : Lawful before := by
  induction after using List.reverseRecOn with
  | nil => simpa using h
  | append_singleton rest last ih =>
    rw [← List.append_assoc] at h
    exact ih h.of_snoc.1

theorem of_prefix {p : List Call} (h : Lawful log) (front : p <+: log) : Lawful p := by
  obtain ⟨rest, rfl⟩ := front
  exact h.of_append

theorem allowed_at (h : Lawful (before ++ c :: after)) : Allowed before c := by
  rw [List.append_cons] at h
  exact h.of_append.of_snoc.2

theorem started_of_stopped (h : Lawful log) (stopped : .stop v ∈ log) :
    ∃ a, .start a v ∈ log := by
  obtain ⟨before, after, rfl⟩ := List.append_of_mem stopped
  obtain ⟨a, started, -⟩ := h.allowed_at
  exact ⟨a, List.mem_append_left _ started⟩

theorem unstopped_of_fresh (h : Lawful log) (fresh : ∀ b, .start b v ∉ log) : .stop v ∉ log := by
  intro stopped
  obtain ⟨b, started⟩ := h.started_of_stopped stopped
  exact fresh b started

theorem countP_starts_le (h : Lawful log) (v : VoiceId) : log.countP (Call.starts v) ≤ 1 := by
  induction h with
  | nil => simp
  | @snoc log c earlier allowed ih =>
    simp only [List.countP_append, List.countP_singleton]
    split
    · rename_i starts
      obtain ⟨a, rfl⟩ := Call.starts_iff.mp starts
      have none : log.countP (Call.starts v) = 0 := by
        rw [List.countP_eq_zero]
        intro d mem again
        obtain ⟨b, rfl⟩ := Call.starts_iff.mp again
        exact allowed.1 b mem
      omega
    · exact ih

theorem countP_starts_eq (h : Lawful log) (started : .start a v ∈ log) :
    log.countP (Call.starts v) = 1 := by
  have most := h.countP_starts_le v
  have least : 0 < log.countP (Call.starts v) :=
    List.countP_pos_iff.mpr ⟨_, started, Call.starts_iff.mpr ⟨a, rfl⟩⟩
  omega

theorem open_of_steered (h : Lawful (before ++ c :: after)) (steers : c.steers v = true) :
    ∃ a, OpenIn before a v := by
  have allowed := h.allowed_at
  rcases Call.steers_iff.mp steers with rfl | ⟨x, rfl⟩
  · exact allowed
  · exact allowed

theorem silent_after_stop (h : Lawful (before ++ .stop v :: after)) (mem : c ∈ after) :
    c.steers v = false := by
  obtain ⟨mid, rest, rfl⟩ := List.append_of_mem mem
  cases steers : c.steers v with
  | false => rfl
  | true =>
    rw [show before ++ .stop v :: (mid ++ c :: rest) = (before ++ .stop v :: mid) ++ c :: rest by
      simp] at h
    obtain ⟨a, -, running⟩ := h.open_of_steered steers
    exact absurd (by simp) running

theorem countP_stops_eq (h : Lawful log) (stopped : .stop v ∈ log) :
    log.countP (Call.stops v) = 1 := by
  obtain ⟨before, after, rfl⟩ := List.append_of_mem stopped
  obtain ⟨a, -, running⟩ := h.allowed_at
  have none : before.countP (Call.stops v) = 0 := by
    rw [List.countP_eq_zero]
    intro d mem again
    rw [Call.stops_iff.mp again] at mem
    exact running mem
  have later : after.countP (Call.stops v) = 0 := by
    rw [List.countP_eq_zero]
    intro d mem again
    have silent := h.silent_after_stop mem
    rw [Call.stops_iff.mp again] at silent
    simp [Call.steers] at silent
  simp [none, later, Call.stops]

theorem open_unique (h : Lawful log) (first : OpenIn log a v) (second : OpenIn log a w) :
    v = w := by
  induction h with
  | nil => simp [OpenIn] at first
  | @snoc log c earlier allowed ih =>
    cases c with
    | start b u =>
      rw [openIn_append_start] at first second
      rcases first with old | ⟨rfl, rfl, -⟩
      · rcases second with old' | ⟨rfl, rfl, -⟩
        · exact ih old old'
        · exact absurd old (allowed.2 v)
      · rcases second with old' | ⟨-, rfl, -⟩
        · exact absurd old' (allowed.2 w)
        · rfl
    | stop u => exact ih (openIn_append_stop.mp first).1 (openIn_append_stop.mp second).1
    | setVolume u x =>
      exact ih ((openIn_append_other (by simp) (by simp)).mp first)
        ((openIn_append_other (by simp) (by simp)).mp second)
    | once b x =>
      exact ih ((openIn_append_other (by simp) (by simp)).mp first)
        ((openIn_append_other (by simp) (by simp)).mp second)
    | stopAll =>
      exact ih ((openIn_append_other (by simp) (by simp)).mp first)
        ((openIn_append_other (by simp) (by simp)).mp second)

theorem filter_concerns_append (h : Lawful log) (allowed : Allowed log c) (a : AcousticId) :
    log.filter (Call.concerns (log ++ [c]) a) = log.filter (Call.concerns log a) := by
  apply List.filter_congr
  intro d mem
  cases d with
  | stop v =>
    have same : .start a v ∈ log ++ [c] ↔ .start a v ∈ log := by
      simp only [List.mem_append, List.mem_singleton, or_iff_left_iff_imp]
      intro new
      rw [← new] at allowed
      exact absurd mem (h.unstopped_of_fresh allowed.1)
    simp [Call.concerns, same]
  | _ => rfl

/-- The calls of concern take turns up to a voice, which is the one that is open. -/
def TurnsOpen (log : List Call) (a : AcousticId) (last : Option VoiceId) : Prop :=
  Turns a (log.filter (Call.concerns log a)) last ∧ ∀ v, last = some v ↔ OpenIn log a v

section LastCall

variable {last : Option VoiceId} {u : VoiceId}

theorem TurnsOpen.other (h : TurnsOpen log a last) (earlier : Lawful log) (allowed : Allowed log c)
    (skipped : c.concerns (log ++ [c]) a = false)
    (keeps : ∀ v, OpenIn (log ++ [c]) a v ↔ OpenIn log a v) : TurnsOpen (log ++ [c]) a last := by
  obtain ⟨turns, current⟩ := h
  refine ⟨?_, fun v => (current v).trans (keeps v).symm⟩
  rw [List.filter_append, earlier.filter_concerns_append allowed]
  simpa [List.filter_cons, skipped] using turns

theorem TurnsOpen.start (h : TurnsOpen log a last) (earlier : Lawful log)
    (allowed : Allowed log (.start a u)) : TurnsOpen (log ++ [.start a u]) a (some u) := by
  obtain ⟨turns, current⟩ := h
  have running := earlier.unstopped_of_fresh allowed.1
  have idle : last = none := by
    cases last with
    | none => rfl
    | some v => exact absurd ((current v).mp rfl) (allowed.2 v)
  rw [idle] at turns
  constructor
  · rw [List.filter_append, earlier.filter_concerns_append allowed]
    simpa [List.filter_cons, Call.concerns] using turns.start u
  · intro v
    rw [openIn_append_start]
    constructor
    · intro new
      exact .inr ⟨rfl, (Option.some.inj new).symm, running⟩
    · rintro (old | ⟨-, rfl, -⟩)
      · exact absurd old (allowed.2 v)
      · rfl

theorem TurnsOpen.stop (h : TurnsOpen log a last) (earlier : Lawful log)
    (allowed : Allowed log (.stop u)) (ours : .start a u ∈ log) :
    TurnsOpen (log ++ [.stop u]) a none := by
  obtain ⟨turns, current⟩ := h
  have ⟨_, _, running⟩ := allowed
  have playing : last = some u := (current u).mpr ⟨ours, running⟩
  rw [playing] at turns
  constructor
  · rw [List.filter_append, earlier.filter_concerns_append allowed]
    simpa [List.filter_cons, Call.concerns, ours] using turns.stop
  · intro v
    rw [openIn_append_stop, ← current v, playing]
    simp [eq_comm]

end LastCall

theorem turns_open (h : Lawful log) (a : AcousticId) : ∃ last, TurnsOpen log a last := by
  induction h with
  | nil => exact ⟨none, .nil, by simp [OpenIn]⟩
  | @snoc log c earlier allowed ih =>
    obtain ⟨last, ih⟩ := ih
    cases c with
    | start b u =>
      by_cases same : b = a
      · subst same
        exact ⟨some u, ih.start earlier allowed⟩
      · refine ⟨last, ih.other earlier allowed (by simp [Call.concerns, same]) ?_⟩
        intro v
        rw [openIn_append_start]
        simp [Ne.symm same]
    | stop u =>
      by_cases ours : .start a u ∈ log
      · exact ⟨none, ih.stop earlier allowed ours⟩
      · refine ⟨last, ih.other earlier allowed (by simp [Call.concerns, ours]) ?_⟩
        intro v
        rw [openIn_append_stop]
        refine and_iff_left_of_imp ?_
        rintro opened rfl
        exact ours opened.1
    | setVolume u x =>
      exact ⟨last, ih.other earlier allowed rfl fun v => openIn_append_other (by simp) (by simp)⟩
    | once b x =>
      exact ⟨last, ih.other earlier allowed rfl fun v => openIn_append_other (by simp) (by simp)⟩
    | stopAll =>
      exact ⟨last, ih.other earlier allowed rfl fun v => openIn_append_other (by simp) (by simp)⟩

theorem orderly (h : Lawful log) : Orderly log where
  started_once := by
    intro c mem v speaks
    rcases speaks with starts | steers
    · obtain ⟨a, rfl⟩ := Call.starts_iff.mp starts
      exact h.countP_starts_eq mem
    · obtain ⟨before, after, rfl⟩ := List.append_of_mem mem
      obtain ⟨a, started, -⟩ := h.open_of_steered steers
      exact h.countP_starts_eq (List.mem_append_left _ started)
  steered_after_start := by
    rintro before c after v rfl steers
    obtain ⟨a, started, -⟩ := h.open_of_steered steers
    exact ⟨a, started⟩
  silent_after_stop := by
    rintro before after v rfl c mem
    exact h.silent_after_stop mem
  one_for_each_acoustic := fun a v w => h.open_unique
  turns := by
    intro a
    obtain ⟨last, turns, -⟩ := h.turns_open a
    exact ⟨last, turns⟩
  stopped_before_stopAll := by
    rintro before after rfl a v started
    have none := h.allowed_at a v
    by_cases stopped : .stop v ∈ before
    · exact h.of_append.countP_stops_eq stopped
    · exact absurd ⟨started, stopped⟩ none

end Lawful

end AmbientSound
