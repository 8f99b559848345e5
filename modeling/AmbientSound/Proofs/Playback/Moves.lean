import Mathlib.Logic.Relation
import AmbientSound.Proofs.Playback.Loops
import AmbientSound.Proofs.Playback.Effects
/-!
Everything that can happen to the emitters and their output, as single moves. Whatever a roster
does is a chain of moves, so what every move keeps is kept by all of it.
-/
namespace AmbientSound

structure Stage where
  emitters : List (AcousticId × Emitter)
  output : Output

/-- One thing that happens. If it is `calm`, no start fails and no voice ends by itself. -/
inductive Move (calm : Prop) : Stage → Stage → Prop where
  /-- Throttle or phase change, within life. -/
  | retune (before after : List (AcousticId × Emitter)) (a : AcousticId) (e f : Emitter)
      (o : Output) (acoustic : f.acoustic = e.acoustic) (voice : f.voice = e.voice)
      (volume : f.volume = e.volume) (alive : e.isDone = false) (stays : f.isDone = false) :
      Move calm ⟨before ++ (a, e) :: after, o⟩ ⟨before ++ (a, f) :: after, o⟩
  | push (before after : List (AcousticId × Emitter)) (a : AcousticId) (e : Emitter)
      (volume : Float32) (o : Output) (alive : e.isDone = false)
      (sounding : o.isDone e.voice = false) :
      Move calm ⟨before ++ (a, e) :: after, o⟩
        ⟨before ++ (a, (e.push volume o).1) :: after, (e.push volume o).2⟩
  | finish (before after : List (AcousticId × Emitter)) (a : AcousticId) (e : Emitter)
      (o : Output) (alive : e.isDone = false) :
      Move calm ⟨before ++ (a, e) :: after, o⟩
        ⟨before ++ (a, (e.finish o).1) :: after, (e.finish o).2⟩
  | reap (es : List (AcousticId × Emitter)) (o : Output) :
      Move calm ⟨es, o⟩ ⟨es.filter fun e => !e.2.isDone, o⟩
  | start (es fs : List (AcousticId × Emitter)) (a : AcousticId) (throttle : Float32)
      (fadeTicks : Nat) (o : Output) (absent : ∀ e ∈ es, e.1 ≠ a)
      (entered : fs.Perm ((a, (Emitter.start a throttle fadeTicks o).1) :: es))
      (works : calm → o.failing.contains a = false) :
      Move calm ⟨es, o⟩ ⟨fs, (Emitter.start a throttle fadeTicks o).2⟩
  | once (es : List (AcousticId × Emitter)) (o : Output) (a : AcousticId) (volume : Float32) :
      Move calm ⟨es, o⟩ ⟨es, o.playOnce a volume⟩
  | stopAll (o : Output) : Move calm ⟨[], o⟩ ⟨[], o.stopAll⟩
  | fail (es : List (AcousticId × Emitter)) (o : Output) (a : AcousticId) :
      Move calm ⟨es, o⟩ ⟨es, o.fail a⟩
  | heal (es : List (AcousticId × Emitter)) (o : Output) (a : AcousticId) :
      Move calm ⟨es, o⟩ ⟨es, o.heal a⟩
  | ended (es : List (AcousticId × Emitter)) (o : Output) (v : VoiceId) (harm : ¬ calm) :
      Move calm ⟨es, o⟩ ⟨es, o.finish v⟩

abbrev Moves (calm : Prop) : Stage → Stage → Prop := Relation.ReflTransGen (Move calm)

theorem Moves.invariant {calm : Prop} {P : Stage → Prop}
    (step : ∀ x y, P x → Move calm x y → P y) {x y : Stage} (run : Moves calm x y) (start : P x) :
    P y := by
  induction run with
  | refl => exact start
  | tail _ last ih => exact step _ _ ih last

section EmitterSteps

variable {calm : Prop}

theorem tick_moves (before after : List (AcousticId × Emitter)) (a : AcousticId) (e : Emitter)
    (scale : Float32) (o : Output) :
    Moves calm ⟨before ++ (a, e) :: after, o⟩
      ⟨before ++ (a, (e.tick scale o).1) :: after, (e.tick scale o).2⟩ := by
  unfold Emitter.tick
  split
  · exact .refl
  · rename_i active
    have alive : e.isDone = false := by simp [Emitter.isDone, active]
    split
    · exact .single (.finish before after a e o alive)
    · rename_i sounding
      exact .single (.push before after a e _ o alive (by simpa using sounding))
  · rename_i elapsed fading
    have alive : e.isDone = false := by simp [Emitter.isDone, fading]
    split
    · exact .single (.finish before after a e o alive)
    · rename_i sounding
      -- the fade goes on by a tick, and then the emitter is finished or heard
      have longer : Move calm ⟨before ++ (a, e) :: after, o⟩
          ⟨before ++ (a, { e with phase := .fading (elapsed + 1) }) :: after, o⟩ :=
        .retune before after a e _ o rfl rfl rfl alive (by simp [Emitter.isDone])
      have stays : ({ e with phase := .fading (elapsed + 1) } : Emitter).isDone = false := by
        simp [Emitter.isDone]
      simp only
      split
      · exact .tail (.single longer) (.finish before after a _ o stays)
      · exact .tail (.single longer) (.push before after a _ _ o stays (by simpa using sounding))

theorem stop_moves (before after : List (AcousticId × Emitter)) (a : AcousticId) (e : Emitter)
    (o : Output) :
    Moves calm ⟨before ++ (a, e) :: after, o⟩
      ⟨before ++ (a, (e.stop o).1) :: after, (e.stop o).2⟩ := by
  unfold Emitter.stop
  split
  · exact .refl
  · rename_i alive
    exact .single (.finish before after a e o (by simpa [Emitter.isDone] using alive))

theorem stop_isDone (e : Emitter) (o : Output) : (e.stop o).1.isDone = true := by
  unfold Emitter.stop
  split
  · rename_i done
    simp [Emitter.isDone, done]
  · simp [Emitter.finish, Emitter.isDone]

theorem adjust_keeps (m : Mix) (a : AcousticId) {e : Emitter} (alive : e.isDone = false) :
    (Roster.adjust m a e).acoustic = e.acoustic ∧ (Roster.adjust m a e).voice = e.voice ∧
      (Roster.adjust m a e).volume = e.volume ∧ (Roster.adjust m a e).isDone = false := by
  have faded : e.fade.acoustic = e.acoustic ∧ e.fade.voice = e.voice ∧
      e.fade.volume = e.volume ∧ e.fade.isDone = false := by
    unfold Emitter.fade
    split <;> simp_all [Emitter.isDone]
  unfold Roster.adjust
  split
  · split
    · unfold Emitter.unfade Emitter.setThrottle
      split <;> simp_all [Emitter.isDone]
    · exact faded
  · exact faded

end EmitterSteps

namespace Roster

variable {calm : Prop}

/-- A step of every emitter is a chain of moves if each single step is one wherever it happens. -/
theorem eachEmitter_moves {f : Emitter → Output → Emitter × Output}
    (one : ∀ before after a e o, Moves calm ⟨before ++ (a, e) :: after, o⟩
      ⟨before ++ (a, (f e o).1) :: after, (f e o).2⟩)
    (before es : List (AcousticId × Emitter)) (o : Output) :
    Moves calm ⟨before ++ es, o⟩ ⟨before ++ (eachEmitter f es o).1, (eachEmitter f es o).2⟩ := by
  induction es generalizing before o with
  | nil => exact .refl
  | cons first rest ih =>
    obtain ⟨a, e⟩ := first
    have later := ih (before ++ [(a, (f e o).1)]) (f e o).2
    simp only [List.append_assoc, List.singleton_append] at later
    exact (one before rest a e o).trans later

theorem eachEmitter_forall {f : Emitter → Output → Emitter × Output} {P Q : Emitter → Prop}
    (one : ∀ e o, P e → Q (f e o).1) {es : List (AcousticId × Emitter)} (all : ∀ e ∈ es, P e.2)
    (o : Output) : ∀ e ∈ (eachEmitter f es o).1, Q e.2 := by
  induction es generalizing o with
  | nil => simp [eachEmitter]
  | cons first rest ih =>
    intro e mem
    simp only [eachEmitter] at mem
    rcases List.mem_cons.mp mem with same | later
    · rw [same]
      exact one first.2 o (all first (by simp))
    · exact ih (fun e inside => all e (List.mem_cons_of_mem first inside)) (f first.2 o).2 e later

theorem tickAll_moves (r : Roster) (scale : Float32) (o : Output) :
    Moves calm ⟨r.emitters.entries, o⟩
      ⟨(r.tickAll scale o).1.emitters.entries, (r.tickAll scale o).2⟩ :=
  eachEmitter_moves (fun before after a e o => tick_moves before after a e scale o) []
    r.emitters.entries o

theorem clear_moves (r : Roster) (o : Output) :
    Moves calm ⟨r.emitters.entries, o⟩
      ⟨(r.clear o).1.emitters.entries, (r.clear o).2⟩ := by
  have stopped : Moves calm ⟨r.emitters.entries, o⟩
      ⟨(eachEmitter Emitter.stop r.emitters.entries o).1,
        (eachEmitter Emitter.stop r.emitters.entries o).2⟩ :=
    eachEmitter_moves stop_moves [] r.emitters.entries o
  have allDone := eachEmitter_forall (P := fun _ => True) (Q := fun e => e.isDone = true)
    (fun e o _ => stop_isDone e o) (fun e (_ : e ∈ r.emitters.entries) => trivial) o
  have emptied : ((eachEmitter Emitter.stop r.emitters.entries o).1.filter
      fun e => !e.2.isDone) = [] := by
    simp only [List.filter_eq_nil_iff]
    intro e mem
    simp [allDone e mem]
  refine .tail stopped ?_
  have reaped : Move calm _ _ := .reap (eachEmitter Emitter.stop r.emitters.entries o).1
    (eachEmitter Emitter.stop r.emitters.entries o).2
  rw [emptied] at reaped
  exact reaped

theorem adjust_moves (m : Mix) (before es : List (AcousticId × Emitter)) (o : Output)
    (alive : ∀ e ∈ es, e.2.isDone = false) :
    Moves calm ⟨before ++ es, o⟩ ⟨before ++ es.map fun e => (e.1, adjust m e.1 e.2), o⟩ := by
  induction es generalizing before with
  | nil => exact .refl
  | cons first rest ih =>
    obtain ⟨a, e⟩ := first
    have live : e.isDone = false := alive (a, e) (by simp)
    obtain ⟨acoustic, voice, volume, stays⟩ := adjust_keeps m a live
    have one : Move calm ⟨before ++ (a, e) :: rest, o⟩ ⟨before ++ (a, adjust m a e) :: rest, o⟩ :=
      .retune before rest a e _ o acoustic voice volume live stays
    have later := ih (before ++ [(a, adjust m a e)])
      fun e mem => alive e (List.mem_cons_of_mem _ mem)
    simp only [List.append_assoc, List.singleton_append] at later
    exact .head one later

theorem enter_moves (fadeTicks : Nat) (fresh : List (AcousticId × Float32))
    (state : IdentMap .acoustic Emitter × Output)
    (distinct : fresh.Pairwise fun a b => a.1 ≠ b.1)
    (absent : ∀ n ∈ fresh, ∀ e ∈ state.1.entries, e.1 ≠ n.1)
    (works : calm → ∀ n ∈ fresh, state.2.failing.contains n.1 = false) :
    Moves calm ⟨state.1.entries, state.2⟩
      ⟨(fresh.foldl (enter fadeTicks) state).1.entries,
        (fresh.foldl (enter fadeTicks) state).2⟩ := by
  induction fresh generalizing state with
  | nil => exact .refl
  | cons first rest ih =>
    obtain ⟨others, tail⟩ := List.pairwise_cons.mp distinct
    have here := absent first (by simp)
    have one : Move calm ⟨state.1.entries, state.2⟩
        ⟨(enter fadeTicks state first).1.entries, (enter fadeTicks state first).2⟩ :=
      .start _ _ first.1 first.2 fadeTicks state.2 here
        (IdentMap.insertEntry_perm (Emitter.start first.1 first.2 fadeTicks state.2).1 here)
        fun quiet => works quiet first (by simp)
    refine .head one (ih (enter fadeTicks state first) tail ?_ ?_)
    · intro n mem e inside
      rcases (IdentMap.mem_entries_insert state.1 first.1 e.1 _ e.2).mp inside with new | ⟨-, old⟩
      · rw [new.1]
        exact others n mem
      · exact absent n (List.mem_cons_of_mem first mem) e old
    · intro quiet n mem
      simpa [enter] using works quiet n (List.mem_cons_of_mem first mem)

theorem newcomers_distinct (live : IdentMap .acoustic Emitter) (m : Mix) :
    (newcomers live m).Pairwise fun a b => a.1 ≠ b.1 := by
  have ordered : (newcomers live m).Pairwise fun a b => a.1.index < b.1.index :=
    m.volumes.ascending.filter _
  refine ordered.imp ?_
  intro a b before same
  rw [same] at before
  exact Nat.lt_irrefl _ before

theorem newcomers_absent {live : IdentMap .acoustic Emitter} {m : Mix}
    {n : AcousticId × Float32} (mem : n ∈ newcomers live m) :
    ∀ e ∈ live.entries, e.1 ≠ n.1 := by
  intro e inside same
  have absent : live.contains n.1 = false := by
    have kept := (List.mem_filter.mp mem).2
    simp only [Bool.and_eq_true, Bool.not_eq_true'] at kept
    exact kept.1
  have present : live.contains n.1 = true :=
    (live.contains_iff n.1).mpr ⟨e.2, by rw [← same]; exact inside⟩
  rw [present] at absent
  cases absent

theorem live_alive (r : Roster) : ∀ e ∈ r.live.entries, e.2.isDone = false := by
  intro e mem
  have kept := (r.emitters.mem_entries_filter _ e.1 e.2).mp mem
  simpa using kept.2

theorem reconcile_moves (r : Roster) (m : Mix) (o : Output)
    (works : calm → ∀ n ∈ (r.reconcile m o).newcomers, o.failing.contains n.1 = false) :
    Moves calm ⟨r.emitters.entries, o⟩
      ⟨(r.reconcile m o).roster.emitters.entries, (r.reconcile m o).output⟩ := by
  rw [reconcile_eq] at works ⊢
  have reaped : Move calm ⟨r.emitters.entries, o⟩ ⟨r.live.entries, o⟩ := .reap _ o
  have adjusted : Moves calm ⟨r.live.entries, o⟩ ⟨(r.live.map (adjust m)).entries, o⟩ :=
    adjust_moves m [] r.live.entries o r.live_alive
  refine .head reaped (adjusted.trans ?_)
  refine enter_moves r.fadeTicks (newcomers r.live m) (r.live.map (adjust m), o)
    (newcomers_distinct r.live m) ?_ works
  intro n mem e inside
  obtain ⟨old, oldMem, rfl⟩ := List.mem_map.mp inside
  exact newcomers_absent mem old oldMem

end Roster

end AmbientSound
