import AmbientSound.Proofs.Playback.Moves
/-!
Rosters brought in line with a mix on any device. All that a roster asks of a device meanwhile is to
start sounds, so a device is what it does when it is told to start one; an output is a device among
others.
-/
namespace AmbientSound

section Devices

variable {σ : Type} {start : σ → AcousticId → VoiceId × σ}

/-- The device is told to start sounds, one after the other, and answers with their voices. It is
told nothing else. -/
inductive Starts (start : σ → AcousticId → VoiceId × σ) :
    σ → List (AcousticId × VoiceId) → σ → Prop where
  | nil (d : σ) : Starts start d [] d
  | cons (d : σ) (a : AcousticId) {rest : List (AcousticId × VoiceId)} {d' : σ}
      (later : Starts start (start d a).2 rest d') :
      Starts start d ((a, (start d a).1) :: rest) d'

theorem Starts.calls {o p : Output} {starts : List (AcousticId × VoiceId)}
    (h : Starts Output.start o starts p) (on : o.recording = true) :
    p.calls.toList = o.calls.toList ++ starts.map fun e => .start e.1 e.2 := by
  induction h with
  | nil o => simp
  | cons o a later ih =>
    rw [ih (by simpa using on), o.start_calls a on]
    simp

theorem Starts.next {o p : Output} {starts : List (AcousticId × VoiceId)}
    (h : Starts Output.start o starts p) : p.next = o.next + starts.length := by
  induction h with
  | nil o => rfl
  | cons o a later ih =>
    rw [ih, Output.start_next, List.length_cons]
    omega

namespace Roster

def enterOn (start : σ → AcousticId → VoiceId × σ) (fadeTicks : Nat)
    (state : IdentMap .acoustic Emitter × σ) (e : AcousticId × Float32) :
    IdentMap .acoustic Emitter × σ :=
  let (voice, d) := start state.2 e.1
  (state.1.insert e.1 ⟨e.1, voice, Single.clampUnit e.2, .active, fadeTicks, 0⟩, d)

def reconcileOn (start : σ → AcousticId → VoiceId × σ) (r : Roster) (m : Mix) (d : σ) :
    Roster × σ :=
  let (emitters, d) :=
    (newcomers r.live m).foldl (enterOn start r.fadeTicks) (r.live.map (adjust m), d)
  (⟨emitters, r.fadeTicks⟩, d)

theorem reconcile_eq_reconcileOn (r : Roster) (m : Mix) (o : Output) :
    ((r.reconcile m o).roster, (r.reconcile m o).output) = r.reconcileOn Output.start m o := by
  rw [reconcile_eq]
  rfl

theorem reconcile_roster (r : Roster) (m : Mix) (o : Output) :
    (r.reconcile m o).roster = (r.reconcileOn Output.start m o).1 :=
  congrArg Prod.fst (reconcile_eq_reconcileOn r m o)

theorem reconcile_output (r : Roster) (m : Mix) (o : Output) :
    (r.reconcile m o).output = (r.reconcileOn Output.start m o).2 :=
  congrArg Prod.snd (reconcile_eq_reconcileOn r m o)

variable {r : Roster} {m : Mix} {d : σ} {a : AcousticId} {e : Emitter} {v : Float32}
  {fadeTicks : Nat}

theorem get?_live (r : Roster) (a : AcousticId) :
    r.live.get? a = (r.get? a).filter fun e => !e.isDone :=
  r.emitters.get?_filter _ a

theorem live_get?_eq_some (found : r.get? a = some e) (alive : e.isDone = false) :
    r.live.get? a = some e := by
  rw [get?_live, found]
  simp [alive]

theorem live_get?_eq_none (gone : ∀ e, r.get? a = some e → e.isDone = true) :
    r.live.get? a = none := by
  rw [get?_live]
  cases found : r.get? a with
  | none => rfl
  | some e => simp [gone e found]

theorem get?_of_mem_live {entry : AcousticId × Emitter} (mem : entry ∈ r.live.entries) :
    r.get? entry.1 = some entry.2 :=
  (r.emitters.get?_eq_some_iff _ _).mpr ((r.emitters.mem_entries_filter _ _ _).mp mem).1

theorem mem_newcomers {live : IdentMap .acoustic Emitter} :
    (a, v) ∈ newcomers live m ↔ m.get? a = some v ∧ live.get? a = none ∧ ¬ v ≤ 0 := by
  simp [newcomers, List.mem_filter, Mix.get?, Mix.toList, IdentMap.get?_eq_some_iff,
    IdentMap.contains]

theorem foldl_enterOn_get?_other (fresh : List (AcousticId × Float32))
    (state : IdentMap .acoustic Emitter × σ) (other : ∀ n ∈ fresh, n.1 ≠ a) :
    (fresh.foldl (enterOn start fadeTicks) state).1.get? a = state.1.get? a := by
  induction fresh generalizing state with
  | nil => rfl
  | cons first rest ih =>
    rw [List.foldl_cons, ih _ fun n mem => other n (List.mem_cons_of_mem first mem)]
    simp only [enterOn, IdentMap.get?_insert, if_neg (other first (by simp))]

theorem foldl_enterOn_new (fresh : List (AcousticId × Float32))
    (state : IdentMap .acoustic Emitter × σ) (distinct : fresh.Pairwise fun a b => a.1 ≠ b.1) :
    ∃ starts, starts.map (·.1) = fresh.map (·.1) ∧
      Starts start state.2 starts (fresh.foldl (enterOn start fadeTicks) state).2 ∧
      ∀ a voice, (a, voice) ∈ starts → ∃ v, (a, v) ∈ fresh ∧
        (fresh.foldl (enterOn start fadeTicks) state).1.get? a =
          some ⟨a, voice, Single.clampUnit v, .active, fadeTicks, 0⟩ := by
  induction fresh generalizing state with
  | nil => exact ⟨[], rfl, .nil state.2, by simp⟩
  | cons first rest ih =>
    obtain ⟨others, tail⟩ := List.pairwise_cons.mp distinct
    obtain ⟨starts, keys, told, entered⟩ := ih (enterOn start fadeTicks state first) tail
    refine ⟨_, ?_, .cons state.2 first.1 told, ?_⟩
    · rw [List.map_cons, List.map_cons, keys]
    · intro a voice mem
      rcases List.mem_cons.mp mem with same | later
      · obtain ⟨rfl, rfl⟩ := Prod.mk.inj same
        refine ⟨first.2, List.mem_cons_self .., ?_⟩
        rw [List.foldl_cons, foldl_enterOn_get?_other rest _ fun n inside => (others n inside).symm]
        simp [enterOn, IdentMap.get?_insert]
      · obtain ⟨v, new, found⟩ := entered a voice later
        exact ⟨v, List.mem_cons_of_mem first new, found⟩

theorem reconcileOn_get?_old (old : ∀ v, (a, v) ∉ newcomers r.live m) :
    (r.reconcileOn start m d).1.get? a = (r.live.get? a).map (adjust m a) := by
  have entered : (r.reconcileOn start m d).1.get? a = (r.live.map (adjust m)).get? a := by
    apply foldl_enterOn_get?_other
    rintro ⟨b, v⟩ mem rfl
    exact old v mem
  rw [entered, IdentMap.get?_map]

theorem reconcileOn_get?_live (found : r.get? a = some e) (alive : e.isDone = false) :
    (r.reconcileOn start m d).1.get? a = some (adjust m a e) := by
  have lives := live_get?_eq_some found alive
  rw [reconcileOn_get?_old, lives, Option.map_some]
  intro v mem
  rw [(mem_newcomers.mp mem).2.1] at lives
  cases lives

theorem reconcileOn_get?_none (gone : ∀ e, r.get? a = some e → e.isDone = true)
    (unwanted : ∀ v, m.get? a = some v → v ≤ 0) : (r.reconcileOn start m d).1.get? a = none := by
  rw [reconcileOn_get?_old, live_get?_eq_none gone, Option.map_none]
  intro v mem
  obtain ⟨wanted, -, loud⟩ := mem_newcomers.mp mem
  exact loud (unwanted v wanted)

variable (start r m d)

/-- The newcomers of a mix are started, in their order, and nothing else is asked of the device. -/
theorem reconcileOn_starts :
    ∃ starts, starts.map (·.1) = (newcomers r.live m).map (·.1) ∧
      Starts start d starts (r.reconcileOn start m d).2 ∧
      ∀ a voice, (a, voice) ∈ starts → ∃ v, (a, v) ∈ newcomers r.live m ∧
        (r.reconcileOn start m d).1.get? a =
          some ⟨a, voice, Single.clampUnit v, .active, r.fadeTicks, 0⟩ :=
  foldl_enterOn_new (newcomers r.live m) (r.live.map (adjust m), d) (newcomers_distinct r.live m)

theorem reconcileOn_get?_new (new : (a, v) ∈ newcomers r.live m) :
    ∃ starts voice, Starts start d starts (r.reconcileOn start m d).2 ∧ (a, voice) ∈ starts ∧
      (r.reconcileOn start m d).1.get? a =
        some ⟨a, voice, Single.clampUnit v, .active, r.fadeTicks, 0⟩ := by
  obtain ⟨starts, keys, told, entered⟩ := reconcileOn_starts start r m d
  have key : a ∈ starts.map (·.1) := by
    rw [keys]
    exact List.mem_map_of_mem new
  obtain ⟨⟨a, voice⟩, mem, rfl⟩ := List.mem_map.mp key
  obtain ⟨x, new', found⟩ := entered a voice mem
  obtain rfl : x = v :=
    Option.some.inj ((mem_newcomers.mp new').1.symm.trans (mem_newcomers.mp new).1)
  exact ⟨starts, voice, told, mem, found⟩

end Roster

end Devices

end AmbientSound
