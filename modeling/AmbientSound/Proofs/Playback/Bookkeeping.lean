import AmbientSound.Proofs.Playback.Conformity
/-!
The books of one reconciliation. What it says it did accounts for every emitter that was there, and
for every one that is there afterwards.
-/
namespace AmbientSound

namespace IdentMap

variable {k : Kind} {α β : Type}

theorem countP_common (m : IdentMap k α) (n : IdentMap k β) (p : Ident k → Bool) :
    m.entries.countP (fun e => p e.1 && n.contains e.1) =
      n.entries.countP fun e => p e.1 && m.contains e.1 := by
  have inKeys {γ : Type} (m : IdentMap k γ) (q : Ident k → Bool) :
      m.entries.countP (fun e => q e.1) = (m.keys.filter q).length := by
    rw [← List.countP_eq_length_filter, keys, List.countP_map]
    rfl
  have mem_keys {γ : Type} (m : IdentMap k γ) (a : Ident k) : a ∈ m.keys ↔ m.contains a = true := by
    rw [contains_iff, keys, List.mem_map]
    constructor
    · rintro ⟨e, mem, rfl⟩
      exact ⟨e.2, mem⟩
    · rintro ⟨v, mem⟩
      exact ⟨(a, v), mem, rfl⟩
  rw [inKeys m fun a => p a && n.contains a, inKeys n fun a => p a && m.contains a]
  -- Neither map has a key twice, so it is enough that the same keys pass.
  apply List.Perm.length_eq
  rw [List.perm_ext_iff_of_nodup (m.keys_nodup.filter _) (n.keys_nodup.filter _)]
  intro a
  simp only [List.mem_filter, mem_keys, Bool.and_eq_true]
  tauto

end IdentMap

/-- Two tests of the same things: the first failed and both passed, or the second passed and both
failed. -/
theorem countP_balance {α : Type} (p q : α → Bool) (xs : List α) :
    xs.countP (fun x => !p x) + xs.countP (fun x => p x && q x) =
      xs.countP q + xs.countP fun x => !p x && !q x := by
  induction xs with
  | nil => rfl
  | cons x rest ih =>
    simp only [List.countP_cons]
    cases p x <;> cases q x <;> simp <;> omega

namespace Roster

def count (p : Emitter → Bool) (r : Roster) : Nat := r.emitters.entries.countP fun e => p e.2

def summary (r : Roster) (m : Mix) : Summary := (r.reconcile m (.silent false)).summary

theorem summary_eq (r : Roster) (m : Mix) (o : Output) :
    (r.reconcile m o).summary = r.summary m := by
  rw [summary, reconcile_eq, reconcile_eq]
  rfl

theorem summary_counts (r : Roster) (m : Mix) : r.summary m =
    { started := (newcomers r.live m).length
      continued := r.live.entries.countP fun e => m.wants e.1
      unfaded := r.live.entries.countP fun e => m.wants e.1 && e.2.isFading
      faded := r.live.entries.countP fun e => !m.wants e.1 && !e.2.isFading
      reaped := r.size - r.live.size } := by
  rw [summary, reconcile_eq]
  rfl

/-- The books of a reconciliation that made the roster `s` of `r`. -/
structure Balanced (m : Mix) (r s : Roster) (done : Summary) : Prop where
  reaped : done.reaped = r.count Emitter.isDone
  wanted : done.started + done.continued = m.wanted
  size : s.size + done.reaped = r.size + done.started
  fading : s.count Emitter.isFading + done.unfaded = r.count Emitter.isFading + done.faded
  unfaded_le : done.unfaded ≤ done.continued

section Counts

variable {σ : Type} {start : σ → AcousticId → VoiceId × σ} {r : Roster} {m : Mix} {d : σ}
  {fadeTicks : Nat}

theorem foldl_enterOn_perm (fresh : List (AcousticId × Float32))
    (state : IdentMap .acoustic Emitter × σ) (distinct : fresh.Pairwise fun a b => a.1 ≠ b.1)
    (absent : ∀ n ∈ fresh, ∀ e ∈ state.1.entries, e.1 ≠ n.1) :
    ∃ new, (fresh.foldl (enterOn start fadeTicks) state).1.entries.Perm (new ++ state.1.entries) ∧
      new.length = fresh.length ∧ ∀ e ∈ new, e.2.phase = .active := by
  induction fresh generalizing state with
  | nil => exact ⟨[], .refl _, rfl, by simp⟩
  | cons first rest ih =>
    obtain ⟨others, tail⟩ := List.pairwise_cons.mp distinct
    let entry : AcousticId × Emitter := (first.1, ⟨first.1, (start state.2 first.1).1,
      Single.clampUnit first.2, .active, fadeTicks, 0⟩)
    have entered : (enterOn start fadeTicks state first).1.entries.Perm
        (entry :: state.1.entries) := IdentMap.insertEntry_perm entry.2 (absent first (by simp))
    obtain ⟨new, perm, length, active⟩ := ih (enterOn start fadeTicks state first) tail (by
      intro n mem e inside
      rcases List.mem_cons.mp (entered.mem_iff.mp inside) with rfl | old
      · exact others n mem
      · exact absent n (List.mem_cons_of_mem first mem) e old)
    refine ⟨new ++ [entry], ?_, by simp [length], ?_⟩
    · rw [List.append_assoc]
      exact perm.trans (entered.append_left new)
    · intro e mem
      rcases List.mem_append.mp mem with late | early
      · exact active e late
      · rw [List.mem_singleton.mp early]

theorem reconcileOn_perm (start : σ → AcousticId → VoiceId × σ) (r : Roster) (m : Mix) (d : σ) :
    ∃ new, (r.reconcileOn start m d).1.emitters.entries.Perm
        (new ++ (r.live.map (adjust m)).entries) ∧
      new.length = (newcomers r.live m).length ∧ ∀ e ∈ new, e.2.phase = .active := by
  apply foldl_enterOn_perm
  · exact newcomers_distinct r.live m
  · intro n mem e inside
    obtain ⟨old, oldMem, rfl⟩ := List.mem_map.mp inside
    exact newcomers_absent mem old oldMem

theorem size_eq_live_add_done (r : Roster) : r.size = r.live.size + r.count Emitter.isDone := by
  have parts := List.length_eq_countP_add_countP (fun e : AcousticId × Emitter => !e.2.isDone)
    (l := r.emitters.entries)
  simp only [Bool.not_eq_true, Bool.not_eq_false', Bool.decide_eq_true] at parts
  unfold size count live IdentMap.size IdentMap.filter
  rw [← List.countP_eq_length_filter, parts]

theorem count_isFading (r : Roster) :
    r.count Emitter.isFading = r.live.entries.countP fun e => e.2.isFading := by
  unfold count live IdentMap.filter
  rw [List.countP_filter]
  apply List.countP_congr
  intro e mem
  cases phase : e.2.phase <;> simp [Emitter.isFading, Emitter.isDone, phase]

theorem adjust_isFading {a : AcousticId} {e : Emitter} (alive : e.isDone = false) :
    (adjust m a e).isFading = !m.wants a := by
  have faded : e.fade.isFading = true := by
    unfold Emitter.fade
    cases phase : e.phase <;> simp_all [Emitter.isFading, Emitter.isDone]
  have unfaded (v : Float32) : (e.setThrottle v).unfade.isFading = false := by
    unfold Emitter.unfade Emitter.setThrottle
    cases e.phase <;> simp [Emitter.isFading]
  unfold adjust Mix.wants
  cases m.get? a with
  | none => exact faded
  | some v =>
    by_cases loud : 0 < v
    · simp [loud, unfaded]
    · simp [loud, faded]

variable (start r d)

theorem reconcileOn_size : (r.reconcileOn start m d).1.size =
    (newcomers r.live m).length + r.live.size := by
  obtain ⟨new, perm, length, -⟩ := reconcileOn_perm start r m d
  unfold size IdentMap.size
  rw [perm.length_eq, List.length_append, length, IdentMap.map, List.length_map]

theorem reconcileOn_count_isFading : (r.reconcileOn start m d).1.count Emitter.isFading =
    r.live.entries.countP fun e => !m.wants e.1 := by
  obtain ⟨new, perm, -, active⟩ := reconcileOn_perm start r m d
  have none : new.countP (fun e => e.2.isFading) = 0 := by
    apply List.countP_eq_zero.mpr
    intro e mem
    simp [Emitter.isFading, active e mem]
  unfold count
  rw [perm.countP_eq, List.countP_append, none, Nat.zero_add, IdentMap.map, List.countP_map]
  apply List.countP_congr
  intro e mem
  simp [adjust_isFading (r.live_alive e mem)]

variable {start r d}

theorem started_add_continued (made : m.Made) :
    (r.summary m).started + (r.summary m).continued = m.wanted := by
  have wants {e : AcousticId × Float32} (mem : e ∈ m.toList) :
      m.wants e.1 = decide (0 < e.2) := by
    rw [Mix.wants, Mix.get?, (m.volumes.get?_eq_some_iff e.1 e.2).mpr mem]
  have started : (r.summary m).started =
      m.toList.countP fun e => decide (0 < e.2) && !r.live.contains e.1 := by
    rw [summary_counts, newcomers, ← List.countP_eq_length_filter]
    apply List.countP_congr
    intro e mem
    have found := (m.volumes.get?_eq_some_iff e.1 e.2).mpr mem
    simp [made.not_le_zero_iff found, and_comm]
  -- Those that go on are counted among the emitters, but they can be counted in the mix as well.
  have continued : (r.summary m).continued =
      m.toList.countP fun e => decide (0 < e.2) && r.live.contains e.1 := by
    have there {e : AcousticId × Emitter} (mem : m.wants e.1 = true) :
        m.volumes.contains e.1 = true := by
      obtain ⟨v, found, -⟩ := Mix.wants_iff.mp mem
      rw [IdentMap.contains, show m.volumes.get? e.1 = some v from found]
      rfl
    have common := r.live.countP_common m.volumes m.wants
    have left : (r.summary m).continued =
        r.live.entries.countP fun e => m.wants e.1 && m.volumes.contains e.1 := by
      rw [summary_counts]
      apply List.countP_congr
      intro e mem
      simpa using there
    rw [left, common]
    apply List.countP_congr
    intro e mem
    rw [wants mem]
  rw [started, continued, Mix.wanted, List.countP_eq_countP_filter_add m.toList
    (fun e => decide (0 < e.2)) fun e => r.live.contains e.1, List.countP_filter, List.countP_filter]
  rw [Nat.add_comm]

theorem reconcileOn_balanced (made : m.Made) (start : σ → AcousticId → VoiceId × σ) (r : Roster)
    (d : σ) : Balanced m r (r.reconcileOn start m d).1 (r.summary m) := by
  have sizes := r.size_eq_live_add_done
  have started := congrArg Summary.started (r.summary_counts m)
  have reaped : (r.summary m).reaped = r.count Emitter.isDone := by
    have gone := congrArg Summary.reaped (r.summary_counts m)
    simp only at gone
    omega
  constructor
  · exact reaped
  · exact started_add_continued made
  · rw [reaped, reconcileOn_size, sizes, started]
    simp only
    omega
  · rw [reconcileOn_count_isFading, count_isFading, summary_counts]
    exact countP_balance (fun e => m.wants e.1) (fun e => e.2.isFading) r.live.entries
  · rw [summary_counts]
    apply List.countP_mono_left
    intro e mem fading
    exact (Bool.and_eq_true_iff.mp fading).1

end Counts

end Roster

end AmbientSound
