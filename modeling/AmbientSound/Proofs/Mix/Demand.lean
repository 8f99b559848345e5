import AmbientSound.Proofs.Census.Samples
import AmbientSound.Proofs.Mix.AreaVolume
/-!
What a mix holds after tallies have been written into it. Of all writes to an acoustic the last one
counts: that of the highest region of the latest tally in which some region produces it.
-/
namespace AmbientSound

namespace Mix

theorem get?_empty (a : AcousticId) : empty.get? a = none := rfl

theorem get?_put (m : Mix) (a b : AcousticId) (v : Float32) :
    (m.put a v).get? b = if a = b then some (stored v) else m.get? b :=
  m.volumes.get?_insert a b (stored v)

theorem get?_putAll (m : Mix) (v : Float32) (as : List AcousticId) (b : AcousticId) :
    (m.putAll v as).get? b = if b ∈ as then some (stored v) else m.get? b := by
  induction as generalizing m with
  | nil => simp [putAll]
  | cons a rest ih =>
    have later : (m.putAll v (a :: rest)).get? b = ((m.put a v).putAll v rest).get? b := rfl
    rw [later, ih, get?_put]
    by_cases again : b ∈ rest
    · simp [again]
    · by_cases here : a = b
      · simp [here]
      · simp [again, here, Ne.symm here]

theorem get?_putAlways (m : Mix) (as : List AcousticId) (b : AcousticId) :
    (m.putAlways as).get? b = if b ∈ as then some 1 else m.get? b := by
  rw [putAlways, get?_putAll, Single.one_audible.stored]

end Mix

theorem getLast?_eq_some_iff_highest {k : Kind} {α : Type} {es : List (Ident k × α)}
    (ascending : es.Pairwise fun a b => a.1.index < b.1.index) (e : Ident k × α) :
    es.getLast? = some e ↔ e ∈ es ∧ ∀ f ∈ es, f.1.index ≤ e.1.index := by
  rcases List.eq_nil_or_concat es with rfl | ⟨init, last, rfl⟩
  · simp
  · rw [List.concat_eq_append] at ascending ⊢
    have below : ∀ f ∈ init, f.1.index < last.1.index :=
      fun f mem => (List.pairwise_append.mp ascending).2.2 f mem last (by simp)
    rw [List.getLast?_append_of_ne_nil _ (by simp), List.getLast?_singleton, Option.some.injEq]
    constructor
    · rintro rfl
      refine ⟨by simp, ?_⟩
      intro f mem
      rcases List.mem_append.mp mem with early | late
      · exact (below f early).le
      · rw [List.mem_singleton.mp late]
    · rintro ⟨mem, highest⟩
      rcases List.mem_append.mp mem with early | late
      · have := below e early
        have := highest last (by simp)
        omega
      · exact (List.mem_singleton.mp late).symm

namespace Tally

def producer? (t : Tally) (sounds : Repertoire) (env : Environment) (a : AcousticId) :
    Option (RegionId × Nat) :=
  (t.counts.entries.filter fun e => decide (a ∈ sounds.candidates e.1 env)).getLast?

variable {t : Tally} {sounds : Repertoire} {env : Environment} {a : AcousticId}

theorem producer?_eq_some_iff (r : RegionId) (n : Nat) :
    t.producer? sounds env a = some (r, n) ↔
      (t.counts.get? r = some n ∧ a ∈ sounds.candidates r env) ∧
        ∀ q k, t.counts.get? q = some k → a ∈ sounds.candidates q env → q.index ≤ r.index := by
  rw [producer?, getLast?_eq_some_iff_highest (t.counts.ascending.filter _)]
  simp [List.mem_filter, IdentMap.get?_eq_some_iff]

theorem silent_of_producer?_eq_none (none : t.producer? sounds env a = none) (q : RegionId) (k : Nat)
    (counted : t.counts.get? q = some k) : a ∉ sounds.candidates q env := by
  intro produces
  have unheard := List.filter_eq_nil_iff.mp (List.getLast?_eq_none_iff.mp none) (q, k)
    ((t.counts.get?_eq_some_iff q k).mp counted)
  exact unheard (decide_eq_true produces)

theorem Consistent.vacant (h : t.Consistent) (none : t.total = 0) : t.counts.entries = [] := by
  have sum : t.counts.valueSum = 0 := Nat.le_zero.mp (none ▸ h.sum_le)
  rw [List.eq_nil_iff_forall_not_mem]
  intro e mem
  have zero := List.sum_eq_zero_iff_forall_eq_nat.mp sum e.2 (List.mem_map_of_mem mem)
  have := h.positive e mem
  omega

end Tally

namespace AreaLaw

/-- The volume that a tally asks for: that of the highest region that produces the acoustic. -/
def demand? (law : AreaLaw) (sounds : Repertoire) (env : Environment) (t : Tally)
    (a : AcousticId) : Option Float32 :=
  (t.producer? sounds env a).bind fun e => law.volume? e.2 t.total

section Writes

variable {law : AreaLaw} {sounds : Repertoire} {env : Environment} {total : Nat}

theorem addRegion_audible {v : Float32} {e : RegionId × Nat} (m : Mix)
    (valued : law.volume? e.2 total = some v) (audible : Single.Audible v) :
    law.addRegion sounds env total m e = some (m.putAll v (sounds.candidates e.1 env)) := by
  simp [addRegion, valued, audible.not_le_zero]

theorem foldlM_addRegion (es : List (RegionId × Nat)) (m : Mix)
    (heard : ∀ e ∈ es, ∃ v, law.volume? e.2 total = some v ∧ Single.Audible v) :
    ∃ m', es.foldlM (law.addRegion sounds env total) m = some m' ∧ ∀ a, m'.get? a =
      ((es.filter fun e => decide (a ∈ sounds.candidates e.1 env)).getLast?.bind
        fun e => law.volume? e.2 total).or (m.get? a) := by
  induction es generalizing m with
  | nil => exact ⟨m, rfl, fun a => rfl⟩
  | cons e rest ih =>
    obtain ⟨v, valued, audible⟩ := heard e (by simp)
    obtain ⟨m', run, holds⟩ := ih (m.putAll v (sounds.candidates e.1 env))
      fun f mem => heard f (List.mem_cons_of_mem e mem)
    refine ⟨m', ?_, ?_⟩
    · rw [List.foldlM_cons, addRegion_audible m valued audible]
      exact run
    · intro a
      rw [holds a, Mix.get?_putAll, audible.stored]
      by_cases produces : a ∈ sounds.candidates e.1 env
      · -- a later region of the list wins, and `e` only if there is none
        rw [List.filter_cons_of_pos (by simpa using produces), List.getLast?_cons, if_pos produces]
        cases last : (rest.filter fun e => decide (a ∈ sounds.candidates e.1 env)).getLast? with
        | none => simp [valued]
        | some f =>
          have mem := (List.mem_filter.mp (List.mem_of_getLast? last)).1
          obtain ⟨x, valued', -⟩ := heard f (List.mem_cons_of_mem e mem)
          simp [valued']
      · rw [List.filter_cons_of_neg (by simpa using produces), if_neg produces]

/-- A tally is written region by region, and an empty one not at all. -/
theorem accumulate_get? (sane : law.Sane) {t : Tally} (consistent : t.Consistent)
    (small : t.total ≤ 2 ^ 32) (m : Mix) :
    ∃ m', law.accumulate sounds env m t = some m' ∧
      ∀ a, m'.get? a = (law.demand? sounds env t a).or (m.get? a) := by
  by_cases none : t.total = 0
  · refine ⟨m, by rw [accumulate, if_pos none], ?_⟩
    intro a
    simp [demand?, Tally.producer?, consistent.vacant none]
  · rw [accumulate, if_neg none]
    refine foldlM_addRegion t.counts.entries m ?_
    intro e mem
    obtain ⟨v, valued, audible, -⟩ :=
      volume?_audible sane (consistent.positive e mem) (Nat.pos_of_ne_zero none) small
    exact ⟨v, valued, audible⟩

theorem demand?_audible (sane : law.Sane) {t : Tally} (consistent : t.Consistent)
    (small : t.total ≤ 2 ^ 32) {a : AcousticId} {v : Float32}
    (asked : law.demand? sounds env t a = some v) : Single.Audible v := by
  obtain ⟨⟨r, n⟩, produced, valued⟩ := Option.bind_eq_some_iff.mp asked
  have found := (Tally.producer?_eq_some_iff r n).mp produced
  have mem := (t.counts.get?_eq_some_iff r n).mp found.1.1
  have seen : 0 < t.total := by
    by_contra none
    rw [consistent.vacant (by omega)] at mem
    cases mem
  obtain ⟨x, valued', audible, -⟩ := volume?_audible sane (consistent.positive _ mem) seen small
  obtain rfl := Option.some.inj (valued'.symm.trans valued)
  exact audible

variable (sounds env)

theorem foldlM_accumulate (sane : law.Sane) (ts : List Tally)
    (consistent : ∀ t ∈ ts, t.Consistent ∧ t.total ≤ 2 ^ 32) (m : Mix) :
    ∃ m', ts.foldlM (law.accumulate sounds env) m = some m' ∧
      ∀ a, m'.get? a = (ts.reverse.findSome? fun t => law.demand? sounds env t a).or (m.get? a) := by
  induction ts generalizing m with
  | nil => exact ⟨m, rfl, fun a => rfl⟩
  | cons t rest ih =>
    obtain ⟨whole, small⟩ := consistent t (by simp)
    obtain ⟨m₁, first, holds⟩ := accumulate_get? sane whole small m
    obtain ⟨m₂, run, later⟩ := ih (fun u mem => consistent u (List.mem_cons_of_mem t mem)) m₁
    refine ⟨m₂, ?_, ?_⟩
    · rw [List.foldlM_cons, first]
      exact run
    · intro a
      rw [later a, holds a, List.reverse_cons, List.findSome?_append, Option.or_assoc]
      simp

/-- Of several tallies the last in which some region produces an acoustic has its way. -/
theorem aggregate_get? (sane : law.Sane) (ts : List Tally)
    (consistent : ∀ t ∈ ts, t.Consistent ∧ t.total ≤ 2 ^ 32) :
    ∃ m, law.aggregate sounds env ts = some m ∧
      ∀ a, m.get? a = ts.reverse.findSome? fun t => law.demand? sounds env t a := by
  obtain ⟨m, run, holds⟩ := foldlM_accumulate sounds env sane ts consistent .empty
  refine ⟨m, run, ?_⟩
  intro a
  rw [holds a, Mix.get?_empty, Option.or_none]

end Writes

end AreaLaw

end AmbientSound
