import AmbientSound.Library.Basic
import AmbientSound.Proofs.Mix.Demand
/-!
Who decides how loud an acoustic is. Of several tallies the first in which some region plays it does,
and in that tally the highest such region. Which region fills most of a tally is another matter.
-/
namespace AmbientSound

namespace SoundSet

def Plays (s : SoundSet) (e : Environment) (a : AcousticId) : Prop :=
  ∃ loop ∈ s.loops, loop.condition.holds e = true ∧ loop.acoustic = a

theorem mem_matching {s : SoundSet} {e : Environment} {a : AcousticId} :
    a ∈ s.matching e ↔ s.Plays e a := by
  simp [matching, Plays, List.mem_eraseDups, and_assoc]

end SoundSet

namespace Library

/-- The region of a tally that decides on an acoustic: the highest that plays it, with its count. -/
structure Leads (l : Library) (e : Environment) (t : Tally) (a : AcousticId) (r : RegionId)
    (n : Nat) : Prop where
  counted : t.counts.get? r = some n
  plays : (l.soundsOf r).Plays e a
  highest : ∀ q k, t.counts.get? q = some k → (l.soundsOf q).Plays e a → q.index ≤ r.index

/-- The volume of an acoustic by tallies of falling rank. -/
inductive Ranked (l : Library) (law : AreaLaw) (e : Environment) (a : AcousticId) :
    List Tally → Option Float32 → Prop where
  | nobody : Ranked l law e a [] none
  | leads (t : Tally) (lower : List Tally) (r : RegionId) (n : Nat) (v : Float32)
      (leads : l.Leads e t a r n) (volume : law.volume? n t.total = some v) :
      Ranked l law e a (t :: lower) (some v)
  | passes (t : Tally) (lower : List Tally) (v : Option Float32)
      (silent : ∀ q k, t.counts.get? q = some k → ¬ (l.soundsOf q).Plays e a)
      (later : Ranked l law e a lower v) : Ranked l law e a (t :: lower) v

variable {l : Library} {law : AreaLaw} {e : Environment} {a : AcousticId} {t : Tally}

theorem producer?_eq_some_iff_leads (r : RegionId) (n : Nat) :
    t.producer? l.repertoire e a = some (r, n) ↔ l.Leads e t a r n := by
  have plays (q : RegionId) : a ∈ l.repertoire.candidates q e ↔ (l.soundsOf q).Plays e a :=
    SoundSet.mem_matching
  rw [Tally.producer?_eq_some_iff]
  simp only [plays]
  constructor
  · rintro ⟨⟨counted, here⟩, highest⟩
    exact ⟨counted, here, highest⟩
  · rintro ⟨counted, here, highest⟩
    exact ⟨⟨counted, here⟩, highest⟩

theorem ranked_findSome? (sane : law.Sane) (ts : List Tally)
    (consistent : ∀ t ∈ ts, t.Consistent ∧ t.total ≤ 2 ^ 32) :
    l.Ranked law e a ts (ts.findSome? fun t => law.demand? l.repertoire e t a) := by
  induction ts with
  | nil => exact .nobody
  | cons t lower ih =>
    have later := ih fun u mem => consistent u (List.mem_cons_of_mem t mem)
    obtain ⟨whole, small⟩ := consistent t (by simp)
    rw [List.findSome?_cons]
    cases producer : t.producer? l.repertoire e a with
    | none =>
      have demand : law.demand? l.repertoire e t a = none := by
        rw [AreaLaw.demand?, producer, Option.bind_none]
      rw [demand]
      refine .passes t lower _ ?_ later
      intro q k counted plays
      exact Tally.silent_of_producer?_eq_none producer q k counted (SoundSet.mem_matching.mpr plays)
    | some p =>
      obtain ⟨r, n⟩ := p
      have leads := (producer?_eq_some_iff_leads r n).mp producer
      have mem := (t.counts.get?_eq_some_iff r n).mp leads.counted
      have seen : 0 < t.total := by
        by_contra none
        rw [whole.vacant (by omega)] at mem
        cases mem
      obtain ⟨v, valued, -⟩ := AreaLaw.volume?_audible sane (whole.positive _ mem) seen small
      have demand : law.demand? l.repertoire e t a = some v := by
        rw [AreaLaw.demand?, producer, Option.bind_some, valued]
      rw [demand]
      exact .leads t lower r n v leads valued

end Library

namespace Tally

structure Dominates (t : Tally) (r : RegionId) (n : Nat) : Prop where
  counted : t.counts.get? r = some n
  largest : ∀ q k, t.counts.get? q = some k → k ≤ n
  lowest : ∀ q, t.counts.get? q = some n → r.index ≤ q.index

theorem foldl_leader_eq_none {es : List (RegionId × Nat)} (none : es.foldl leader none = none) :
    es = [] := by
  rcases List.eq_nil_or_concat es with rfl | ⟨init, last, rfl⟩
  · rfl
  · rw [List.concat_eq_append, List.foldl_append, List.foldl_cons, List.foldl_nil] at none
    unfold leader at none
    split at none
    · split at none <;> cases none
    · cases none

theorem foldl_leader_eq_some {es : List (RegionId × Nat)}
    (ascending : es.Pairwise fun a b => a.1.index < b.1.index) {e : RegionId × Nat}
    (leads : es.foldl leader none = some e) :
    e ∈ es ∧ ∀ f ∈ es, f.2 < e.2 ∨ f.2 = e.2 ∧ e.1.index ≤ f.1.index := by
  induction es using List.reverseRecOn generalizing e with
  | nil => cases leads
  | append_singleton init last ih =>
    obtain ⟨front, -, below⟩ := List.pairwise_append.mp ascending
    rw [List.foldl_append, List.foldl_cons, List.foldl_nil] at leads
    simp only [List.mem_append, List.mem_singleton]
    cases best : init.foldl leader none with
    | none =>
      rw [best] at leads
      obtain rfl := Option.some.inj leads
      rw [foldl_leader_eq_none best]
      simp
    | some b =>
      obtain ⟨inside, most⟩ := ih front best
      have before : b.1.index < last.1.index := below b inside last (by simp)
      rw [best, leader] at leads
      split at leads
      · rename_i fewer
        obtain rfl := Option.some.inj leads
        refine ⟨.inl inside, ?_⟩
        rintro f (mem | rfl)
        · exact most f mem
        · omega
      · rename_i more
        obtain rfl := Option.some.inj leads
        refine ⟨.inr rfl, ?_⟩
        rintro f (mem | rfl)
        · have := most f mem
          omega
        · omega

theorem dominant_eq_some_iff (t : Tally) (r : RegionId) :
    t.dominant = some r ↔ ∃ n, t.Dominates r n := by
  have leading {q : RegionId} {n : Nat} (leads : t.counts.entries.foldl leader none = some (q, n)) :
      t.Dominates q n := by
    obtain ⟨mem, most⟩ := foldl_leader_eq_some t.counts.ascending leads
    refine ⟨(t.counts.get?_eq_some_iff q n).mpr mem, ?_, ?_⟩
    · intro p k counted
      rcases most (p, k) ((t.counts.get?_eq_some_iff p k).mp counted) with less | ⟨same, -⟩
      · exact less.le
      · exact same.le
    · intro p counted
      rcases most (p, n) ((t.counts.get?_eq_some_iff p n).mp counted) with less | ⟨-, before⟩
      · exact absurd less (Nat.lt_irrefl n)
      · exact before
  rw [dominant, Option.map_eq_some_iff]
  constructor
  · rintro ⟨⟨q, n⟩, leads, rfl⟩
    exact ⟨n, leading leads⟩
  · rintro ⟨n, counted, largest, lowest⟩
    cases leads : t.counts.entries.foldl leader none with
    | none =>
      have mem := (t.counts.get?_eq_some_iff r n).mp counted
      rw [foldl_leader_eq_none leads] at mem
      cases mem
    | some e =>
      -- The leader and the region are each as large and as low as the other.
      have first := leading leads
      have size : e.2 = n := Nat.le_antisymm (largest e.1 e.2 first.counted) (first.largest r n counted)
      refine ⟨e, rfl, Ident.eq_of_index_eq (Nat.le_antisymm ?_ ?_)⟩
      · apply first.lowest r
        rw [size]
        exact counted
      · apply lowest
        rw [← size]
        exact first.counted

end Tally

theorem Library.tallySpot_eq_some_iff (l : Library) (t : Tally) (e : Environment) (source : Source)
    (a : AcousticId) : (l.repertoire.tallySpot t e source).1 = some a ↔
      ∃ r n, t.Dominates r n ∧ ((l.soundsOf r).pickSpot e source).1 = some a := by
  unfold Repertoire.tallySpot
  constructor
  · intro drawn
    cases dominant : t.dominant with
    | none =>
      rw [dominant] at drawn
      cases drawn
    | some r =>
      rw [dominant] at drawn
      obtain ⟨n, dominates⟩ := (t.dominant_eq_some_iff r).mp dominant
      exact ⟨r, n, dominates, drawn⟩
  · rintro ⟨r, n, dominates, drawn⟩
    rw [(t.dominant_eq_some_iff r).mpr ⟨n, dominates⟩]
    exact drawn

end AmbientSound
