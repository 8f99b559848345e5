import AmbientSound.Library.Basic
import AmbientSound.Proofs.Mix.AreaOrder
import AmbientSound.Proofs.Mix.Demand
/-!
What is left of a mix after several tallies have been written into it, one after the other. The last
tally in which some region produces an acoustic decides on it, and in that tally the highest such
region; nothing else is touched.
-/
namespace AmbientSound

section Writes

variable {sounds : Repertoire} {env : Environment} {a : AcousticId}

namespace Tally

structure Produces (sounds : Repertoire) (env : Environment) (t : Tally) (a : AcousticId)
    (r : RegionId) (n : Nat) : Prop where
  counted : t.counts.get? r = some n
  here : a ∈ sounds.candidates r env
  highest : ∀ q k, t.counts.get? q = some k → a ∈ sounds.candidates q env → q.index ≤ r.index

def Silent (sounds : Repertoire) (env : Environment) (t : Tally) (a : AcousticId) : Prop :=
  ∀ q k, t.counts.get? q = some k → a ∉ sounds.candidates q env

end Tally

namespace AreaLaw

/-- What several tallies make of the entry of an acoustic. -/
inductive Written (law : AreaLaw) (sounds : Repertoire) (env : Environment) (a : AcousticId)
    (old : Option Float32) : List Tally → Option Float32 → Prop where
  | kept (ts : List Tally) (nobody : ∀ t ∈ ts, t.Silent sounds env a) :
      Written law sounds env a old ts old
  | decided (before : List Tally) (t : Tally) (after : List Tally) (r : RegionId) (n : Nat)
      (v : Float32) (seen : t.total ≠ 0) (produces : t.Produces sounds env a r n)
      (volume : law.volume? n t.total = some v)
      (later : ∀ u ∈ after, u.total ≠ 0 → u.Silent sounds env a) :
      Written law sounds env a old (before ++ t :: after) (some v)

variable {law : AreaLaw}

theorem silent_of_demand?_eq_none (sane : law.Sane) {t : Tally} (small : t.total ≤ 2 ^ 32)
    (none : law.demand? sounds env t a = none) : t.Silent sounds env a := by
  apply Tally.silent_of_producer?_eq_none
  cases producer : t.producer? sounds env a with
  | none => rfl
  | some e =>
    obtain ⟨v, valued, -⟩ := volume?_share (n := e.2) sane small
    rw [demand?, producer, Option.bind_some, valued] at none
    cases none

theorem written_findSome? (sane : law.Sane) {ts : List Tally}
    (consistent : ∀ t ∈ ts, t.Consistent ∧ t.total ≤ 2 ^ 32) (old : Option Float32) :
    law.Written sounds env a old ts
      ((ts.reverse.findSome? fun t => law.demand? sounds env t a).or old) := by
  cases demands : ts.reverse.findSome? fun t => law.demand? sounds env t a with
  | none =>
    refine .kept ts ?_
    intro t mem
    exact silent_of_demand?_eq_none sane (consistent t mem).2
      (List.findSome?_eq_none_iff.mp demands t (List.mem_reverse.mpr mem))
  | some v =>
    obtain ⟨after, t, before, split, demand, later⟩ := List.findSome?_eq_some_iff.mp demands
    have order : ts = before.reverse ++ t :: after.reverse := by
      simpa using congrArg List.reverse split
    obtain ⟨⟨r, n⟩, producer, volume⟩ := Option.bind_eq_some_iff.mp demand
    obtain ⟨⟨counted, here⟩, highest⟩ := (Tally.producer?_eq_some_iff r n).mp producer
    have seen : t.total ≠ 0 := by
      intro none
      have mem := (t.counts.get?_eq_some_iff r n).mp counted
      rw [(consistent t (by simp [order])).1.vacant none] at mem
      cases mem
    rw [order, Option.some_or]
    refine .decided _ t _ r n v seen ⟨counted, here, highest⟩ volume ?_
    intro u mem _
    rw [List.mem_reverse] at mem
    exact silent_of_demand?_eq_none sane (consistent u (by simp [order, mem])).2 (later u mem)

end AreaLaw

theorem Mix.putAlways_congr (m : Mix) {as bs : List AcousticId} (same : ∀ a, a ∈ as ↔ a ∈ bs) :
    m.putAlways as = m.putAlways bs := by
  have volumes : (m.putAlways as).volumes = (m.putAlways bs).volumes := by
    apply IdentMap.ext_get?
    intro a
    have first := m.get?_putAlways as a
    have second := m.get?_putAlways bs a
    simp only [same] at first
    exact first.trans second.symm
  exact congrArg Mix.mk volumes

end Writes

namespace AreaLaw

/-- With a floor in the unit interval tallies are always written, and the last write counts. Sounds at
full volume come after them all, in any order. -/
theorem last_write_counts {floor : Float32} (low : 0 ≤ floor) (high : floor ≤ 1)
    (sounds : Repertoire) (env : Environment) (ts : List Tally)
    (consistent : ∀ t ∈ ts, t.Consistent ∧ t.total < 2 ^ 32) :
    (∀ m : Mix, ∃ m', ts.foldlM ((ofFloor floor).accumulate sounds env) m = some m' ∧
      (∀ a, (ofFloor floor).Written sounds env a (m.get? a) ts (m'.get? a)) ∧
      (∀ as a, (m'.putAlways as).get? a = if a ∈ as then some 1 else m'.get? a) ∧
      ∀ as bs, (∀ a, a ∈ as ↔ a ∈ bs) → m'.putAlways as = m'.putAlways bs) ∧
    ∃ m', (ofFloor floor).aggregate sounds env ts = some m' ∧
      ∀ a, (ofFloor floor).Written sounds env a none ts (m'.get? a) := by
  have sane : (ofFloor floor).Sane := ofFloor_sane ((Single.share_iff floor).mpr ⟨low, high⟩).number
  have small : ∀ t ∈ ts, t.Consistent ∧ t.total ≤ 2 ^ 32 :=
    fun t mem => ⟨(consistent t mem).1, (consistent t mem).2.le⟩
  have written (m : Mix) : ∃ m', ts.foldlM ((ofFloor floor).accumulate sounds env) m = some m' ∧
      ∀ a, (ofFloor floor).Written sounds env a (m.get? a) ts (m'.get? a) := by
    obtain ⟨m', run, holds⟩ := foldlM_accumulate sounds env sane ts small m
    refine ⟨m', run, ?_⟩
    intro a
    rw [holds a]
    exact written_findSome? sane small (m.get? a)
  constructor
  · intro m
    obtain ⟨m', run, holds⟩ := written m
    exact ⟨m', run, holds, m'.get?_putAlways, fun as bs same => m'.putAlways_congr same⟩
  · exact written .empty

def sharedSounds : Library :=
  let loops : List (Nat × Nat) := [(0, 0), (1, 0), (1, 1)]
  loops.foldl (fun l e => l.addRegionLoop ⟨e.1⟩ ⟨⟨e.2⟩, .always⟩) Library.empty

def sharedTallies : List Tally :=
  [.ofCounts [(⟨1⟩, 2), (⟨0⟩, 3)] 10, .ofCounts [(⟨0⟩, 1)] 4, .empty]

/-- The sound of both regions is decided on by the lower one, which is counted once more. -/
theorem shared_last_write_counts :
    (0 ≤ standardFloor ∧ standardFloor ≤ 1) ∧
    (∀ t ∈ sharedTallies, t.Consistent ∧ t.total < 2 ^ 32) ∧
    ∃ m', standard.aggregate sharedSounds.repertoire .calm sharedTallies = some m' ∧
      (∀ a, standard.Written sharedSounds.repertoire .calm a none sharedTallies (m'.get? a)) ∧
      m'.toList.map (fun e => (e.1, some e.2)) =
        [(⟨0⟩, standard.volume? 1 4), (⟨1⟩, standard.volume? 2 10)] := by
  have low : 0 ≤ standardFloor := by decide +kernel
  have high : standardFloor ≤ 1 := by decide +kernel
  have consistent : ∀ t ∈ sharedTallies, t.Consistent ∧ t.total < 2 ^ 32 := by
    have small : ∀ t ∈ sharedTallies, t.total < 2 ^ 32 := by decide +kernel
    intro t mem
    refine ⟨?_, small t mem⟩
    simp only [sharedTallies, List.mem_cons, List.not_mem_nil, or_false] at mem
    rcases mem with rfl | rfl | rfl
    · exact Tally.ofCounts_consistent _ _
    · exact Tally.ofCounts_consistent _ _
    · exact Tally.ofCounts_consistent [] 0
  have mixed : (standard.aggregate sharedSounds.repertoire .calm sharedTallies).map
      (fun m => m.toList.map fun e => (e.1, some e.2)) =
        some [(⟨0⟩, standard.volume? 1 4), (⟨1⟩, standard.volume? 2 10)] := by decide +kernel
  obtain ⟨m', run, written⟩ :=
    (last_write_counts low high sharedSounds.repertoire .calm sharedTallies consistent).2
  have run' : standard.aggregate sharedSounds.repertoire .calm sharedTallies = some m' := run
  rw [run', Option.map_some] at mixed
  exact ⟨⟨low, high⟩, consistent, m', run', written, Option.some.inj mixed⟩

end AreaLaw

end AmbientSound
