import Mathlib.Algebra.GroupWithZero.Nat
import AmbientSound.Census.Tally
import AmbientSound.Proofs.Lookup
/-!
The tally of a list of samples is exact: the total counts the loaded cells, the count of a region
its cells, and no region is kept without a cell.
-/
namespace AmbientSound

namespace IdentMap

variable {k : Kind}

def valueSum (m : IdentMap k Nat) : Nat := (m.entries.map (·.2)).sum

theorem lookup_eq_none_of_below {a : Ident k} {es : List (Ident k × Nat)}
    (below : ∀ e ∈ es, a.index < e.1.index) : lookup a es = none := by
  cases found : lookup a es with
  | none => rfl
  | some v => exact absurd (below (a, v) (lookup_some_mem found)) (Nat.lt_irrefl _)

theorem sum_insertEntry (a : Ident k) (v : Nat) {es : List (Ident k × Nat)}
    (ascending : es.Pairwise fun a b => a.1.index < b.1.index) :
    ((insertEntry a v es).map (·.2)).sum + (lookup a es).getD 0 = (es.map (·.2)).sum + v := by
  induction es with
  | nil => simp [insertEntry, lookup]
  | cons first rest ih =>
    obtain ⟨least, tail⟩ := List.pairwise_cons.mp ascending
    have later := ih tail
    simp only [insertEntry, lookup]
    split
    · rename_i before
      have other : first.1 ≠ a := by
        intro same
        rw [same] at before
        exact Nat.lt_irrefl _ before
      have missing : lookup a rest = none := by
        refine lookup_eq_none_of_below ?_
        intro e mem
        have := least e mem
        omega
      simp only [other, if_false, missing, Option.getD_none, List.map_cons, List.sum_cons]
      omega
    · split
      · rename_i after
        have other : first.1 ≠ a := by
          intro same
          rw [same] at after
          exact Nat.lt_irrefl _ after
        simp only [other, if_false, List.map_cons, List.sum_cons]
        omega
      · rename_i notBefore notAfter
        have same : first.1 = a := Ident.eq_of_index_eq (by omega)
        simp only [same, if_true, Option.getD_some, List.map_cons, List.sum_cons]
        omega

end IdentMap

namespace Cell

def isLoaded : Cell → Bool
  | .unloaded => false
  | _ => true

def isRegion : Cell → Bool
  | .region _ => true
  | _ => false

end Cell

namespace Tally

theorem valueSum_addTo (counts : IdentMap .region Nat) (r : RegionId) (n : Nat) :
    (addTo counts r n).valueSum = counts.valueSum + n := by
  have sums := IdentMap.sum_insertEntry r ((counts.get? r).getD 0 + n) counts.ascending
  simp only [IdentMap.valueSum, addTo, IdentMap.insert, IdentMap.get?] at sums ⊢
  omega

theorem count_addTo (counts : IdentMap .region Nat) (r q : RegionId) (n : Nat) :
    ((addTo counts r n).get? q).getD 0 = (counts.get? q).getD 0 + if r = q then n else 0 := by
  rw [addTo, IdentMap.get?_insert]
  split
  · rename_i same
    rw [same, Option.getD_some]
  · rfl

structure Extends (t : Tally) (cells : List Cell) (u : Tally) : Prop where
  total : u.total = t.total + cells.countP Cell.isLoaded
  count : ∀ r, u.count r = t.count r + cells.count (.region r)
  sum : u.counts.valueSum = t.counts.valueSum + cells.countP Cell.isRegion
  positive : (∀ e ∈ t.counts.entries, 0 < e.2) → ∀ e ∈ u.counts.entries, 0 < e.2

theorem see_extends (t : Tally) (c : Cell) : Extends t [c] (t.see c) := by
  cases c with
  | unloaded => exact ⟨rfl, fun r => rfl, rfl, fun all => all⟩
  | empty => exact ⟨rfl, fun r => rfl, rfl, fun all => all⟩
  | region q =>
    refine ⟨rfl, ?_, valueSum_addTo t.counts q 1, ?_⟩
    · intro r
      rw [List.count_singleton]
      simpa [count, see, beq_iff_eq] using count_addTo t.counts q r 1
    · intro all e mem
      rcases (t.counts.mem_entries_insert q e.1 _ e.2).mp mem with ⟨-, new⟩ | ⟨-, old⟩
      · omega
      · exact all e old

theorem Extends.trans {t u v : Tally} {cells more : List Cell} (first : Extends t cells u)
    (second : Extends u more v) : Extends t (cells ++ more) v where
  total := by rw [second.total, first.total, List.countP_append, Nat.add_assoc]
  count := by
    intro r
    rw [second.count, first.count, List.count_append, Nat.add_assoc]
  sum := by rw [second.sum, first.sum, List.countP_append, Nat.add_assoc]
  positive := fun all => second.positive (first.positive all)

theorem foldl_see_extends (t : Tally) (cells : List Cell) :
    Extends t cells (cells.foldl see t) := by
  induction cells generalizing t with
  | nil => exact ⟨rfl, fun r => rfl, rfl, fun all => all⟩
  | cons c rest ih => exact (see_extends t c).trans (ih (t.see c))

structure Exact (cells : List Cell) (t : Tally) : Prop where
  total : t.total = cells.countP Cell.isLoaded
  count : ∀ r, t.count r = cells.count (.region r)
  positive : ∀ e ∈ t.counts.entries, 0 < e.2
  sum_le : t.counts.valueSum ≤ t.total

theorem ofCells_exact (cells : List Cell) : Exact cells (ofCells cells) := by
  have all : Extends empty cells (ofCells cells) := foldl_see_extends empty cells
  have total : (ofCells cells).total = cells.countP Cell.isLoaded :=
    all.total.trans (Nat.zero_add _)
  have sum : (ofCells cells).counts.valueSum = cells.countP Cell.isRegion :=
    all.sum.trans (Nat.zero_add _)
  refine ⟨total, fun r => (all.count r).trans (Nat.zero_add _), all.positive ?_, ?_⟩
  · intro e mem
    exact absurd mem List.not_mem_nil
  · rw [sum, total]
    refine List.countP_mono_left ?_
    intro c _ region
    cases c <;> simp_all [Cell.isLoaded, Cell.isRegion]

/-- No region is kept without a cell, and no cell is counted twice. -/
structure Consistent (t : Tally) : Prop where
  positive : ∀ e ∈ t.counts.entries, 0 < e.2
  sum_le : t.counts.valueSum ≤ t.total

theorem Exact.consistent {cells : List Cell} {t : Tally} (h : Exact cells t) : t.Consistent :=
  ⟨h.positive, h.sum_le⟩

theorem ofCounts_consistent (counts : List (RegionId × Nat)) (total : Nat) :
    (ofCounts counts total).Consistent := by
  have kept (counts : List (RegionId × Nat)) (m : IdentMap .region Nat)
      (positive : ∀ e ∈ m.entries, 0 < e.2) :
      ∀ e ∈ (counts.foldl (fun m e => if e.2 = 0 then m else addTo m e.1 e.2) m).entries,
        0 < e.2 := by
    induction counts generalizing m with
    | nil => exact positive
    | cons first rest ih =>
      simp only [List.foldl_cons]
      refine ih _ ?_
      split
      · exact positive
      · intro e mem
        rcases (m.mem_entries_insert first.1 e.1 _ e.2).mp mem with ⟨-, new⟩ | ⟨-, old⟩
        · omega
        · exact positive e old
  constructor
  · exact kept counts .empty (by simp [IdentMap.empty])
  · rw [IdentMap.valueSum, List.sum_eq_foldl, List.foldl_map]
    exact Nat.le_max_right total _

theorem get?_eq_some_iff_count {t : Tally} (positive : ∀ e ∈ t.counts.entries, 0 < e.2)
    (r : RegionId) (n : Nat) : t.counts.get? r = some n ↔ 0 < n ∧ t.count r = n := by
  rw [count]
  constructor
  · intro found
    rw [found]
    exact ⟨positive (r, n) ((t.counts.get?_eq_some_iff r n).mp found), rfl⟩
  · rintro ⟨pos, counted⟩
    cases found : t.counts.get? r with
    | none =>
      rw [found, Option.getD_none] at counted
      omega
    | some k =>
      rw [found, Option.getD_some] at counted
      rw [counted]

theorem ofCells_append (cells more : List Cell) :
    ofCells (cells ++ more) = more.foldl see (ofCells cells) :=
  List.foldl_append

end Tally

end AmbientSound
