import AmbientSound.Proofs.Census.Words
import AmbientSound.Proofs.Mix.Ranking
/-!
Tallies put together from counts that are given region by region. What is given for a region more
than once is added up, so neither the tally nor the region that it names depends on the order of
what is given. As long as all of it together fits a word, every sum on the way does.
-/
namespace AmbientSound

theorem IdentMap.getD_le_valueSum {k : Kind} (m : IdentMap k Nat) (a : Ident k) :
    (m.get? a).getD 0 ≤ m.valueSum := by
  cases found : m.get? a with
  | none => exact Nat.zero_le _
  | some v =>
    have mem := (m.get?_eq_some_iff a v).mp found
    exact List.le_sum_of_mem (List.mem_map.mpr ⟨(a, v), mem, rfl⟩)

def sum? (bits : Nat) (ns : List Nat) : Option Nat := ns.foldlM (fun sum n => fit? bits (sum + n)) 0

theorem foldlM_fit?_eq {bits n : Nat} (small : n < 2 ^ bits) (ns : List Nat) :
    ns.foldlM (fun sum n => fit? bits (sum + n)) n = fit? bits (n + ns.sum) := by
  induction ns generalizing n with
  | nil => exact (fit?_eq small).symm
  | cons first rest ih =>
    rw [List.foldlM_cons, List.sum_cons, ← Nat.add_assoc]
    by_cases fits : n + first < 2 ^ bits
    · rw [fit?_eq fits]
      exact ih fits
    · rw [fit?_eq_none fits, fit?_eq_none (by omega)]
      rfl

theorem sum?_eq (bits : Nat) (ns : List Nat) : sum? bits ns = fit? bits ns.sum := by
  rw [sum?, foldlM_fit?_eq (Nat.two_pow_pos bits), Nat.zero_add]

namespace Tally

variable {counts others : List (RegionId × Nat)} {total : Nat} {t u : Tally}

def given (counts : List (RegionId × Nat)) (r : RegionId) : Nat :=
  ((counts.filter (·.1 = r)).map (·.2)).sum

theorem given_cons (e : RegionId × Nat) (counts : List (RegionId × Nat)) (r : RegionId) :
    given (e :: counts) r = (if e.1 = r then e.2 else 0) + given counts r := by
  by_cases same : e.1 = r <;> simp [given, same]

theorem given_perm (same : others.Perm counts) : given others = given counts := by
  funext r
  exact ((same.filter _).map _).sum_nat

theorem given_eq_zero_iff : (∀ r, given counts r = 0) ↔ ∀ e ∈ counts, e.2 = 0 := by
  simp only [given, List.sum_eq_zero_iff_forall_eq_nat, List.mem_map, List.mem_filter]
  constructor
  · intro all e mem
    exact all e.1 e.2 ⟨e, ⟨mem, by simp⟩, rfl⟩
  · rintro all r n ⟨e, ⟨mem, -⟩, rfl⟩
    exact all e mem

def enter (m : IdentMap .region Nat) (e : RegionId × Nat) : IdentMap .region Nat :=
  if e.2 = 0 then m else addTo m e.1 e.2

theorem count_enter (m : IdentMap .region Nat) (e : RegionId × Nat) (r : RegionId) :
    ((enter m e).get? r).getD 0 = (m.get? r).getD 0 + if e.1 = r then e.2 else 0 := by
  unfold enter
  split
  · rename_i zero
    simp [zero]
  · exact count_addTo m e.1 r e.2

theorem valueSum_enter (m : IdentMap .region Nat) (e : RegionId × Nat) :
    (enter m e).valueSum = m.valueSum + e.2 := by
  unfold enter
  split
  · rename_i zero
    rw [zero, Nat.add_zero]
  · exact valueSum_addTo m e.1 e.2

theorem count_foldl_enter (m : IdentMap .region Nat) (counts : List (RegionId × Nat))
    (r : RegionId) :
    ((counts.foldl enter m).get? r).getD 0 = (m.get? r).getD 0 + given counts r := by
  induction counts generalizing m with
  | nil => rfl
  | cons e rest ih => rw [List.foldl_cons, ih, count_enter, given_cons, Nat.add_assoc]

theorem valueSum_foldl_enter (m : IdentMap .region Nat) (counts : List (RegionId × Nat)) :
    (counts.foldl enter m).valueSum = m.valueSum + (counts.map (·.2)).sum := by
  induction counts generalizing m with
  | nil => rfl
  | cons e rest ih =>
    rw [List.foldl_cons, ih, valueSum_enter, List.map_cons, List.sum_cons, Nat.add_assoc]

theorem valueSum_merged (counts : List (RegionId × Nat)) :
    (counts.foldl enter .empty).valueSum = (counts.map (·.2)).sum :=
  (valueSum_foldl_enter .empty counts).trans (Nat.zero_add _)

theorem ofCounts_eq (counts : List (RegionId × Nat)) (total : Nat) :
    ofCounts counts total =
      ⟨counts.foldl enter .empty, max total (counts.foldl enter .empty).valueSum⟩ := by
  rw [IdentMap.valueSum, List.sum_eq_foldl, List.foldl_map]
  rfl

/-- A tally says of given counts exactly what they add up to. -/
structure SumsUp (t : Tally) (counts : List (RegionId × Nat)) (total : Nat) : Prop where
  count : ∀ r, t.count r = given counts r
  positive : ∀ e ∈ t.counts.entries, 0 < e.2
  total : t.total = max total (counts.map (·.2)).sum

theorem ofCounts_sumsUp (counts : List (RegionId × Nat)) (total : Nat) :
    (ofCounts counts total).SumsUp counts total where
  count r := (count_foldl_enter .empty counts r).trans (Nat.zero_add _)
  positive := (ofCounts_consistent counts total).positive
  total := by rw [ofCounts_eq, valueSum_merged]

theorem SumsUp.perm (h : t.SumsUp counts total) (same : others.Perm counts) :
    t.SumsUp others total where
  count r := by rw [h.count, given_perm same]
  positive := h.positive
  total := by rw [h.total, (same.map _).sum_nat]

theorem SumsUp.unique (h : t.SumsUp counts total) (h' : u.SumsUp counts total) : t = u := by
  have look : t.counts = u.counts := by
    apply IdentMap.ext_get?
    intro r
    ext n
    rw [get?_eq_some_iff_count h.positive, get?_eq_some_iff_count h'.positive, h.count, h'.count]
  have size : t.total = u.total := h.total.trans h'.total.symm
  cases t
  cases u
  simp_all

theorem ofCounts_perm (same : others.Perm counts) (total : Nat) :
    ofCounts others total = ofCounts counts total :=
  (ofCounts_sumsUp others total).unique ((ofCounts_sumsUp counts total).perm same)

structure Foremost (count : RegionId → Nat) (r : RegionId) : Prop where
  present : 0 < count r
  most : ∀ q, count q ≤ count r
  lowest : ∀ q, count q = count r → r.index ≤ q.index

section

variable (positive : ∀ e ∈ t.counts.entries, 0 < e.2)

include positive

theorem dominates_iff (r : RegionId) (n : Nat) :
    t.Dominates r n ↔ t.count r = n ∧ Foremost t.count r := by
  have counted := get?_eq_some_iff_count positive
  constructor
  · intro h
    obtain ⟨pos, rfl⟩ := (counted r n).mp h.counted
    refine ⟨rfl, pos, ?_, ?_⟩
    · intro q
      -- A region without an entry does not take part, and its count is zero.
      rcases Nat.eq_zero_or_pos (t.count q) with none | some
      · omega
      · exact h.largest q _ ((counted q _).mpr ⟨some, rfl⟩)
    · intro q same
      exact h.lowest q ((counted q _).mpr ⟨pos, same⟩)
  · rintro ⟨rfl, h⟩
    refine ⟨(counted r _).mpr ⟨h.present, rfl⟩, ?_, ?_⟩
    · intro q k found
      obtain ⟨-, rfl⟩ := (counted q k).mp found
      exact h.most q
    · intro q found
      exact h.lowest q ((counted q _).mp found).2

theorem dominant_eq_some_iff_foremost (r : RegionId) :
    t.dominant = some r ↔ Foremost t.count r := by
  simp only [dominant_eq_some_iff, dominates_iff positive, exists_eq_left']

theorem dominant_eq_none_iff : t.dominant = none ↔ ∀ r, t.count r = 0 := by
  rw [dominant, Option.map_eq_none_iff]
  constructor
  · intro leaderless r
    rw [count, IdentMap.get?, foldl_leader_eq_none leaderless]
    rfl
  · intro zero
    have nothing : t.counts.entries = [] := by
      apply List.eq_nil_iff_forall_not_mem.mpr
      rintro ⟨r, n⟩ mem
      obtain ⟨pos, counted⟩ :=
        (get?_eq_some_iff_count positive r n).mp ((t.counts.get?_eq_some_iff r n).mpr mem)
      have := zero r
      omega
    rw [nothing]
    rfl

end

def enter? (m : IdentMap .region Nat) (e : RegionId × Nat) : Option (IdentMap .region Nat) :=
  if e.2 = 0 then some m
  else do
    let n ← fit? 32 ((m.get? e.1).getD 0 + e.2)
    return m.insert e.1 n

def ofCounts? (counts : List (RegionId × Nat)) (total : Nat) : Option Tally := do
  let merged ← counts.foldlM enter? .empty
  let sum ← sum? 32 (merged.entries.map (·.2))
  return ⟨merged, max total sum⟩

variable {m n : IdentMap .region Nat} {e : RegionId × Nat}

theorem enter?_eq (small : m.valueSum + e.2 < 2 ^ 32) : enter? m e = some (enter m e) := by
  have before := m.getD_le_valueSum e.1
  have fits : (m.get? e.1).getD 0 + e.2 < 2 ^ 32 := by omega
  unfold enter? enter
  split
  · rfl
  · rw [fit?_eq fits]
    rfl

theorem eq_enter_of_enter? (entered : enter? m e = some n) : n = enter m e := by
  unfold enter? at entered
  unfold enter
  split at entered
  · rename_i zero
    rw [if_pos zero]
    exact (Option.some.inj entered).symm
  · rename_i nonzero
    rw [if_neg nonzero]
    by_cases fits : (m.get? e.1).getD 0 + e.2 < 2 ^ 32
    · rw [fit?_eq fits] at entered
      exact (Option.some.inj entered).symm
    · rw [fit?_eq_none fits] at entered
      cases entered

theorem foldlM_enter?_eq (m : IdentMap .region Nat) (counts : List (RegionId × Nat))
    (small : m.valueSum + (counts.map (·.2)).sum < 2 ^ 32) :
    counts.foldlM enter? m = some (counts.foldl enter m) := by
  induction counts generalizing m with
  | nil => rfl
  | cons e rest ih =>
    rw [List.map_cons, List.sum_cons, ← Nat.add_assoc] at small
    rw [List.foldlM_cons, enter?_eq (Nat.lt_of_le_of_lt (Nat.le_add_right _ _) small)]
    apply ih
    rwa [valueSum_enter]

theorem eq_foldl_of_foldlM_enter? (entered : counts.foldlM enter? m = some n) :
    n = counts.foldl enter m := by
  induction counts generalizing m with
  | nil => exact (Option.some.inj entered).symm
  | cons e rest ih =>
    obtain ⟨next, first, later⟩ := Option.bind_eq_some_iff.mp entered
    rw [ih later, eq_enter_of_enter? first, List.foldl_cons]

/-- Counts can be put together in words if and only if their sum fits one. -/
theorem ofCounts?_eq (counts : List (RegionId × Nat)) (total : Nat) :
    ofCounts? counts total =
      if (counts.map (·.2)).sum < 2 ^ 32 then some (ofCounts counts total) else none := by
  have summed : sum? 32 ((counts.foldl enter .empty).entries.map (·.2)) =
      fit? 32 (counts.map (·.2)).sum :=
    (sum?_eq 32 _).trans (congrArg (fit? 32) (valueSum_merged counts))
  unfold ofCounts?
  split
  · rename_i small
    have merged := foldlM_enter?_eq .empty counts ((Nat.zero_add _).trans_lt small)
    rw [merged, Option.bind_eq_bind, Option.bind_some, summed, fit?_eq small, ofCounts_eq,
      valueSum_merged]
    rfl
  · rename_i large
    -- A region's sum is too large on the way, or else the last sum is.
    cases merged : counts.foldlM enter? .empty with
    | none => rfl
    | some m =>
      rw [eq_foldl_of_foldlM_enter? merged, Option.bind_eq_bind, Option.bind_some, summed,
        fit?_eq_none large]
      rfl

/-- Given counts add up region by region, in whatever order they come, and the region that is named
has the most of all and is the lowest that does. -/
theorem adds_up_in_any_order (counts : List (RegionId × Nat)) (total : Nat)
    (small : (counts.map (·.2)).sum < 2 ^ 32) :
    let t := ofCounts counts total
    ofCounts? counts total = some t ∧ t.SumsUp counts total ∧
      t.counts.entries.Pairwise (fun a b => a.1.index < b.1.index) ∧
      (∀ others, others.Perm counts → ofCounts others total = t) ∧
      (t.dominant = none ↔ ∀ e ∈ counts, e.2 = 0) ∧
      ∀ r, t.dominant = some r ↔ Foremost (given counts) r := by
  intro t
  have sums : t.SumsUp counts total := ofCounts_sumsUp counts total
  have same : t.count = given counts := funext sums.count
  refine ⟨?_, sums, t.counts.ascending, ?_, ?_, ?_⟩
  · rw [ofCounts?_eq, if_pos small]
  · intro others perm
    exact ofCounts_perm perm total
  · rw [dominant_eq_none_iff sums.positive, same, given_eq_zero_iff]
  · intro r
    rw [dominant_eq_some_iff_foremost sums.positive, same]

def tiedCounts : List (RegionId × Nat) := [(⟨2⟩, 3), (⟨0⟩, 0), (⟨1⟩, 5), (⟨2⟩, 2)]

/-- The claimed total of eight is raised to ten, and the tie goes to the lower region. -/
theorem tied_adds_up_in_any_order :
    (tiedCounts.map (·.2)).sum < 2 ^ 32 ∧
    ofCounts? tiedCounts 8 = some (ofCounts tiedCounts 8) ∧
      (ofCounts tiedCounts 8).SumsUp tiedCounts 8 ∧
      (ofCounts tiedCounts 8).counts.entries = [(⟨1⟩, 5), (⟨2⟩, 5)] ∧
      (ofCounts tiedCounts 8).total = 10 ∧
      (∀ others, others.Perm tiedCounts → ofCounts others 8 = ofCounts tiedCounts 8) ∧
      Foremost (given tiedCounts) ⟨1⟩ := by
  have small : (tiedCounts.map (·.2)).sum < 2 ^ 32 := by decide
  obtain ⟨checked, sums, -, same, -, foremost⟩ := adds_up_in_any_order tiedCounts 8 small
  have named : (ofCounts tiedCounts 8).dominant = some ⟨1⟩ := by decide
  exact ⟨small, checked, sums, by decide, by decide, same, (foremost ⟨1⟩).mp named⟩

end Tally

end AmbientSound
