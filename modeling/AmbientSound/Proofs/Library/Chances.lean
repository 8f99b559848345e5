import AmbientSound.Proofs.Library.Drawing
/-!
The chances of a library that is built by hand. A step clamps the chance that it is given, and a
clamp leaves what is not a number as it is; all other chances end up in the unit interval. Weights
are never zero.
-/
namespace AmbientSound

namespace SoundSet

/-- The numbers of the set can be drawn by, and a spot sound needs a draw below the chance. -/
structure Fair (s : SoundSet) : Prop extends Usable s where
  below : ∀ g : Generator, g.Sane → ∀ e x, (s.pickFrom g e x).1 ≠ none → (g.unit x).1 < s.chance

variable {s : SoundSet}

theorem Usable.fair (h : s.Usable) : s.Fair := by
  refine ⟨h, ?_⟩
  intro g sane e x fired
  have missed : ¬ s.chance ≤ (g.unit x).1 := by
    intro missed
    exact fired ((pickFrom_pick sane h.weighty).none_iff.mpr (.inr (.inr (.inl missed))))
  obtain ⟨n, chance, -⟩ := (Single.share_iff _).mpr h.chance
  obtain ⟨low, high⟩ := sane.unit_range x
  obtain ⟨k, draw, -⟩ := (Single.share_iff _).mpr ⟨low, Single.le_of_lt high⟩
  rw [Single.le_iff chance draw, Nat.not_le] at missed
  exact (Single.lt_iff draw chance).mpr missed

/-- No draw misses a chance that is not a number. -/
theorem fires_of_nan (weighty : ∀ p ∈ s.spots, 1 ≤ p.weight) (nan : s.chance.isNaN = true)
    {g : Generator} (sane : g.Sane) {e : Environment} (applies : s.eligible e ≠ []) (x : g.State) :
    (s.pickFrom g e x).1 ≠ none := by
  intro missed
  rcases (pickFrom_pick sane weighty).none_iff.mp missed with none | never | late | nothing
  · rw [eligible, none] at applies
    exact applies rfl
  · exact Single.not_nan_le nan 0 never
  · exact Single.not_nan_le nan _ late
  · exact applies (eligible_eq_nil_iff.mpr nothing)

end SoundSet

inductive BuildStep where
  | region (name : String)
  | acoustic (name : String)
  | loop (o : Owner) (loop : Loop)
  | spot (o : Owner) (a : AcousticId) (weight : ℕ) (chance : Float32)

def BuildStep.chance? (o : Owner) : BuildStep → Option Float32
  | .spot other _ _ chance => if other = o then some chance else none
  | _ => none

def BuildStep.lastChance? (o : Owner) (cs : List BuildStep) : Option Float32 :=
  (cs.filterMap (chance? o)).getLast?

theorem BuildStep.lastChance?_snoc (o : Owner) (cs : List BuildStep) (c : BuildStep) :
    lastChance? o (cs ++ [c]) = (c.chance? o).or (lastChance? o cs) := by
  rw [lastChance?, List.filterMap_append, List.getLast?_append]
  cases given : c.chance? o <;> simp [given, lastChance?]

namespace Library

def build (l : Library) : BuildStep → Library
  | .region name => (l.enterRegion name).2
  | .acoustic name => (l.enterAcoustic name).2
  | .loop o loop => l.addLoop o loop
  | .spot o a weight chance => l.addSpot o a weight chance

inductive Touches (s : SoundSet) : Option Float32 → SoundSet → Prop where
  | not : Touches s none s
  | loop (q : Loop) : Touches s none (s.addLoop q)
  | spot (a : AcousticId) (weight : ℕ) (chance : Float32) :
    Touches s (some chance) (s.addSpot a weight chance)

theorem build_touches (l : Library) (c : BuildStep) (o : Owner) :
    Touches (l.setOf o) (c.chance? o) ((l.build c).setOf o) := by
  cases c with
  | region name =>
    rw [build, setOf_enterRegion]
    exact .not
  | acoustic name =>
    rw [build, setOf_enterAcoustic]
    exact .not
  | loop other q =>
    rw [build, addLoop_eq, setOf_put]
    by_cases own : other = o
    · rw [if_pos own, own]
      exact .loop q
    · rw [if_neg own]
      exact .not
  | spot other a weight chance =>
    rw [build, addSpot_eq, setOf_put, BuildStep.chance?]
    by_cases own : other = o
    · rw [if_pos own, if_pos own, own]
      exact .spot a weight chance
    · rw [if_neg own, if_neg own]
      exact .not

/-- What steps have made of a set, by the chance that they gave to it last. -/
structure Became (before : SoundSet) (given : Option Float32) (s : SoundSet) : Prop where
  weighty : ∀ p ∈ s.spots, 1 ≤ p.weight
  chance : s.chance = (given.map Single.clampUnit).getD before.chance
  applies : given ≠ none → ∃ p ∈ s.spots, p.condition = .always

theorem Became.step {before s t : SoundSet} {given now : Option Float32} (h : Became before given s)
    (touches : Touches s now t) : Became before (now.or given) t := by
  cases touches with
  | not => exact h
  | loop q => exact ⟨h.weighty, h.chance, h.applies⟩
  | spot a weight chance =>
    constructor
    · intro p mem
      rcases List.mem_append.mp mem with old | new
      · exact h.weighty p old
      · rw [List.mem_singleton.mp new]
        exact Nat.le_max_right weight 1
    · rfl
    · intro _
      exact ⟨⟨a, max weight 1, .always⟩, List.mem_append_right _ List.mem_cons_self, rfl⟩

theorem steps_became {l : Library} {o : Owner} (weighty : ∀ p ∈ (l.setOf o).spots, 1 ≤ p.weight)
    (cs : List BuildStep) :
    Became (l.setOf o) (BuildStep.lastChance? o cs) ((cs.foldl build l).setOf o) := by
  -- The chance that counts is the last one, so the steps are taken off at the end.
  induction cs using List.reverseRecOn with
  | nil => exact ⟨weighty, rfl, fun some => absurd rfl some⟩
  | append_singleton cs c ih =>
    rw [BuildStep.lastChance?_snoc, List.foldl_append]
    exact ih.step (build_touches _ c o)

def Starts (l : Library) : Prop := l = empty ∨ ∃ text, ofText text = .ok l

theorem Starts.usable {l : Library} (h : l.Starts) (o : Owner) : (l.setOf o).Usable := by
  rcases h with rfl | ⟨text, loaded⟩
  · cases o with
    | region r => exact SoundSet.usable_empty
    | observer => exact SoundSet.usable_empty
  · exact usable_of_ofText loaded o

theorem Became.usable_iff {before s : SoundSet} {given : Option Float32} (usable : before.Usable)
    (h : Became before given s) : s.Usable ↔ ∀ c, given = some c → c.isNaN = false := by
  have chance := h.chance
  cases given with
  | none =>
    refine iff_of_true ⟨?_, h.weighty⟩ fun c none => by cases none
    rw [chance]
    exact usable.chance
  | some c =>
    have share : Single.Share s.chance ↔ c.isNaN = false := by
      rw [chance]
      exact Single.clampUnit_share_iff c
    constructor
    · rintro ⟨inRange, -⟩ _ ⟨⟩
      exact share.mp ((Single.share_iff _).mpr inRange)
    · intro number
      exact ⟨(Single.share_iff _).mp (share.mpr (number c rfl)), h.weighty⟩

/-- Whatever is added to a library that was new or loaded, no weight becomes zero. A set stays fair
exactly as long as the chance that it was given last is a number; else each pick from it, in every
environment, gives a spot sound. -/
theorem fair_iff_number {l : Library} (starts : l.Starts) (cs : List BuildStep) (o : Owner) {s : SoundSet}
    (set : (cs.foldl build l).setOf o = s) :
    (∀ p ∈ s.spots, 1 ≤ p.weight) ∧
    (s.Fair ↔ ∀ c, BuildStep.lastChance? o cs = some c → c.isNaN = false) ∧
    ∀ c, BuildStep.lastChance? o cs = some c → c.isNaN = true →
      ∀ g : Generator, g.Sane → ∀ e x, (s.pickFrom g e x).1 ≠ none := by
  have became := steps_became (starts.usable o).weighty cs
  rw [set] at became
  have usable := became.usable_iff (starts.usable o)
  refine ⟨became.weighty, ?_, ?_⟩
  · rw [← usable]
    exact ⟨fun fair => fair.toUsable, fun usable => usable.fair⟩
  · intro c given nan g sane e x
    obtain ⟨p, mem, always⟩ := became.applies (by rw [given]; exact Option.some_ne_none c)
    have kept : s.chance = c := by
      rw [became.chance, given]
      exact Single.clamp_nan nan
    refine SoundSet.fires_of_nan became.weighty (kept ▸ nan) sane ?_ x
    refine List.ne_nil_of_mem (a := p) (List.mem_filter.mpr ⟨mem, ?_⟩)
    rw [always]
    rfl

theorem excessive_fair : Starts empty ∧
    (([BuildStep.spot .observer ⟨0⟩ 0 2].foldl build empty).setOf .observer).Fair := by
  have number : (2 : Float32).isNaN = false := by decide +kernel
  obtain ⟨-, fair, -⟩ := fair_iff_number (.inl rfl) [.spot .observer ⟨0⟩ 0 2] .observer rfl
  refine ⟨.inl rfl, fair.mpr ?_⟩
  rintro _ ⟨⟩
  exact number

def unclamped : Library := [BuildStep.spot .observer ⟨0⟩ 1 Single.nan].foldl build empty

theorem unclamped_not_fair : ¬ (unclamped.setOf .observer).Usable ∧ ¬ (unclamped.setOf .observer).Fair ∧
    ∀ e source, (unclamped.observerSpot e source).1 ≠ none ∧
      ¬ source.unit.1 < unclamped.observer.chance := by
  have nan : Single.nan.isNaN = true := by decide +kernel
  have chance : unclamped.observer.chance = Single.nan := by
    change Single.clampUnit Single.nan = Single.nan
    exact Single.clamp_nan nan
  have unusable : ¬ (unclamped.setOf .observer).Usable := by
    rintro ⟨⟨low, -⟩, -⟩
    have number := Single.isNaN_of_le low
    change unclamped.observer.chance.isNaN = false at number
    rw [chance, nan] at number
    cases number
  refine ⟨unusable, fun fair => unusable fair.toUsable, ?_⟩
  intro e source
  constructor
  · have weighty : ∀ p ∈ unclamped.observer.spots, 1 ≤ p.weight := by
      intro p mem
      obtain rfl := List.mem_singleton.mp mem
      exact Nat.le_refl 1
    have applies : unclamped.observer.eligible e ≠ [] := List.cons_ne_nil _ _
    exact SoundSet.fires_of_nan weighty (chance ▸ nan) Source.generator_sane applies source
  · intro less
    have number := Single.isNaN_of_le (Single.le_of_lt less)
    rw [chance, nan] at number
    cases number

end Library

end AmbientSound
