import AmbientSound.Proofs.Census.Words
import AmbientSound.Proofs.Library.Weights
import AmbientSound.Proofs.Random.Draws
import Mathlib.Order.Interval.Finset.Nat
/-!
Spot sounds by weight. The shares of the spot sounds that apply lie side by side and fill the whole
weight, so that each number below it falls to one of them, and to each as many as it weighs.
-/
namespace AmbientSound

structure Generator where
  State : Type
  word : State → UInt32 × State
  unit : State → Float32 × State
  below : ℕ → State → ℕ × State

/-- Draws stay in their ranges, and a single takes one word. -/
structure Generator.Sane (g : Generator) : Prop where
  unit_range : ∀ x, 0 ≤ (g.unit x).1 ∧ (g.unit x).1 < 1
  unit_word : ∀ x, (g.unit x).2 = (g.word x).2
  below_lt : ∀ n x, 0 < n → (g.below n x).1 < n

namespace Source

def generator : Generator := ⟨Source, word, unit, below⟩

theorem generator_sane : generator.Sane where
  unit_range := unit_range
  unit_word _ := rfl
  below_lt _ s pos := s.below_lt pos

end Source

namespace SoundSet

section Shares

variable {p : Spot} {ps spots : List Spot} {n i j : ℕ}

theorem foldl_weight (spots : List Spot) (start : ℕ) :
    spots.foldl (fun sum p => sum + p.weight) start = start + totalWeight spots := by
  induction spots generalizing start with
  | nil => rfl
  | cons p ps ih =>
    have split : totalWeight (p :: ps) = 0 + p.weight + totalWeight ps := ih _
    rw [List.foldl_cons, ih, split]
    omega

theorem totalWeight_cons (p : Spot) (ps : List Spot) :
    totalWeight (p :: ps) = p.weight + totalWeight ps := by
  rw [totalWeight, List.foldl_cons, foldl_weight, Nat.zero_add]

/-- A number lies in the share of the spot sound at a place: not before the weights ahead of it, and
before those ahead of the next. -/
def FallsTo (spots : List Spot) (n i : ℕ) : Prop :=
  i < spots.length ∧ totalWeight (spots.take i) ≤ n ∧ n < totalWeight (spots.take (i + 1))

instance (spots : List Spot) (n i : ℕ) : Decidable (FallsTo spots n i) :=
  inferInstanceAs (Decidable (_ ∧ _ ∧ _))

theorem fallsTo_first : FallsTo (p :: ps) n 0 ↔ n < p.weight := by
  simp [FallsTo, totalWeight]

theorem fallsTo_later :
    FallsTo (p :: ps) n (i + 1) ↔ p.weight ≤ n ∧ FallsTo ps (n - p.weight) i := by
  simp only [FallsTo, List.take_succ_cons, totalWeight_cons, List.length_cons]
  omega

theorem atWeight?_eq (below : n < totalWeight spots) : ∃ i, (∀ j, FallsTo spots n j ↔ j = i) ∧
    ∃ p, spots[i]? = some p ∧ atWeight? spots n = some p.acoustic := by
  induction spots generalizing n with
  | nil => exact absurd below (Nat.not_lt_zero n)
  | cons p ps ih =>
    rw [totalWeight_cons] at below
    -- What is beyond the first share is looked up in the rest, less the first weight.
    by_cases own : n < p.weight
    · refine ⟨0, ?_, p, rfl, if_pos own⟩
      intro j
      cases j with
      | zero => simp only [fallsTo_first, own]
      | succ j =>
        have behind : ¬ p.weight ≤ n := by omega
        simp [fallsTo_later, behind]
    · obtain ⟨i, only, q, place, walk⟩ := ih (n := n - p.weight) (by omega)
      refine ⟨i + 1, ?_, q, place, ?_⟩
      · intro j
        cases j with
        | zero => simp [fallsTo_first, own]
        | succ j =>
          have reached : p.weight ≤ n := by omega
          simp [fallsTo_later, reached, only]
      · rw [atWeight?, if_neg own]
        exact walk

theorem totalWeight_append (ps qs : List Spot) :
    totalWeight (ps ++ qs) = totalWeight ps + totalWeight qs := by
  rw [totalWeight, List.foldl_append, foldl_weight]
  rfl

/-- As many numbers fall to a spot sound as it weighs. -/
theorem card_fallsTo (place : spots[i]? = some p) :
    ((Finset.range (totalWeight spots)).filter fun n => FallsTo spots n i).card = p.weight := by
  obtain ⟨inside, same⟩ := List.getElem?_eq_some_iff.mp place
  have next : totalWeight (spots.take (i + 1)) = totalWeight (spots.take i) + p.weight := by
    rw [List.take_add_one, place, totalWeight_append]
    exact congrArg _ (Nat.zero_add _)
  have whole : totalWeight (spots.take (i + 1)) ≤ totalWeight spots := by
    have parts := totalWeight_append (spots.take (i + 1)) (spots.drop (i + 1))
    rw [List.take_append_drop] at parts
    omega
  have share : ((Finset.range (totalWeight spots)).filter fun n => FallsTo spots n i) =
      Finset.Ico (totalWeight (spots.take i)) (totalWeight (spots.take (i + 1))) := by
    ext n
    rw [Finset.mem_filter, Finset.mem_range, Finset.mem_Ico]
    constructor
    · rintro ⟨-, -, low, high⟩
      exact ⟨low, high⟩
    · rintro ⟨low, high⟩
      exact ⟨Nat.lt_of_lt_of_le high whole, inside, low, high⟩
  rw [share, Nat.card_Ico]
  omega

theorem totalWeight_eq_zero_iff (weighty : ∀ p ∈ spots, 1 ≤ p.weight) :
    totalWeight spots = 0 ↔ spots = [] := by
  cases spots with
  | nil => exact iff_of_true rfl rfl
  | cons p ps =>
    have some := weighty p List.mem_cons_self
    rw [totalWeight_cons]
    exact iff_of_false (by omega) (List.cons_ne_nil p ps)

end Shares

section Checked

variable {spots : List Spot} {n : ℕ}

def totalWeight? (spots : List Spot) : Option ℕ :=
  spots.foldlM (fun sum p => fit? 64 (sum + p.weight)) 0

def sub? (n k : ℕ) : Option ℕ := if k ≤ n then some (n - k) else none

def walk? : List Spot → ℕ → Option AcousticId
  | [], _ => none
  | p :: ps, n =>
    if n < p.weight then some p.acoustic
    else do
      let rest ← sub? n p.weight
      walk? ps rest

/-- The whole weight by the sums of a machine. -/
def sumWeights? (v : Overflow) (spots : List Spot) : Option ℕ :=
  spots.foldlM (fun sum p => v.word? (sum + p.weight)) 0

theorem sumWeights?_eq {v : Overflow} (fits : totalWeight spots < 2 ^ 64) :
    sumWeights? v spots = some (totalWeight spots) := by
  have each (spots : List Spot) (start : ℕ) (fits : start + totalWeight spots < 2 ^ 64) :
      spots.foldlM (fun sum p => v.word? (sum + p.weight)) start =
        some (start + totalWeight spots) := by
    induction spots generalizing start with
    | nil => rfl
    | cons p ps ih =>
      rw [totalWeight_cons, ← Nat.add_assoc] at fits ⊢
      rw [List.foldlM_cons, Overflow.word?_eq (Nat.lt_of_le_of_lt (Nat.le_add_right _ _) fits)]
      exact ih _ fits
  have sum := each spots 0
  rw [Nat.zero_add] at sum
  exact sum fits

theorem totalWeight?_eq (fits : totalWeight spots < 2 ^ 64) :
    totalWeight? spots = some (totalWeight spots) := sumWeights?_eq (v := .stops) fits

theorem totalWeight_lt (worded : ∀ p ∈ spots, p.weight < 2 ^ 32) (few : spots.length < 2 ^ 32) :
    totalWeight spots < 2 ^ 64 := by
  have most : totalWeight spots ≤ spots.length * (2 ^ 32 - 1) := by
    clear few
    induction spots with
    | nil => exact Nat.zero_le _
    | cons p ps ih =>
      have first := worded p List.mem_cons_self
      have later := ih fun q mem => worded q (List.mem_cons_of_mem p mem)
      rw [totalWeight_cons, List.length_cons]
      omega
  omega

theorem walk?_eq (below : n < totalWeight spots) : walk? spots n = atWeight? spots n := by
  induction spots generalizing n with
  | nil => exact absurd below (Nat.not_lt_zero n)
  | cons p ps ih =>
    rw [totalWeight_cons] at below
    rw [walk?, atWeight?]
    by_cases own : n < p.weight
    · rw [if_pos own, if_pos own]
    · rw [if_neg own, if_neg own, sub?, if_pos (by omega)]
      exact ih (by omega)

end Checked

def pickFrom (g : Generator) (s : SoundSet) (e : Environment) (x : g.State) :
    Option AcousticId × g.State :=
  if s.spots.isEmpty ∨ s.chance ≤ 0 then (none, x)
  else
    let (u, x) := g.unit x
    if s.chance ≤ u then (none, x)
    else
      let spots := s.eligible e
      if totalWeight spots = 0 then (none, x)
      else
        let (n, x) := g.below (totalWeight spots) x
        (atWeight? spots n, x)

/-- `pickFrom`, with every step checked on which it relies: the whole weight fits a word, a number
is drawn from some, and the walk ends at a spot sound without going below zero. -/
def pickChecked? (g : Generator) (s : SoundSet) (e : Environment) (x : g.State) :
    Option (Option AcousticId × g.State) :=
  if s.spots.isEmpty ∨ s.chance ≤ 0 then some (none, x)
  else
    let (u, x) := g.unit x
    if s.chance ≤ u then some (none, x)
    else do
      let spots := s.eligible e
      let total ← totalWeight? spots
      if total = 0 then return (none, x)
      else
        let (n, x) := g.below total x
        let a ← walk? spots n
        return (some a, x)

theorem pickFrom_source (s : SoundSet) (e : Environment) (source : Source) :
    s.pickFrom Source.generator e source = s.pickSpot e source := by
  unfold pickFrom pickSpot
  rfl

section Picks

variable {g : Generator} {s : SoundSet} {e : Environment} {x : g.State}

def roll (g : Generator) (s : SoundSet) (e : Environment) (x : g.State) : ℕ × g.State :=
  g.below (totalWeight (s.eligible e)) (g.word x).2

/-- How a pick goes, with its answer and the state that it leaves: it stops before the first draw,
after it, for want of a spot sound that applies, or at the spot sound to which the second draw
falls. -/
inductive Pick (g : Generator) (s : SoundSet) (e : Environment) (x : g.State) :
    Option AcousticId × g.State → Prop where
  | quiet (never : s.spots = [] ∨ s.chance ≤ 0) : Pick g s e x (none, x)
  | late (able : ¬ (s.spots = [] ∨ s.chance ≤ 0)) (missed : s.chance ≤ (g.unit x).1) :
    Pick g s e x (none, (g.word x).2)
  | vain (able : ¬ (s.spots = [] ∨ s.chance ≤ 0)) (met : ¬ s.chance ≤ (g.unit x).1)
    (nothing : s.eligible e = []) : Pick g s e x (none, (g.word x).2)
  | hit (able : ¬ (s.spots = [] ∨ s.chance ≤ 0)) (met : ¬ s.chance ≤ (g.unit x).1) {i : ℕ} {p : Spot}
    (place : (s.eligible e)[i]? = some p)
    (falls : ∀ j, FallsTo (s.eligible e) (s.roll g e x).1 j ↔ j = i) :
    Pick g s e x (some p.acoustic, (s.roll g e x).2)

theorem eligible_weighty (weighty : ∀ p ∈ s.spots, 1 ≤ p.weight) :
    ∀ p ∈ s.eligible e, 1 ≤ p.weight :=
  fun p mem => weighty p (List.mem_of_mem_filter mem)

theorem eligible_eq_nil_iff : s.eligible e = [] ↔ ∀ p ∈ s.spots, p.condition.holds e = false := by
  simp [eligible, List.filter_eq_nil_iff]

theorem pickFrom_pick (sane : g.Sane) (weighty : ∀ p ∈ s.spots, 1 ≤ p.weight) :
    Pick g s e x (s.pickFrom g e x) := by
  have total := totalWeight_eq_zero_iff (eligible_weighty (e := e) weighty)
  unfold pickFrom
  simp only [List.isEmpty_iff, total]
  split
  · next never => exact .quiet never
  · next able =>
    split
    · next missed =>
      rw [sane.unit_word]
      exact .late able missed
    · next met =>
      rw [sane.unit_word]
      split
      · next nothing => exact .vain able met nothing
      · next some_ =>
        have pos : 0 < totalWeight (s.eligible e) := Nat.pos_of_ne_zero (total.not.mpr some_)
        obtain ⟨i, falls, p, place, walk⟩ := atWeight?_eq (sane.below_lt _ (g.word x).2 pos)
        rw [walk]
        exact .hit able met place falls

theorem pickChecked?_eq (sane : g.Sane) (worded : ∀ p ∈ s.spots, p.weight < 2 ^ 32)
    (few : s.spots.length < 2 ^ 32) : s.pickChecked? g e x = some (s.pickFrom g e x) := by
  have fits : totalWeight (s.eligible e) < 2 ^ 64 := by
    refine totalWeight_lt (fun p mem => worded p (List.mem_of_mem_filter mem)) ?_
    exact Nat.lt_of_le_of_lt (List.length_filter_le _ _) few
  unfold pickChecked? pickFrom
  simp only [totalWeight?_eq fits, Option.bind_eq_bind, Option.bind_some]
  split
  · rfl
  · split
    · rfl
    · split
      · rfl
      · next some_ =>
        have below := sane.below_lt _ (g.unit x).2 (Nat.pos_of_ne_zero some_)
        obtain ⟨i, -, p, -, walk⟩ := atWeight?_eq below
        rw [walk?_eq below, walk]
        rfl

structure ByWeight (g : Generator) (s : SoundSet) (e : Environment) (x : g.State) : Prop where
  none_iff : (s.pickFrom g e x).1 = none ↔ s.spots = [] ∨ s.chance ≤ 0 ∨
    s.chance ≤ (g.unit x).1 ∨ ∀ p ∈ s.spots, p.condition.holds e = false
  drawn : ∀ a, (s.pickFrom g e x).1 = some a → ∃ i p, (s.eligible e)[i]? = some p ∧
    p.acoustic = a ∧ ∀ j, FallsTo (s.eligible e) (s.roll g e x).1 j ↔ j = i
  exhaustive : ∀ n < totalWeight (s.eligible e), ∃ i p, (s.eligible e)[i]? = some p ∧
    atWeight? (s.eligible e) n = some p.acoustic ∧ ∀ j, FallsTo (s.eligible e) n j ↔ j = i
  proportional : ∀ i p, (s.eligible e)[i]? = some p → ((Finset.range
    (totalWeight (s.eligible e))).filter fun n => FallsTo (s.eligible e) n i).card = p.weight
  checked : s.spots.length < 2 ^ 32 → s.pickChecked? g e x = some (s.pickFrom g e x)
  certain : s.chance = 1 → (∃ p ∈ s.spots, p.condition.holds e = true) →
    (s.pickFrom g e x).1 ≠ none
  nothingDrawn : s.spots = [] ∨ s.chance ≤ 0 → (s.pickFrom g e x).2 = x
  wordDrawn : ¬ (s.spots = [] ∨ s.chance ≤ 0) → (s.pickFrom g e x).1 = none →
    (s.pickFrom g e x).2 = (g.word x).2
  numberDrawn : (s.pickFrom g e x).1 ≠ none → (s.pickFrom g e x).2 = (s.roll g e x).2

namespace Pick

variable {answer : Option AcousticId × g.State}

theorem none_iff (h : Pick g s e x answer) :
    answer.1 = none ↔ s.spots = [] ∨ s.chance ≤ 0 ∨ s.chance ≤ (g.unit x).1 ∨
      ∀ p ∈ s.spots, p.condition.holds e = false := by
  rw [← eligible_eq_nil_iff]
  cases h with
  | quiet never => exact iff_of_true rfl (or_assoc.mp (.inl never))
  | late able missed => exact iff_of_true rfl (.inr (.inr (.inl missed)))
  | vain able met nothing => exact iff_of_true rfl (.inr (.inr (.inr nothing)))
  | hit able met place falls =>
    have some_ : s.eligible e ≠ [] := List.ne_nil_of_mem (List.mem_of_getElem? place)
    refine iff_of_false (Option.some_ne_none _) ?_
    rintro (never | never | missed | nothing)
    · exact able (.inl never)
    · exact able (.inr never)
    · exact met missed
    · exact some_ nothing

theorem drawn (h : Pick g s e x answer) {a : AcousticId} (given : answer.1 = some a) :
    ∃ i p, (s.eligible e)[i]? = some p ∧ p.acoustic = a ∧
      ∀ j, FallsTo (s.eligible e) (s.roll g e x).1 j ↔ j = i := by
  cases h with
  | hit able met place falls => exact ⟨_, _, place, Option.some.inj given, falls⟩
  | _ => cases given

theorem certain (h : Pick g s e x answer) (sane : g.Sane) (chance : s.chance = 1) {p : Spot}
    (mem : p ∈ s.spots) (applies : p.condition.holds e = true) : answer.1 ≠ none := by
  have notZero : ¬ (1 : Float32) ≤ 0 := by
    rw [Single.le_iff Single.one_weighs Single.zero_weighs]
    exact Nat.not_le.mpr (Nat.two_pow_pos 149)
  obtain ⟨low, high⟩ := sane.unit_range x
  intro missed
  rcases h.none_iff.mp missed with none | never | late | nothing
  · rw [none] at mem
    cases mem
  · exact notZero (chance ▸ never)
  · exact Single.not_one_le low high (chance ▸ late)
  · rw [nothing p mem] at applies
    cases applies

theorem nothingDrawn (h : Pick g s e x answer) (never : s.spots = [] ∨ s.chance ≤ 0) :
    answer.2 = x := by
  cases h with
  | quiet _ => rfl
  | late able => exact absurd never able
  | vain able => exact absurd never able
  | hit able => exact absurd never able

theorem wordDrawn (h : Pick g s e x answer) (able : ¬ (s.spots = [] ∨ s.chance ≤ 0))
    (missed : answer.1 = none) : answer.2 = (g.word x).2 := by
  cases h with
  | quiet never => exact absurd never able
  | late => rfl
  | vain => rfl
  | hit => cases missed

theorem numberDrawn (h : Pick g s e x answer) (fired : answer.1 ≠ none) :
    answer.2 = (s.roll g e x).2 := by
  cases h with
  | hit => rfl
  | _ => exact absurd rfl fired

end Pick

theorem byWeight (sane : g.Sane) (weighty : ∀ p ∈ s.spots, 1 ≤ p.weight)
    (worded : ∀ p ∈ s.spots, p.weight < 2 ^ 32) (e : Environment) (x : g.State) :
    s.ByWeight g e x := by
  have pick := pickFrom_pick (e := e) (x := x) sane weighty
  constructor
  · exact pick.none_iff
  · intro a given
    exact pick.drawn given
  · intro n below
    obtain ⟨i, falls, p, place, walk⟩ := atWeight?_eq below
    exact ⟨i, p, place, walk, falls⟩
  · intro i p place
    exact card_fallsTo place
  · exact pickChecked?_eq sane worded
  · intro chance ⟨p, mem, applies⟩
    exact pick.certain sane chance mem applies
  · exact pick.nothingDrawn
  · exact pick.wordDrawn
  · exact pick.numberDrawn

end Picks

end SoundSet

namespace Library

/-- Each set of a loaded library gives its spot sounds by weight, whatever the environment and
whatever sane generator is drawn from, of which the source of a session is one. -/
theorem spots_by_weight {text : String} {l : Library} (loaded : ofText text = .ok l) (o : Owner)
    (e : Environment) :
    (∀ g : Generator, g.Sane → ∀ x, (l.setOf o).ByWeight g e x) ∧ Source.generator.Sane ∧
      ∀ source, (l.setOf o).pickSpot e source = (l.setOf o).pickFrom Source.generator e source := by
  have usable := usable_of_ofText loaded o
  have worded := worded_of_ofText loaded o
  refine ⟨?_, Source.generator_sane, fun source => ((l.setOf o).pickFrom_source e source).symm⟩
  intro g sane x
  exact SoundSet.byWeight sane usable.weighty worded e x

theorem small_spots_by_weight : ∃ l, ofText smallText = .ok l ∧ Source.generator.Sane ∧
    ∀ o e x, (l.setOf o).ByWeight Source.generator e x := by
  have sound := (Definition.faults_eq_nil_iff _).mpr smallDefinition_valid
  obtain ⟨l, run⟩ := (ofDefinition_meets smallDefinition).succeeds_iff.mpr sound
  have loaded : ofText smallText = .ok l := (ofText_of_read read_smallText).trans run
  have sane := Source.generator_sane
  exact ⟨l, loaded, sane, fun o e => (spots_by_weight loaded o e).1 Source.generator sane⟩

end Library

end AmbientSound
