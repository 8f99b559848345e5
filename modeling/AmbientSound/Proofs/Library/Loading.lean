import AmbientSound.Proofs.Library.Faults
/-!
One rule for each step of loading. The answer of a step is fixed by the faults of what it looks at:
the first of them, or else a value, about which the rule says what is wanted.
-/
namespace AmbientSound

/-- The first of the faults is the answer; if there is none, the answer is a wanted value. -/
inductive Meets {α : Type} (wanted : α → Prop) : List LoadError → Except LoadError α → Prop where
  | value {a : α} (holds : wanted a) : Meets wanted [] (.ok a)
  | fault (first : LoadError) (rest : List LoadError) : Meets wanted (first :: rest) (.error first)

namespace Meets

variable {α β σ : Type} {faults more : List LoadError} {wanted : α → Prop} {wanted' : β → Prop}
  {r : Except LoadError α}

theorem succeeds_iff (h : Meets wanted faults r) : (∃ a, r = .ok a) ↔ faults = [] := by
  cases h <;> simp

theorem fails_iff (h : Meets wanted faults r) (f : LoadError) :
    r = .error f ↔ faults.head? = some f := by
  cases h <;> simp

theorem holds_of_ok (h : Meets wanted faults r) {a : α} (run : r = .ok a) : wanted a := by
  cases h with
  | value holds => exact Except.ok.inj run ▸ holds
  | fault first rest => cases run

theorem mono {weaker : α → Prop} (h : Meets wanted faults r) (weaken : ∀ a, wanted a → weaker a) :
    Meets weaker faults r := by
  cases h with
  | value holds => exact .value (weaken _ holds)
  | fault first rest => exact .fault first rest

theorem and {wanted₂ : α → Prop} (h : Meets wanted faults r) (h' : Meets wanted₂ faults r) :
    Meets (fun a => wanted a ∧ wanted₂ a) faults r := by
  cases h with
  | value holds => exact .value ⟨holds, h'.holds_of_ok rfl⟩
  | fault first rest => exact .fault first rest

theorem bind {next : α → Except LoadError β} (h : Meets wanted faults r)
    (h' : ∀ a, wanted a → Meets wanted' more (next a)) :
    Meets wanted' (faults ++ more) (r >>= next) := by
  cases h with
  | value holds => exact h' _ holds
  | fault first rest => exact .fault first (rest ++ more)

theorem andThen {next : α → Except LoadError β} (h : Meets wanted faults r)
    (h' : ∀ a, wanted a → ∃ b, next a = .ok b ∧ wanted' b) :
    Meets wanted' faults (r >>= next) := by
  rw [← List.append_nil faults]
  apply h.bind
  intro a holds
  obtain ⟨b, run, holds'⟩ := h' a holds
  rw [run]
  exact .value holds'

theorem guard {c : Prop} [Decidable c] {fault : LoadError} {next : PUnit → Except LoadError α}
    (h : ¬ c → Meets wanted more (next ⟨⟩)) :
    Meets wanted ((if c then [fault] else []) ++ more)
      (if c then throw fault >>= next else next ⟨⟩) := by
  by_cases wrong : c
  · rw [if_pos wrong, if_pos wrong]
    exact .fault fault more
  · rw [if_neg wrong, if_neg wrong]
    exact h wrong

/-- An invariant of the entries that are done carries over a whole list. -/
theorem inTurn {step : σ → α → Except LoadError σ} {faults : List α → α → List LoadError}
    (inv : List α → σ → Prop) (xs : List α)
    (one : ∀ before, ∀ x ∈ xs, ∀ s, inv before s →
      Meets (inv (before ++ [x])) (faults before x) (step s x))
    (before : List α) {s : σ} (start : inv before s) :
    Meets (inv (before ++ xs)) (faultsInTurn faults before xs) (xs.foldlM step s) := by
  induction xs generalizing before s with
  | nil =>
    rw [List.append_nil]
    exact .value start
  | cons x xs ih =>
    -- The faults of the rest depend on what is before it, and so does the invariant.
    rw [faultsInTurn, List.foldlM_cons]
    apply (one before x List.mem_cons_self s start).bind
    intro next holds
    rw [List.append_cons before x xs]
    exact ih (fun before y mem => one before y (List.mem_cons_of_mem x mem)) (before ++ [x]) holds

theorem foldlM {step : σ → α → Except LoadError σ} {faults : α → List LoadError}
    (inv : List α → σ → Prop) (xs : List α)
    (one : ∀ before, ∀ x ∈ xs, ∀ s, inv before s →
      Meets (inv (before ++ [x])) (faults x) (step s x))
    {s : σ} (start : inv [] s) :
    Meets (inv xs) (xs.flatMap faults) (xs.foldlM step s) := by
  have same (before : List α) : faultsInTurn (fun _ => faults) before xs = xs.flatMap faults := by
    clear one
    induction xs generalizing before with
    | nil => rfl
    | cons x xs ih => rw [faultsInTurn, ih, List.flatMap_cons]
  rw [← same []]
  exact inTurn inv xs one [] start

end Meets

namespace Library

def fileAcoustic (l : Library) (e : AcousticEntry) : Library :=
  let (a, l) := l.enterAcoustic e.name
  match e.path with
  | some path => { l with paths := l.paths.insert a path }
  | none => l

def fileLoop (state : SoundSet × Library) (p : LoopEntry) : SoundSet × Library :=
  let (a, l) := state.2.enterAcoustic p.acoustic
  (state.1.addLoop ⟨a, p.condition⟩, l)

def fileSpot (state : SoundSet × Library) (p : SpotEntry) : SoundSet × Library :=
  let (a, l) := state.2.enterAcoustic p.acoustic
  ({ state.1 with spots := state.1.spots ++ [⟨a, p.weight, p.condition⟩] }, l)

def fileSet (r : RegionId) (state : SoundSet × Library) : Library :=
  { state.2 with sets := state.2.sets.insert r state.1 }

theorem enterNamed_meets (l : Library) (owner name : String) :
    Meets (· = l.enterAcoustic name) (blankFault owner name) (l.enterNamed owner name) := by
  unfold blankFault enterNamed
  split
  · exact .fault _ []
  · exact .value rfl

theorem loadAcoustic_meets (l : Library) (e : AcousticEntry) :
    Meets (· = l.fileAcoustic e) (blankFault "acoustics" e.name) (l.loadAcoustic e) := by
  refine (l.enterNamed_meets "acoustics" e.name).andThen ?_
  rintro _ rfl
  unfold fileAcoustic
  cases e.path with
  | some path => exact ⟨_, rfl, rfl⟩
  | none => exact ⟨_, rfl, rfl⟩

theorem loadLoop_meets (owner : String) (state : SoundSet × Library) (p : LoopEntry) :
    Meets (· = fileLoop state p) (blankFault owner p.acoustic) (loadLoop owner state p) := by
  refine (state.2.enterNamed_meets owner p.acoustic).andThen ?_
  rintro _ rfl
  exact ⟨_, rfl, rfl⟩

theorem loadSpot_meets (owner : String) (state : SoundSet × Library) (p : SpotEntry) :
    Meets (fun next => 1 ≤ p.weight ∧ next = fileSpot state p) (p.faults owner)
      (loadSpot owner state p) := by
  unfold SpotEntry.faults loadSpot
  refine Meets.guard fun weighty => ?_
  refine (state.2.enterNamed_meets owner p.acoustic).andThen ?_
  rintro _ rfl
  exact ⟨_, rfl, Nat.one_le_iff_ne_zero.mpr weighty, rfl⟩

theorem loadSet_meets (l : Library) (owner : String) (e : SetEntry)
    (inv : List LoopEntry → List SpotEntry → SoundSet × Library → Prop)
    (start : 0 ≤ e.chance ∧ e.chance ≤ 1 → inv [] [] (⟨[], e.chance, []⟩, l))
    (loop : ∀ before p state, inv before [] state → inv (before ++ [p]) [] (fileLoop state p))
    (spot : ∀ before, ∀ p ∈ e.spots, ∀ state, 1 ≤ p.weight → inv e.loops before state →
      inv e.loops (before ++ [p]) (fileSpot state p)) :
    Meets (inv e.loops e.spots) (e.faults owner) (l.loadSet owner e) := by
  have range : (if 0 ≤ e.chance ∧ e.chance ≤ 1 then []
      else [LoadError.chanceOutOfRange owner e.chance]) =
        if (!isChance e.chance) = true then [.chanceOutOfRange owner e.chance] else [] := by
    by_cases chance : 0 ≤ e.chance ∧ e.chance ≤ 1 <;> simp [isChance, chance]
  rw [SetEntry.faults, range, List.append_assoc]
  unfold loadSet
  refine Meets.guard fun chance => ?_
  have inRange : 0 ≤ e.chance ∧ e.chance ≤ 1 := by simpa [isChance] using chance
  refine (Meets.foldlM (inv · []) e.loops ?_ (start inRange)).bind ?_
  · intro before p _ state holds
    refine (loadLoop_meets owner state p).mono ?_
    rintro _ rfl
    exact loop before p state holds
  · intro state holds
    refine Meets.foldlM (inv e.loops) e.spots ?_ holds
    intro before p mem state holds
    refine (loadSpot_meets owner state p).mono ?_
    rintro _ ⟨weighty, rfl⟩
    exact spot before p mem state weighty holds

theorem loadRegion_meets {l : Library} {earlier : List RegionEntry} {e : RegionEntry}
    {wanted : SoundSet × Library → Prop}
    (known : (l.findRegion? e.region).isSome ↔ trim e.region ∈ earlier.map (trim ·.region))
    (set : trim e.region ∉ earlier.map (trim ·.region) → Meets wanted (e.sounds.faults e.region)
      ((l.enterRegion e.region).2.loadSet e.region e.sounds)) :
    Meets (fun next => trim e.region ∉ earlier.map (trim ·.region) ∧
      ∃ state, wanted state ∧ next = fileSet (l.enterRegion e.region).1 state)
      (e.faults earlier) (l.loadRegion e) := by
  rw [RegionEntry.faults, List.append_assoc]
  simp only [← known]
  unfold loadRegion blankFault
  refine Meets.guard fun named => ?_
  refine Meets.guard fun new => ?_
  refine (set fun seen => new (known.mpr seen)).andThen ?_
  intro state holds
  exact ⟨_, rfl, new, state, holds, rfl⟩

end Library

end AmbientSound
