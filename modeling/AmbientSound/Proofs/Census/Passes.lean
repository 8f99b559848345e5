import Mathlib.Data.List.Induction
import AmbientSound.Census.Sweep
import AmbientSound.Proofs.Census.Cuboid
import AmbientSound.Proofs.Census.Samples
/-!
A census over a whole run of ticks and resets. Whatever slices a pass was cut into, and wherever
the observer went meanwhile, what is published is the exact tally of one walk through the cuboid
around the place where the pass began.
-/
namespace AmbientSound

namespace Tier

def Covers (t : Tier) (c p : Position) : Prop :=
  (-max t.radius 0 ≤ p.x - c.x ∧ p.x - c.x ≤ max t.radius 0) ∧
    (-max t.vertical 0 ≤ p.y - c.y ∧ p.y - c.y ≤ max t.vertical 0) ∧
      (-max t.radius 0 ≤ p.z - c.z ∧ p.z - c.z ≤ max t.radius 0)

theorem mem_cuboid_iff_covers (t : Tier) (c p : Position) : p ∈ t.cuboid c ↔ t.Covers c p := by
  rw [mem_cuboid, Covers, Int.toNat_eq_max, Int.toNat_eq_max]

end Tier

namespace Sweep

inductive Step where
  | tick (w : World) (p : Option Position)
  | reset

def Step.abandons : Step → Bool
  | .tick _ (some _) => false
  | _ => true

def step (s : Sweep) : Step → Sweep
  | .tick w p => (s.tick w p).1
  | .reset => s.reset

def run (s : Sweep) (steps : List Step) : Sweep := steps.foldl step s

def completes (s : Sweep) : Step → Bool
  | .tick w p => ((s.tick w p).2.map Event.isCompletion).getD false
  | .reset => false

def asked (s : Sweep) : Step → List (Position × Cell)
  | .tick w p => (s.queries p).map fun q => (q, w.cell s.layer q)
  | .reset => []

def samples (s : Sweep) : List Step → List (Position × Cell)
  | [] => []
  | st :: rest => s.asked st ++ (s.step st).samples rest

def Quiet (s : Sweep) : List Step → Prop
  | [] => True
  | st :: rest => (s.completes st = false ∧ st.abandons = false) ∧ (s.step st).Quiet rest

def NoPass (s : Sweep) (steps : List Step) : Prop :=
  ∃ before after, steps = before ++ after ∧ (∀ st ∈ before.getLast?, st.abandons = true) ∧
    (s.run before).Quiet after

/-- The steps `pass` are those of the latest pass: it began at `centre`, its last step ended it,
and since then none has ended and nothing was thrown away. -/
structure LastPass (s : Sweep) (steps before pass after : List Step) (centre : Position) :
    Prop where
  split : steps = before ++ pass ++ after
  idle : (s.run before).pass = none
  first : ∃ w rest, pass = .tick w (some centre) :: rest
  last : ∃ quiet final, pass = quiet ++ [final] ∧ (s.run before).Quiet quiet ∧
    (s.run (before ++ quiet)).completes final = true
  since : (s.run (before ++ pass)).Quiet after

section Runs

variable (s : Sweep)

theorem run_append (xs ys : List Step) : s.run (xs ++ ys) = (s.run xs).run ys := List.foldl_append

theorem run_snoc (xs : List Step) (st : Step) : s.run (xs ++ [st]) = (s.run xs).step st := by
  rw [run_append]
  rfl

theorem samples_append (xs ys : List Step) :
    s.samples (xs ++ ys) = s.samples xs ++ (s.run xs).samples ys := by
  induction xs generalizing s with
  | nil => rfl
  | cons st rest ih =>
    simp only [List.cons_append, samples, ih, List.append_assoc]
    rfl

theorem samples_snoc (xs : List Step) (st : Step) :
    s.samples (xs ++ [st]) = s.samples xs ++ (s.run xs).asked st := by
  simp [samples_append, samples]

variable {s}

theorem Quiet.append {xs ys : List Step} (first : s.Quiet xs) (second : (s.run xs).Quiet ys) :
    s.Quiet (xs ++ ys) := by
  induction xs generalizing s with
  | nil => exact second
  | cons st rest ih => exact ⟨first.1, ih first.2 second⟩

theorem Quiet.snoc {xs : List Step} {st : Step} (first : s.Quiet xs)
    (runs : (s.run xs).completes st = false) (stays : st.abandons = false) :
    s.Quiet (xs ++ [st]) :=
  first.append ⟨⟨runs, stays⟩, trivial⟩

end Runs

section Ticks

variable (s : Sweep) (w : World) (p : Position)

def sliced : Pass := s.slice w (s.currentPass p)

theorem tick_unfinished (open_ : (s.sliced w p).cursor < s.tier.volume) :
    s.tick w (some p) = ({ s with pass := some (s.sliced w p) }, none) := by
  unfold sliced at *
  simp only [tick, open_, if_true]

theorem tick_finished (ended : ¬ (s.sliced w p).cursor < s.tier.volume) :
    s.tick w (some p) =
      ({ s with pass := none, published := (s.sliced w p).tally, completed := s.completed + 1 },
        some (.completed (s.sliced w p).centre (s.sliced w p).tally)) := by
  unfold sliced at *
  simp only [tick, ended, if_false]

theorem step_layer (st : Step) : (s.step st).layer = s.layer := by
  cases st with
  | reset => rfl
  | tick w p =>
    cases p with
    | none => rfl
    | some p =>
      by_cases open_ : (s.sliced w p).cursor < s.tier.volume
      · rw [step, s.tick_unfinished w p open_]
      · rw [step, s.tick_finished w p open_]

theorem step_tier (st : Step) : (s.step st).tier = s.tier := by
  cases st with
  | reset => rfl
  | tick w p =>
    cases p with
    | none => rfl
    | some p =>
      by_cases open_ : (s.sliced w p).cursor < s.tier.volume
      · rw [step, s.tick_unfinished w p open_]
      · rw [step, s.tick_finished w p open_]

theorem run_layer (steps : List Step) : (s.run steps).layer = s.layer := by
  induction steps generalizing s with
  | nil => rfl
  | cons st rest ih => exact (ih (s.step st)).trans (s.step_layer st)

theorem run_tier (steps : List Step) : (s.run steps).tier = s.tier := by
  induction steps generalizing s with
  | nil => rfl
  | cons st rest ih => exact (ih (s.step st)).trans (s.step_tier st)

theorem tick_eq_of_inFlight {s : Sweep} (flying : s.pass.isSome = true) (p q : Position) :
    s.tick w (some p) = s.tick w (some q) := by
  obtain ⟨pass, found⟩ := Option.isSome_iff_exists.mp flying
  simp [tick, currentPass, found]

end Ticks

/-- The cells seen by a pass so far: those of the indices below its cursor. -/
structure Walked (t : Tier) (pass : Pass) (seen : List (Position × Cell)) : Prop where
  places : seen.map (·.1) = t.stretch pass.centre 0 pass.cursor
  tally : pass.tally = .ofCells (seen.map (·.2))

theorem Walked.slice {s : Sweep} {w : World} {p : Position} {seen : List (Position × Cell)}
    (h : Walked s.tier (s.currentPass p) seen) :
    Walked s.tier (s.sliced w p) (seen ++ s.asked (.tick w (some p))) where
  places := by
    simp only [List.map_append, h.places, asked, queries, List.map_map]
    simp only [Function.comp_def, List.map_id']
    have joined := s.tier.stretch_append (s.currentPass p).centre 0 (s.currentPass p).cursor
      (s.sliceSize (s.currentPass p))
    rw [Nat.zero_add] at joined
    exact joined
  tally := by
    simp only [sliced, Sweep.slice, countStretch_eq, h.tally, List.map_append, asked, queries,
      List.map_map, Tally.ofCells_append, Function.comp_def]

structure Tracked (s : Sweep) (steps : List Step) : Prop where
  flight : ∀ q, (s.run steps).pass = some q → q.cursor < s.tier.volume ∧
    ∃ before pass, steps = before ++ pass ∧ (s.run before).pass = none ∧
      (∃ w rest, pass = .tick w (some q.centre) :: rest) ∧ (s.run before).Quiet pass ∧
        Walked s.tier q ((s.run before).samples pass)
  published : (s.NoPass steps ∧ (s.run steps).published = .empty) ∨
    ∃ before pass after centre, s.LastPass steps before pass after centre ∧
      ((s.run before).samples pass).map (·.1) = s.tier.stretch centre 0 s.tier.volume ∧
        (s.run steps).published = .ofCells (((s.run before).samples pass).map (·.2))

namespace Tracked

variable {s : Sweep} {steps : List Step} {st : Step}

theorem current (h : s.Tracked steps) (w : World) (p : Position) :
    ∃ before pass, steps = before ++ pass ∧ (s.run before).pass = none ∧
      (∃ v rest, pass ++ [.tick w (some p)] =
        .tick v (some ((s.run steps).currentPass p).centre) :: rest) ∧
        (s.run before).Quiet pass ∧
          Walked s.tier ((s.run steps).currentPass p) ((s.run before).samples pass) := by
  cases flying : (s.run steps).pass with
  | none =>
    refine ⟨steps, [], by simp, flying, ?_, trivial, ?_⟩
    · exact ⟨w, [], by simp [currentPass, flying]⟩
    · exact ⟨by simp [currentPass, flying, samples, Tier.stretch],
        by simp [currentPass, flying, samples, Tally.ofCells]⟩
  | some q =>
    obtain ⟨-, before, pass, split, idle, ⟨v, rest, first⟩, quiet, walked⟩ := h.flight q flying
    have same : (s.run steps).currentPass p = q := by simp [currentPass, flying]
    rw [same]
    exact ⟨before, pass, split, idle, ⟨v, rest ++ [.tick w (some p)], by simp [first]⟩, quiet,
      walked⟩

theorem abandon (gone : (s.run (steps ++ [st])).pass = none)
    (emptied : (s.run (steps ++ [st])).published = .empty) (abandons : st.abandons = true) :
    s.Tracked (steps ++ [st]) where
  flight := by
    intro q flying
    rw [gone] at flying
    cases flying
  published := .inl ⟨⟨steps ++ [st], [], by simp, by simp [abandons], trivial⟩, emptied⟩

theorem published_snoc (h : s.Tracked steps) (runs : (s.run steps).completes st = false)
    (stays : st.abandons = false)
    (same : (s.run (steps ++ [st])).published = (s.run steps).published) :
    (s.NoPass (steps ++ [st]) ∧ (s.run (steps ++ [st])).published = .empty) ∨
      ∃ before pass after centre, s.LastPass (steps ++ [st]) before pass after centre ∧
        ((s.run before).samples pass).map (·.1) = s.tier.stretch centre 0 s.tier.volume ∧
          (s.run (steps ++ [st])).published = .ofCells (((s.run before).samples pass).map (·.2)) := by
  rw [same]
  rcases h.published with ⟨⟨before, after, rfl, ends, quiet⟩, empty⟩ |
    ⟨before, pass, after, centre, ⟨rfl, idle, first, last, since⟩, exact⟩
  · rw [run_append] at runs
    exact .inl ⟨⟨before, after ++ [st], by simp, ends, quiet.snoc runs stays⟩, empty⟩
  · rw [run_append] at runs
    exact .inr ⟨before, pass, after ++ [st], centre,
      ⟨by simp, idle, first, last, since.snoc runs stays⟩, exact⟩

theorem unfinished (h : s.Tracked steps) {w : World} {p : Position}
    (open_ : ((s.run steps).sliced w p).cursor < s.tier.volume) :
    s.Tracked (steps ++ [.tick w (some p)]) := by
  have tick := (s.run steps).tick_unfinished w p (by rwa [run_tier])
  have runs : (s.run steps).completes (.tick w (some p)) = false := by simp [completes, tick]
  have next : s.run (steps ++ [.tick w (some p)]) =
      { s.run steps with pass := some ((s.run steps).sliced w p) } := by
    rw [run_snoc, step, tick]
  refine ⟨?_, h.published_snoc runs rfl (by rw [next])⟩
  intro q flying
  rw [next] at flying
  obtain rfl := Option.some.inj flying
  obtain ⟨before, pass, split, idle, first, quiet, walked⟩ := h.current w p
  have reached : s.run steps = (s.run before).run pass := by rw [split, run_append]
  refine ⟨open_, before, pass ++ [.tick w (some p)], by simp [split], idle, first, ?_, ?_⟩
  · rw [reached] at runs
    exact quiet.snoc runs rfl
  · rw [samples_snoc, ← reached]
    have longer := Walked.slice (s := s.run steps) (w := w) (p := p) (by rwa [run_tier])
    rwa [run_tier] at longer

theorem finished (h : s.Tracked steps) {w : World} {p : Position}
    (ended : ¬ ((s.run steps).sliced w p).cursor < s.tier.volume)
    (within : ((s.run steps).sliced w p).cursor ≤ s.tier.volume) :
    s.Tracked (steps ++ [.tick w (some p)]) := by
  have tick := (s.run steps).tick_finished w p (by rwa [run_tier])
  have ends : (s.run steps).completes (.tick w (some p)) = true := by
    simp [completes, tick, Event.isCompletion]
  have next : s.run (steps ++ [.tick w (some p)]) =
      { s.run steps with
        pass := none, published := ((s.run steps).sliced w p).tally
        completed := (s.run steps).completed + 1 } := by
    rw [run_snoc, step, tick]
  refine ⟨?_, .inr ?_⟩
  · intro q flying
    rw [next] at flying
    cases flying
  · obtain ⟨before, pass, split, idle, first, quiet, walked⟩ := h.current w p
    have reached : s.run steps = (s.run before).run pass := by rw [split, run_append]
    have longer := Walked.slice (s := s.run steps) (w := w) (p := p) (by rwa [run_tier])
    rw [run_tier] at longer
    have full : ((s.run steps).sliced w p).cursor = s.tier.volume :=
      Nat.le_antisymm within (Nat.le_of_not_lt ended)
    refine ⟨before, pass ++ [.tick w (some p)], [], ((s.run steps).currentPass p).centre,
      ⟨by simp [split], idle, first, ?_, trivial⟩, ?_, ?_⟩
    · refine ⟨pass, .tick w (some p), rfl, quiet, ?_⟩
      rw [← split]
      exact ends
    · rw [samples_snoc, ← reached, longer.places, full]
      rfl
    · rw [samples_snoc, ← reached, next, longer.tally]

theorem snoc (h : s.Tracked steps) (st : Step) : s.Tracked (steps ++ [st]) := by
  cases st with
  | reset => exact abandon (by rw [run_snoc]; rfl) (by rw [run_snoc]; rfl) rfl
  | tick w p =>
    cases p with
    | none => exact abandon (by rw [run_snoc]; rfl) (by rw [run_snoc]; rfl) rfl
    | some p =>
      by_cases open_ : ((s.run steps).sliced w p).cursor < s.tier.volume
      · exact h.unfinished open_
      · -- a slice never goes beyond the end of the pass
        refine h.finished open_ ?_
        have below : ((s.run steps).currentPass p).cursor ≤ s.tier.volume := by
          cases flying : (s.run steps).pass with
          | none => simp [currentPass, flying]
          | some q =>
            have short := (h.flight q flying).1
            simp only [currentPass, flying, Option.getD_some]
            omega
        simp only [sliced, slice, sliceSize, run_tier]
        omega

end Tracked

theorem tracked (layer : Layer) (tier : Tier) (steps : List Step) :
    (start layer tier).Tracked steps := by
  induction steps using List.reverseRecOn with
  | nil =>
    refine ⟨?_, .inl ⟨⟨[], [], rfl, by simp, trivial⟩, rfl⟩⟩
    intro q flying
    cases flying
  | append_singleton steps st ih => exact ih.snoc st

structure Census (t : Tier) (centre : Position) (seen : List (Position × Cell)) (u : Tally) :
    Prop where
  order : seen.map (·.1) = t.cuboid centre
  once : (seen.map (·.1)).Nodup
  everywhere : ∀ p, p ∈ seen.map (·.1) ↔ t.Covers centre p
  exact : Tally.Exact (seen.map (·.2)) u

theorem census_of_walk {t : Tier} {centre : Position} {seen : List (Position × Cell)} {u : Tally}
    (fits : t.volume < 2 ^ 64 - 1)
    (walk : seen.map (·.1) = t.stretch centre 0 t.volume)
    (tally : u = .ofCells (seen.map (·.2))) : Census t centre seen u := by
  rw [Tier.volume_eq_cells fits, t.stretch_eq_cuboid] at walk
  refine ⟨walk, ?_, ?_, ?_⟩
  · rw [walk]
    exact t.cuboid_nodup centre
  · intro p
    rw [walk, t.mem_cuboid_iff_covers]
  · rw [tally]
    exact Tally.ofCells_exact _

theorem Census.total_le {t : Tier} {centre : Position} {seen : List (Position × Cell)} {u : Tally}
    (fits : t.volume < 2 ^ 64 - 1) (h : Census t centre seen u) : u.total ≤ t.volume := by
  have counted := h.exact.total
  have most := List.countP_le_length (l := seen.map (·.2)) (p := Cell.isLoaded)
  have size := congrArg List.length h.order
  rw [List.length_map, t.length_cuboid, ← Tier.volume_eq_cells fits] at size
  rw [List.length_map] at most
  omega

theorem samples_of_world {s : Sweep} {w : World} {steps : List Step}
    (same : ∀ v p, .tick v p ∈ steps → v = w) :
    s.samples steps = ((s.samples steps).map (·.1)).map fun q => (q, w.cell s.layer q) := by
  induction steps generalizing s with
  | nil => rfl
  | cons st rest ih =>
    have later := ih (s := s.step st) fun v p mem => same v p (List.mem_cons_of_mem st mem)
    rw [step_layer] at later
    have now : s.asked st = ((s.asked st).map (·.1)).map fun q => (q, w.cell s.layer q) := by
      cases st with
      | reset => rfl
      | tick v p => simp [asked, same v p (by simp)]
    simp only [samples, List.map_append]
    rw [← now, ← later]

def smallSteps : List Step :=
  let hills : World := ⟨fun _ p => if p.x < 1 then .region ⟨0⟩ else .empty, fun _ _ => none, .standard⟩
  let sea : World := ⟨fun _ p => if p.z < 0 then .unloaded else .region ⟨1⟩, fun _ _ => none, .standard⟩
  [.tick sea (some ⟨5, 64, 5⟩), .tick sea none, .tick sea (some ⟨0, 64, 0⟩),
    .tick hills (some ⟨9, 64, 9⟩), .tick sea (some ⟨0, 70, 0⟩), .tick hills (some ⟨3, 64, 3⟩)]

/-- At every point of every run the published tally is empty, if no pass has ended since the state
was last thrown away, and else the census of the last pass, which is that of its world alone if
there was one world only. Where the observer goes while a pass is under way makes no difference. -/
theorem published_exact (layer : Layer) (tier : Tier) (fits : tier.volume ≤ 2 ^ 31)
    (steps : List Step) :
    (((start layer tier).NoPass steps ∧ ((start layer tier).run steps).published = .empty) ∨
      ∃ before pass after centre, (start layer tier).LastPass steps before pass after centre ∧
        Census tier centre (((start layer tier).run before).samples pass)
          ((start layer tier).run steps).published ∧
        ∀ w, (∀ v p, .tick v p ∈ pass → v = w) →
          ((start layer tier).run steps).published =
            .ofCells ((tier.cuboid centre).map (w.cell layer))) ∧
      ((start layer tier).run steps).published.counts.valueSum ≤
        ((start layer tier).run steps).published.total ∧
      ((start layer tier).run steps).published.total ≤ tier.volume ∧
      ∀ w p q more, ((start layer tier).run steps).pass.isSome = true →
        (start layer tier).run (steps ++ .tick w (some p) :: more) =
          (start layer tier).run (steps ++ .tick w (some q) :: more) := by
  have small : tier.volume < 2 ^ 64 - 1 := by omega
  have moves : ∀ w p q more, ((start layer tier).run steps).pass.isSome = true →
      (start layer tier).run (steps ++ .tick w (some p) :: more) =
        (start layer tier).run (steps ++ .tick w (some q) :: more) := by
    intro w p q more flying
    have same : ((start layer tier).run steps).step (.tick w (some p)) =
        ((start layer tier).run steps).step (.tick w (some q)) := by
      rw [step, step, tick_eq_of_inFlight w flying p q]
    rw [run_append, run_append]
    exact congrArg (fun s => s.run more) same
  rcases (tracked layer tier steps).published with ⟨none, empty⟩ |
    ⟨before, pass, after, centre, last, walk, tally⟩
  · refine ⟨.inl ⟨none, empty⟩, ?_, ?_, moves⟩
    · rw [empty]
      exact Nat.le_refl 0
    · rw [empty]
      exact Nat.zero_le tier.volume
  · have census := census_of_walk small walk tally
    refine ⟨.inr ⟨before, pass, after, centre, last, census, ?_⟩, census.exact.sum_le,
      census.total_le small, moves⟩
    intro w same
    rw [tally, samples_of_world same, census.order, run_layer]
    simp [start, Function.comp_def]

theorem small_published_exact :
    Tier.volume ⟨1, 0, 3⟩ ≤ 2 ^ 31 ∧
      ∃ before pass after centre,
        (start .biome ⟨1, 0, 3⟩).LastPass smallSteps before pass after centre ∧
          Census ⟨1, 0, 3⟩ centre (((start .biome ⟨1, 0, 3⟩).run before).samples pass)
            ((start .biome ⟨1, 0, 3⟩).run smallSteps).published := by
  have fits : Tier.volume ⟨1, 0, 3⟩ ≤ 2 ^ 31 := by decide
  refine ⟨fits, ?_⟩
  rcases (published_exact .biome ⟨1, 0, 3⟩ fits smallSteps).1 with ⟨-, empty⟩ |
    ⟨before, pass, after, centre, last, census, -⟩
  · exact absurd (congrArg Tally.total empty) (by decide)
  · exact ⟨before, pass, after, centre, last, census⟩

end Sweep

end AmbientSound
