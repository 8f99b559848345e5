import AmbientSound.Proofs.Census.Settling
/-!
The rhythm of a census. While the observer is there, every pass is spread over the same number of
ticks, none of which asks for more than its slice; a pass that is thrown away is not counted, and
the rhythm begins anew.
-/
namespace AmbientSound

namespace Tier

theorem lt_volume_of_lt_slices {t : Tier} {j : ℕ} (early : j < t.slices) :
    j * t.perTick < t.volume := by
  have pos := t.perTick_pos
  have whole := Nat.div_mul_le_self (t.volume + t.perTick - 1) t.perTick
  have steps := Nat.mul_le_mul_right t.perTick (Nat.succ_le_of_lt early)
  rw [Nat.succ_mul] at steps
  rw [← slices] at whole
  omega

/-- A pass never takes longer than its cadence. -/
theorem slices_le_cadence (t : Tier) : t.slices ≤ max t.cadence 1 := by
  have ticks : 0 < max t.cadence 1 := by omega
  have pos := t.perTick_pos
  have whole := Nat.div_add_mod (t.volume + (max t.cadence 1 - 1)) (max t.cadence 1)
  have rest := Nat.mod_lt (t.volume + (max t.cadence 1 - 1)) ticks
  rw [← perTick] at whole
  have enough : t.volume ≤ t.perTick * max t.cadence 1 := by
    rw [Nat.mul_comm]
    omega
  rw [slices]
  refine Nat.le_of_lt_succ ((Nat.div_lt_iff_lt_mul pos).mpr ?_)
  rw [Nat.succ_mul, Nat.mul_comm]
  omega

end Tier

namespace Sweep

def attended (ticks : List (World × Position)) : List Step :=
  ticks.map fun e => .tick e.1 (some e.2)

/-- So many slices of a pass have been taken. Before the first there is no pass. -/
structure Standing (s : Sweep) (j : ℕ) : Prop where
  short : j < s.tier.slices
  cursor : ∀ p, (s.currentPass p).cursor = j * s.tier.perTick
  flying : s.pass.isSome = true ↔ j ≠ 0

/-- What a tick does that is the `j`-th since there was no pass. -/
structure Beat (t : Tier) (j : ℕ) (s : Sweep) (w : World) (p : Position) : Prop where
  ends : s.completes (.tick w (some p)) = true ↔ t.slices ∣ j
  counted : (s.tick w (some p)).1.completed =
    if t.slices ∣ j then s.completed + 1 else s.completed
  flying : (s.tick w (some p)).1.pass.isSome = true ↔ ¬ t.slices ∣ j
  asks : 1 ≤ (s.queries (some p)).length
  bounded : (s.queries (some p)).length ≤ t.perTick
  whole : ¬ t.slices ∣ j → (s.queries (some p)).length = t.perTick
  /-- The answers to the queries are counted, one after the other, to what had been counted. -/
  answers : ((s.tick w (some p)).1.pass.elim (s.tick w (some p)).1.published (·.tally)) =
    ((s.queries (some p)).map (w.cell s.layer)).foldl Tally.see (s.currentPass p).tally
  depends : ∀ v : World, (∀ q ∈ s.queries (some p), v.cell s.layer q = w.cell s.layer q) →
    s.tick v (some p) = s.tick w (some p)

section Standings

variable {s : Sweep} {j : ℕ} {w : World} {p : Position}

theorem sliced_tally (s : Sweep) (w : World) (p : Position) : (s.sliced w p).tally =
    ((s.queries (some p)).map (w.cell s.layer)).foldl Tally.see (s.currentPass p).tally :=
  countStretch_eq _ _ _ _ _ _

theorem sliced_congr {v : World}
    (same : ∀ q ∈ s.queries (some p), v.cell s.layer q = w.cell s.layer q) :
    s.sliced v p = s.sliced w p := by
  have tally : (s.sliced v p).tally = (s.sliced w p).tally := by
    rw [sliced_tally, sliced_tally, List.map_congr_left same]
  exact congrArg (Pass.mk _ _) tally

theorem tick_answers (s : Sweep) (w : World) (p : Position) :
    ((s.tick w (some p)).1.pass.elim (s.tick w (some p)).1.published (·.tally)) =
      ((s.queries (some p)).map (w.cell s.layer)).foldl Tally.see (s.currentPass p).tally := by
  rw [← sliced_tally]
  by_cases more : (s.sliced w p).cursor < s.tier.volume
  · rw [s.tick_unfinished w p more]
    rfl
  · rw [s.tick_finished w p more]
    rfl

theorem tick_congr {v : World}
    (same : ∀ q ∈ s.queries (some p), v.cell s.layer q = w.cell s.layer q) :
    s.tick v (some p) = s.tick w (some p) := by
  have slice : s.slice v (s.currentPass p) = s.slice w (s.currentPass p) := sliced_congr same
  rw [tick, tick, slice]

theorem standing_idle (idle : s.pass = none) : s.Standing 0 where
  short := s.tier.slices_pos
  cursor := by
    intro p
    simp [currentPass, idle]
  flying := by simp [idle]

theorem length_queries (s : Sweep) (p : Position) :
    (s.queries (some p)).length = min s.tier.perTick (s.tier.volume - (s.currentPass p).cursor) :=
  s.tier.length_stretch _ _ _

theorem Standing.onward (h : s.Standing j) (w : World) (p : Position)
    (more : j + 1 < s.tier.slices) :
    (s.sliced w p).cursor = (j + 1) * s.tier.perTick ∧
      s.tick w (some p) = ({ s with pass := some (s.sliced w p) }, none) := by
  have room := Tier.lt_volume_of_lt_slices more
  have reached : (s.sliced w p).cursor = (j + 1) * s.tier.perTick := by
    rw [Nat.succ_mul] at room ⊢
    rw [sliced_cursor, h.cursor p]
    omega
  exact ⟨reached, s.tick_unfinished w p (by omega)⟩

theorem Standing.ending (h : s.Standing j) (w : World) (p : Position)
    (last : j + 1 = s.tier.slices) :
    (s.sliced w p).cursor = s.tier.volume ∧
      s.tick w (some p) =
        ({ s with pass := none, published := (s.sliced w p).tally, completed := s.completed + 1 },
          some (.completed (s.sliced w p).centre (s.sliced w p).tally)) := by
  have room := Tier.lt_volume_of_lt_slices h.short
  have covered := s.tier.volume_le_slices
  have reached : (s.sliced w p).cursor = s.tier.volume := by
    rw [← last, Nat.succ_mul] at covered
    rw [sliced_cursor, h.cursor p]
    omega
  exact ⟨reached, s.tick_finished w p (by omega)⟩

theorem Standing.tick (h : s.Standing j) (w : World) (p : Position) :
    (s.tick w (some p)).1.Standing ((j + 1) % s.tier.slices) := by
  have short := h.short
  by_cases more : j + 1 < s.tier.slices
  · obtain ⟨reached, next⟩ := h.onward w p more
    rw [next, Nat.mod_eq_of_lt more]
    refine ⟨more, ?_, by simp⟩
    intro q
    simp only [currentPass, Option.getD_some, reached]
  · have last : j + 1 = s.tier.slices := by omega
    rw [(h.ending w p last).2, last, Nat.mod_self]
    exact standing_idle rfl

theorem Standing.beat (h : s.Standing j) {n : ℕ} (phase : n % s.tier.slices = j) (w : World)
    (p : Position) : Beat s.tier (n + 1) s w p := by
  have short := h.short
  have room := Tier.lt_volume_of_lt_slices short
  have slice := s.tier.perTick_pos
  have length := s.length_queries p
  rw [h.cursor p] at length
  have due : s.tier.slices ∣ n + 1 ↔ j + 1 = s.tier.slices := by
    rw [Nat.dvd_iff_mod_eq_zero, ← Nat.mod_add_mod, phase]
    constructor
    · intro zero
      by_contra other
      rw [Nat.mod_eq_of_lt (by omega)] at zero
      omega
    · intro last
      rw [last, Nat.mod_self]
  by_cases last : j + 1 = s.tier.slices
  · have next := (h.ending w p last).2
    refine ⟨?_, ?_, ?_, by omega, by omega, fun other => absurd (due.mpr last) other,
      s.tick_answers w p, fun v => tick_congr⟩
    · simp [completes, next, Event.isCompletion, due.mpr last]
    · rw [next, if_pos (due.mpr last)]
    · simp [next, due.mpr last]
  · have next := (h.onward w p (by omega)).2
    have early := Tier.lt_volume_of_lt_slices (t := s.tier) (j := j + 1) (by omega)
    rw [Nat.succ_mul] at early
    refine ⟨?_, ?_, ?_, by omega, by omega, fun _ => by omega, s.tick_answers w p,
      fun v => tick_congr⟩
    · simp [completes, next, due, last]
    · rw [next, if_neg (due.not.mpr last)]
    · simp [next, due, last]

theorem samples_attended (s : Sweep) (w : World) (p : Position) (rest : List (World × Position)) :
    s.samples (attended ((w, p) :: rest)) =
      s.asked (.tick w (some p)) ++ (s.tick w (some p)).1.samples (attended rest) := rfl

/-- The slices that are left of a pass go on through its cuboid to the end. -/
theorem Standing.walk {c : Position} {seen : List (Position × Cell)}
    {rest : List (World × Position)} (h : s.Standing j) (centre : (s.currentPass p).centre = c)
    (walked : Walked s.tier (s.currentPass p) seen)
    (long : j + (rest.length + 1) = s.tier.slices) :
    (seen ++ s.samples (attended ((w, p) :: rest))).map (·.1) =
      s.tier.stretch c 0 s.tier.volume := by
  have sliced := walked.slice (w := w) (p := p)
  rw [samples_attended, ← List.append_assoc]
  induction rest generalizing s w p j seen with
  | nil =>
    have places := sliced.places
    rw [(h.ending w p long).1] at places
    have last : (s.sliced w p).centre = c := centre
    rw [last] at places
    simpa [attended, samples] using places
  | cons e rest ih =>
    obtain ⟨v, q⟩ := e
    rw [List.length_cons] at long
    have next := (h.onward w p (by omega)).2
    have standing := h.tick w p
    rw [Nat.mod_eq_of_lt (by omega), next] at standing
    rw [next, samples_attended, ← List.append_assoc]
    exact ih (w := v) (p := q) standing centre sliced (by simp only; omega) (sliced.slice)

theorem attended_append (xs ys : List (World × Position)) :
    attended (xs ++ ys) = attended xs ++ attended ys := List.map_append

theorem Standing.run (h : s.Standing 0) (ticks : List (World × Position)) :
    (s.run (attended ticks)).Standing (ticks.length % s.tier.slices) := by
  induction ticks using List.reverseRecOn with
  | nil => simpa [Sweep.run, attended] using h
  | append_singleton ticks e ih =>
    have next := ih.tick e.1 e.2
    rw [run_tier, Nat.mod_add_mod] at next
    rw [attended_append, run_append, List.length_append]
    exact next

end Standings

/-- The rhythm of the passes, from a time when there is none. -/
structure Paced (t : Tier) (s : Sweep) : Prop where
  beat : ∀ ticks w p, Beat t (ticks.length + 1) (s.run (attended ticks)) w p
  walk : ∀ before w p rest, t.slices ∣ before.length → rest.length + 1 = t.slices →
    ((s.run (attended before)).samples (attended ((w, p) :: rest))).map (·.1) = t.cuboid p ∧
      ((s.run (attended before)).samples (attended ((w, p) :: rest))).length = t.volume

theorem paced_of_idle {s : Sweep} (fits : s.tier.volume < 2 ^ 64 - 1) (idle : s.pass = none) :
    Paced s.tier s := by
  have standing := (standing_idle idle).run
  refine ⟨?_, ?_⟩
  · intro ticks w p
    have beat := (standing ticks).beat (n := ticks.length) (by rw [run_tier]) w p
    rwa [run_tier] at beat
  · intro before w p rest whole long
    have begun := standing before
    rw [Nat.mod_eq_zero_of_dvd whole] at begun
    have none_ : (s.run (attended before)).pass = none := by
      simpa using begun.flying
    have current : (s.run (attended before)).currentPass p = ⟨p, 0, .empty⟩ := by
      simp [currentPass, none_]
    have walked : Walked (s.run (attended before)).tier
        ((s.run (attended before)).currentPass p) [] := by
      rw [current]
      exact ⟨rfl, rfl⟩
    have left : 0 + (rest.length + 1) = (s.run (attended before)).tier.slices := by
      rw [run_tier]
      omega
    have places := begun.walk (w := w) (p := p) (c := p) (by rw [current]) walked left
    rw [List.nil_append, run_tier] at places
    have count := congrArg List.length places
    rw [List.length_map, Tier.length_stretch] at count
    rw [Tier.volume_eq_cells fits, Tier.stretch_eq_cuboid] at places
    exact ⟨places, count⟩

theorem step_abandoned (s : Sweep) {st : Step} (gone : st.abandons = true) :
    (s.step st).pass = none ∧ (s.step st).completed = s.completed ∧ s.completes st = false := by
  cases st with
  | reset => exact ⟨rfl, rfl, rfl⟩
  | tick w p =>
    cases p with
    | some p => cases gone
    | none =>
      refine ⟨rfl, rfl, ?_⟩
      simp only [completes, Sweep.tick]
      split <;> rfl

/-- From a time when there is no pass, every pass takes the same number of ticks, at most its cadence,
and walks through the cuboid around the place where it began. A pass that is thrown away, at
whatever point, is not counted, and from there on the same holds anew. -/
theorem passes_in_slices (s : Sweep) (fits : s.tier.volume ≤ 2 ^ 31) (idle : s.pass = none) :
    s.tier.slices ≤ max s.tier.cadence 1 ∧ Paced s.tier s ∧
      ∀ steps st, st.abandons = true →
        (s.run steps).completes st = false ∧ (s.run (steps ++ [st])).pass = none ∧
          (s.run (steps ++ [st])).completed = (s.run steps).completed ∧
          Paced s.tier (s.run (steps ++ [st])) := by
  refine ⟨s.tier.slices_le_cadence, paced_of_idle (by omega) idle, ?_⟩
  intro steps st gone
  obtain ⟨dropped, kept, silent⟩ := (s.run steps).step_abandoned gone
  have tier : (s.run (steps ++ [st])).tier = s.tier := s.run_tier (steps ++ [st])
  rw [← run_snoc] at dropped kept
  have paced := paced_of_idle (by rw [tier]; omega) dropped
  rw [tier] at paced
  exact ⟨silent, dropped, kept, paced⟩

theorem brisk_passes_in_slices :
    (Tier.volume ⟨1, 0, 4⟩ ≤ 2 ^ 31 ∧ (start .biome ⟨1, 0, 4⟩).pass = none) ∧
      Tier.slices ⟨1, 0, 4⟩ = 3 ∧
      Paced ⟨1, 0, 4⟩ (start .biome ⟨1, 0, 4⟩) ∧
      ((start .biome ⟨1, 0, 4⟩).run (smallSteps.take 1)).pass.isSome = true ∧
      Paced ⟨1, 0, 4⟩ ((start .biome ⟨1, 0, 4⟩).run (smallSteps.take 1 ++ [.reset])) := by
  have fits : Tier.volume ⟨1, 0, 4⟩ ≤ 2 ^ 31 := by decide
  obtain ⟨-, paced, abandoned⟩ := passes_in_slices (start .biome ⟨1, 0, 4⟩) fits rfl
  exact ⟨⟨fits, rfl⟩, by decide, paced, by decide, (abandoned (smallSteps.take 1) .reset rfl).2.2.2⟩

end Sweep

end AmbientSound
