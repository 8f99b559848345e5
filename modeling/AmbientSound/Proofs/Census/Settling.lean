import AmbientSound.Proofs.Census.Passes
/-!
How long a census needs to settle. In front of one world and with the observer in one place, a pass
that began elsewhere has to run out, and the next one is exact; from then on every one is.
-/
namespace AmbientSound

namespace Tier

def slices (t : Tier) : Nat := (t.volume + t.perTick - 1) / t.perTick

def census (t : Tier) (w : World) (layer : Layer) (p : Position) : Tally :=
  .ofCells ((t.cuboid p).map (w.cell layer))

theorem census_sound (t : Tier) (w : World) (layer : Layer) (p : Position)
    (fits : t.volume < 2 ^ 64 - 1) :
    (t.census w layer p).Consistent ∧ (t.census w layer p).total ≤ t.volume := by
  have exact := Tally.ofCells_exact ((t.cuboid p).map (w.cell layer))
  have most := List.countP_le_length (l := (t.cuboid p).map (w.cell layer)) (p := Cell.isLoaded)
  rw [List.length_map, t.length_cuboid, ← volume_eq_cells fits, ← exact.total] at most
  exact ⟨exact.consistent, most⟩

theorem volume_le_slices (t : Tier) : t.volume ≤ t.slices * t.perTick := by
  have pos := t.perTick_pos
  have split := Nat.div_add_mod (t.volume + t.perTick - 1) t.perTick
  have rest := Nat.mod_lt (t.volume + t.perTick - 1) pos
  rw [Nat.mul_comm, slices]
  omega

theorem slices_pos (t : Tier) : 0 < t.slices := by
  have covered := t.volume_le_slices
  have pos := t.volume_pos
  by_contra zero
  rw [Nat.eq_zero_of_not_pos zero, Nat.zero_mul] at covered
  omega

end Tier

namespace Sweep

structure Fresh (s : Sweep) (w : World) (p : Position) (pass : Pass) : Prop where
  centre : pass.centre = p
  short : pass.cursor < s.tier.volume
  tally : pass.tally = .ofCells ((s.tier.stretch p 0 pass.cursor).map (w.cell s.layer))

/-- After at most `n` ticks the published tally is the census, and stays it. -/
inductive Settling (s : Sweep) (w : World) (p : Position) (n : Nat) : Prop where
  | settled (published : s.published = s.tier.census w s.layer p)
      (fresh : s.Fresh w p (s.currentPass p))
  | begun (fresh : s.Fresh w p (s.currentPass p))
      (enough : s.tier.volume ≤ (s.currentPass p).cursor + n * s.tier.perTick)
  /-- The pass under way needs `j` ticks, and the next one the rest. -/
  | stale (q : Pass) (flying : s.pass = some q) (short : q.cursor < s.tier.volume) (j k : Nat)
      (parts : n = j + k) (runsOut : s.tier.volume ≤ q.cursor + j * s.tier.perTick)
      (enough : s.tier.volume ≤ k * s.tier.perTick)

section Ticks

variable {s : Sweep} {w : World} {p : Position} {n : Nat}

theorem sliced_cursor (s : Sweep) (w : World) (p : Position) :
    (s.sliced w p).cursor = (s.currentPass p).cursor +
      min s.tier.perTick (s.tier.volume - (s.currentPass p).cursor) := rfl

theorem fresh_start (idle : s.pass = none) (w : World) (p : Position) :
    s.Fresh w p (s.currentPass p) := by
  have new : s.currentPass p = ⟨p, 0, .empty⟩ := by simp [currentPass, idle]
  rw [new]
  exact ⟨rfl, s.tier.volume_pos, rfl⟩

theorem Fresh.sliced_tally (h : s.Fresh w p (s.currentPass p)) :
    (s.sliced w p).centre = p ∧ (s.sliced w p).tally =
      .ofCells ((s.tier.stretch p 0 (s.sliced w p).cursor).map (w.cell s.layer)) := by
  refine ⟨h.centre, ?_⟩
  have joined := s.tier.stretch_append p 0 (s.currentPass p).cursor
    (s.sliceSize (s.currentPass p))
  rw [Nat.zero_add] at joined
  have slice : (s.sliced w p).tally = countStretch (w.cell s.layer) s.tier
    (s.currentPass p).centre (s.sliceSize (s.currentPass p)) (s.currentPass p).cursor
    (s.currentPass p).tally := rfl
  have reach : (s.sliced w p).cursor =
    (s.currentPass p).cursor + s.sliceSize (s.currentPass p) := rfl
  rw [slice, countStretch_eq, h.tally, h.centre, reach, ← joined, List.map_append,
    Tally.ofCells_append]

theorem Fresh.tick (fits : s.tier.volume < 2 ^ 64 - 1) (h : s.Fresh w p (s.currentPass p)) :
    (s.tick w (some p)).1.Fresh w p ((s.tick w (some p)).1.currentPass p) ∧
      (((s.sliced w p).cursor < s.tier.volume ∧
          (s.tick w (some p)).1 = { s with pass := some (s.sliced w p) }) ∨
        (s.tier.volume ≤ (s.sliced w p).cursor ∧
          (s.tick w (some p)).1.published = s.tier.census w s.layer p)) := by
  obtain ⟨centre, tally⟩ := h.sliced_tally
  by_cases runs : (s.sliced w p).cursor < s.tier.volume
  · rw [s.tick_unfinished w p runs]
    exact ⟨⟨centre, runs, tally⟩, .inl ⟨runs, rfl⟩⟩
  · have full : (s.sliced w p).cursor = s.tier.cells := by
      have short := h.short
      rw [← Tier.volume_eq_cells fits]
      rw [sliced_cursor] at runs ⊢
      omega
    rw [full, Tier.stretch_eq_cuboid] at tally
    rw [s.tick_finished w p runs]
    exact ⟨fresh_start rfl w p, .inr ⟨by omega, tally⟩⟩

theorem tick_tier (s : Sweep) (w : World) (p : Position) :
    (s.tick w (some p)).1.tier = s.tier := s.step_tier (.tick w (some p))

theorem tick_layer (s : Sweep) (w : World) (p : Position) :
    (s.tick w (some p)).1.layer = s.layer := s.step_layer (.tick w (some p))

theorem Settling.tick (fits : s.tier.volume < 2 ^ 64 - 1) (h : s.Settling w p (n + 1)) :
    (s.tick w (some p)).1.Settling w p n := by
  cases h with
  | settled published fresh =>
    obtain ⟨fresh', ⟨runs, next⟩ | ⟨-, census⟩⟩ := fresh.tick fits
    · refine .settled ?_ fresh'
      rw [next]
      exact published
    · refine .settled ?_ fresh'
      rw [census, tick_tier, tick_layer]
  | begun fresh enough =>
    obtain ⟨fresh', ⟨runs, next⟩ | ⟨-, census⟩⟩ := fresh.tick fits
    · refine .begun fresh' ?_
      rw [sliced_cursor] at runs
      rw [next]
      simp only [currentPass, Option.getD_some, sliced_cursor]
      rw [currentPass] at runs enough
      rw [Nat.add_mul, Nat.one_mul] at enough
      omega
    · refine .settled ?_ fresh'
      rw [census, tick_tier, tick_layer]
  | stale q flying short j k parts runsOut enough =>
    have current : s.currentPass p = q := by simp [currentPass, flying]
    have cursor := s.sliced_cursor w p
    rw [current] at cursor
    by_cases runs : (s.sliced w p).cursor < s.tier.volume
    · rw [s.tick_unfinished w p runs]
      cases j with
      | zero => omega
      | succ j =>
        rw [Nat.add_mul, Nat.one_mul] at runsOut
        refine .stale _ rfl runs j k (by omega) ?_ enough
        simp only
        omega
    · have less : k ≤ n := by
        cases j with
        | zero => omega
        | succ j => omega
      have reaches := Nat.mul_le_mul_right s.tier.perTick less
      rw [s.tick_finished w p runs]
      refine .begun (fresh_start rfl w p) ?_
      simp only [currentPass, Option.getD_none]
      omega

theorem Settling.published (h : s.Settling w p 0) : s.published = s.tier.census w s.layer p := by
  cases h with
  | settled published fresh => exact published
  | begun fresh enough =>
    have short := fresh.short
    omega
  | stale q flying short j k parts runsOut enough =>
    obtain ⟨rfl, rfl⟩ : j = 0 ∧ k = 0 := by omega
    have pos := s.tier.volume_pos
    omega

theorem Settling.mono {m : Nat} (le : n ≤ m) (h : s.Settling w p n) : s.Settling w p m := by
  cases h with
  | settled published fresh => exact .settled published fresh
  | begun fresh enough =>
    have more := Nat.mul_le_mul_right s.tier.perTick le
    exact .begun fresh (by omega)
  | stale q flying short j k parts runsOut enough =>
    have more : k * s.tier.perTick ≤ (m - j) * s.tier.perTick := Nat.mul_le_mul_right _ (by omega)
    exact .stale q flying short j (m - j) (by omega) runsOut (by omega)

end Ticks

section Reachable

variable (layer : Layer) (tier : Tier) (steps : List Step)

def Sliced (s : Sweep) : Prop := ∀ q, s.pass = some q → s.tier.perTick ≤ q.cursor

theorem step_sliced (s : Sweep) (st : Step) : (s.step st).Sliced := by
  intro q flying
  cases st with
  | reset => cases flying
  | tick w p =>
    cases p with
    | none => cases flying
    | some p =>
      by_cases runs : (s.sliced w p).cursor < s.tier.volume
      · rw [step, s.tick_unfinished w p runs] at flying
        obtain rfl := Option.some.inj flying
        rw [step_tier]
        rw [sliced_cursor] at runs ⊢
        omega
      · rw [step, s.tick_finished w p runs] at flying
        cases flying

theorem run_sliced : ((start layer tier).run steps).Sliced := by
  induction steps using List.reverseRecOn with
  | nil =>
    intro q flying
    cases flying
  | append_singleton steps st ih =>
    rw [run_snoc]
    exact step_sliced _ st

/-- From wherever a census stands, two passes less a tick are enough. -/
theorem run_settling (w : World) (p : Position) {n : Nat} (long : 2 * tier.slices ≤ n + 1) :
    ((start layer tier).run steps).Settling w p n := by
  have covered := tier.volume_le_slices
  have some_ := tier.slices_pos
  cases flying : ((start layer tier).run steps).pass with
  | none =>
    refine .begun (fresh_start flying w p) ?_
    have reaches : tier.slices * tier.perTick ≤ n * tier.perTick :=
      Nat.mul_le_mul_right _ (by omega)
    rw [run_tier]
    simp only [start]
    omega
  | some q =>
    have first := run_sliced layer tier steps q flying
    have short := ((tracked layer tier steps).flight q flying).1
    rw [run_tier] at first
    simp only [start] at first short
    obtain ⟨j, more⟩ : ∃ j, tier.slices = j + 1 := ⟨tier.slices - 1, by omega⟩
    rw [more, Nat.add_mul, Nat.one_mul] at covered
    have rest : (j + 1) * tier.perTick ≤ (n - j) * tier.perTick :=
      Nat.mul_le_mul_right _ (by omega)
    rw [Nat.add_mul, Nat.one_mul] at rest
    refine .stale q flying ?_ j (n - j) (by omega) ?_ ?_ <;> rw [run_tier] <;>
      simp only [start] <;> omega

/-- Whatever is published is a tally of at most as many cells as there are. -/
theorem run_consistent (fits : tier.volume < 2 ^ 64 - 1) :
    ((start layer tier).run steps).published.Consistent ∧
      ((start layer tier).run steps).published.total ≤ tier.volume := by
  rcases (tracked layer tier steps).published with ⟨-, empty⟩ |
    ⟨before, pass, after, centre, last, walk, tally⟩
  · rw [empty]
    refine ⟨⟨?_, Nat.le_refl 0⟩, Nat.zero_le tier.volume⟩
    intro e mem
    exact absurd mem List.not_mem_nil
  · have census := census_of_walk fits walk tally
    exact ⟨census.exact.consistent, census.total_le fits⟩

end Reachable

end Sweep

end AmbientSound
