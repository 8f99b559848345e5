import AmbientSound.Proofs.Census.Words
import AmbientSound.Proofs.Mix.AreaOrder
import AmbientSound.Proofs.Settings.Sanitizing
/-!
What can be relied on after sanitizing, whatever the settings were. All that is counted is in a
range that a session can run on. The singles are in the unit interval as long as they were numbers:
what is not a number passes the clamps, and as a floor it leaves the area law without values.
-/
namespace AmbientSound

section Floor

variable {floor : Float32} {n t : ℕ}

theorem AreaLaw.volume?_nan (nan : floor.isNaN = true) (present : 0 < n) (part : n < t) :
    (ofFloor floor).volume? n t = none := by
  have notAbsent : ¬ (n = 0 ∨ t = 0) := by omega
  have unordered : ¬ (ofFloor floor).floor ≤ 1 := by
    rw [ofFloor, Single.clampUnit, Single.clamp_nan nan]
    exact Single.not_nan_le nan 1
  rw [volume?, if_neg notAbsent, if_neg (by omega)]
  simp only [Single.clamp?, if_neg unordered]

theorem AreaLaw.volume?_eq_none_iff (fits : t ≤ 2 ^ 32) :
    (ofFloor floor).volume? n t = none ↔ floor.isNaN = true ∧ 0 < n ∧ n < t := by
  constructor
  · intro none
    by_cases absent : n = 0 ∨ t = 0
    · rw [volume?_absent absent] at none
      cases none
    rcases Nat.lt_or_ge n t with part | whole
    · cases number : floor.isNaN with
      | true => exact ⟨rfl, by omega, part⟩
      | false =>
        obtain ⟨v, valued, -⟩ := volume?_share (n := n) (ofFloor_sane number) fits
        rw [valued] at none
        cases none
    · rw [volume?_whole (by omega) whole] at none
      cases none
  · rintro ⟨nan, present, part⟩
    exact volume?_nan nan present part

end Floor

namespace Settings

def scans (s : Settings) : List Tier := [s.biome.scan, s.blocks.near, s.farTier]

structure Numeric (s : Settings) : Prop where
  master : s.master.isNaN = false
  ambient : s.ambient.isNaN = false
  floor : s.floor.isNaN = false

/-- All that is counted is in range, and sanitizing has nothing left to do. -/
structure Bounded (s : Settings) : Prop where
  interval : 1 ≤ s.interval
  cadence : ∀ t ∈ s.scans, 1 ≤ t.cadence
  volume : ∀ t ∈ s.scans, t.volume ≤ mostCells
  counted : ∀ t ∈ s.scans, ∀ ask centre, ∀ count ≤ t.volume,
    Sweep.countStretch? ask t centre count 0 .empty =
      some (Tally.ofCells ((t.stretch centre 0 count).map ask))
  settled : s.sanitized = s

/-- Safe to run: also the singles are in range, and the area law always has a value. -/
structure Usable (s : Settings) : Prop extends Bounded s where
  master : 0 ≤ s.master ∧ s.master ≤ 1
  ambient : 0 ≤ s.ambient ∧ s.ambient ≤ 1
  floor : 0 ≤ s.floor ∧ s.floor ≤ 1
  valued : ∀ n t : UInt32, ∃ v, (AreaLaw.ofFloor s.floor).volume? n.toNat t.toNat = some v

section Sanitized

variable (s : Settings)

theorem within_idem {lo hi : Int} (order : lo ≤ hi) (n : Int) :
    within lo hi (within lo hi n) = within lo hi n := by
  unfold within
  omega

theorem saneTier_idem (t : Tier) : saneTier (saneTier t) = saneTier t := by
  simp (disch := decide) only [saneTier, within_idem, Nat.max_assoc, Nat.max_self]

theorem sanitized_idem : s.sanitized.sanitized = s.sanitized := by
  simp (disch := decide) only [sanitized, Single.clampUnit_idem, saneTier_idem, within_idem,
    Nat.max_assoc, Nat.max_self]

theorem forall_scans (p : Tier → Prop) :
    (∀ t ∈ s.scans, p t) ↔ p s.biome.scan ∧ p s.blocks.near ∧ p s.farTier := by
  simp [scans]

theorem sanitized_cadence : ∀ t ∈ s.sanitized.scans, 1 ≤ t.cadence :=
  (forall_scans _ _).mpr ⟨Nat.le_max_right _ 1, Nat.le_max_right _ 1, Nat.le_max_right _ 1⟩

theorem sanitized_volume : ∀ t ∈ s.sanitized.scans, t.volume ≤ mostCells :=
  (forall_scans _ _).mpr ⟨s.volume_biome_le, s.volume_near_le, s.volume_far_le⟩

theorem countStretch?_of_small {t : Tier} (small : t.volume ≤ mostCells) (ask : Position → Cell)
    (centre : Position) {count : Nat} (part : count ≤ t.volume) :
    Sweep.countStretch? ask t centre count 0 .empty =
      some (Tally.ofCells ((t.stretch centre 0 count).map ask)) := by
  have fits : 0 + count < 2 ^ 32 := by
    rw [mostCells] at small
    omega
  have nothing : Tally.empty.AtMost 0 := Tally.ofCells_atMost []
  rw [Sweep.countStretch?_eq ask t centre count 0 fits nothing, Sweep.countStretch_eq]
  rfl

theorem sanitized_bounded : s.sanitized.Bounded where
  interval := Nat.le_max_right _ 1
  cadence := s.sanitized_cadence
  volume := s.sanitized_volume
  counted t mem ask centre _ := countStretch?_of_small (s.sanitized_volume t mem) ask centre
  settled := s.sanitized_idem

theorem usable_of_numeric (numeric : s.Numeric) : s.sanitized.Usable where
  toBounded := s.sanitized_bounded
  master := (Single.share_iff _).mp (Single.clampUnit_share numeric.master)
  ambient := (Single.share_iff _).mp (Single.clampUnit_share numeric.ambient)
  floor := (Single.share_iff _).mp (Single.clampUnit_share numeric.floor)
  valued n t := by
    have sane := AreaLaw.ofFloor_sane (s.floor_number numeric.floor)
    obtain ⟨v, valued, -⟩ := AreaLaw.volume?_share (n := n.toNat) sane t.toNat_lt.le
    exact ⟨v, valued⟩

theorem numeric_of_usable (usable : s.sanitized.Usable) : s.Numeric where
  master := (Single.clampUnit_share_iff _).mp ((Single.share_iff _).mpr usable.master)
  ambient := (Single.clampUnit_share_iff _).mp ((Single.share_iff _).mpr usable.ambient)
  floor := (Single.clampUnit_share_iff _).mp ((Single.share_iff _).mpr usable.floor)

end Sanitized

/-- Sanitizing bounds every settings, and makes exactly those usable whose singles are numbers.
With a floor that is not a number the area law fails on every region that is there but not all
there is. -/
theorem usable_iff_numeric (s : Settings) : s.sanitized.Bounded ∧
    (s.sanitized.Usable ↔ s.Numeric) ∧
    ∀ n t : UInt32, (AreaLaw.ofFloor s.sanitized.floor).volume? n.toNat t.toNat = none ↔
      s.floor.isNaN = true ∧ 0 < n ∧ n < t := by
  refine ⟨s.sanitized_bounded, ⟨s.numeric_of_usable, s.usable_of_numeric⟩, ?_⟩
  intro n t
  have same : AreaLaw.ofFloor s.sanitized.floor = AreaLaw.ofFloor s.floor :=
    congrArg AreaLaw.mk (Single.clampUnit_idem s.floor)
  rw [same]
  exact AreaLaw.volume?_eq_none_iff t.toNat_lt.le

def floorless : Settings := { standard with floor := Single.nan }

theorem floorless_not_usable : ¬ floorless.sanitized.Usable ∧
    (AreaLaw.ofFloor floorless.sanitized.floor).volume? 1 2 = none := by
  have nan : Single.nan.isNaN = true := by decide +kernel
  have kept : floorless.sanitized.floor = Single.nan := by
    change Single.clampUnit Single.nan = Single.nan
    exact Single.clamp_nan nan
  constructor
  · intro usable
    have number := (numeric_of_usable floorless usable).floor
    change Single.nan.isNaN = false at number
    rw [nan] at number
    cases number
  · rw [kept]
    exact AreaLaw.volume?_nan nan Nat.one_pos Nat.one_lt_two

end Settings

end AmbientSound
