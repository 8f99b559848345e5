import AmbientSound.Proofs.Mix.AreaVolume
/-!
The order of the volumes that the area law gives. A larger count or a smaller area never lowers the
volume of a region: the exact law has this order, each of its operations passes it on, and rounding
does not turn it round.
-/
namespace AmbientSound

open Single

namespace AreaLaw

section Order

variable {law : AreaLaw} {n k t u : ℕ}

theorem share_of_part (present : 0 < n) (part : n ≤ t) (fits : t ≤ 2 ^ 32) :
    Share (ofNat n / ofNat t) := by
  obtain ⟨s, weighs, -, le⟩ := share_weighs present part fits
  exact ⟨s, weighs, le⟩

/-- The count is rounded, the area is rounded, and then their quotient. -/
theorem share_mono (present : 0 < n) (more : n ≤ k) (part : k ≤ u) (smaller : u ≤ t)
    (fits : t ≤ 2 ^ 32) : ofNat n / ofNat t ≤ ofNat k / ofNat u := by
  obtain ⟨c, hc, roundsC, -, -⟩ := count_weighs present (by omega)
  obtain ⟨d, hd, roundsD, -, -⟩ := count_weighs (present.trans_le more) (by omega)
  obtain ⟨a, ha, roundsA, lowA, -⟩ := count_weighs (n := t) (by omega) fits
  obtain ⟨b, hb, roundsB, lowB, -⟩ := count_weighs (n := u) (by omega) (by omega)
  have counts : c ≤ d := roundsC.mono roundsD (by exact_mod_cast Nat.mul_le_mul_right _ more)
  have areas : b ≤ a := roundsB.mono roundsA (by exact_mod_cast Nat.mul_le_mul_right _ smaller)
  have some : 0 < b := oneUnits_pos.trans_le lowB
  obtain ⟨x, hx, -⟩ := share_of_part present (more.trans (part.trans smaller)) fits
  obtain ⟨y, hy, -⟩ := share_of_part (present.trans_le more) part (smaller.trans fits)
  rw [le_iff hx hy]
  refine (div_gives hc ha (by omega)).mono (div_gives hd hb some) ?_ hx hy
  have den : (0 : ℚ) < b := by exact_mod_cast some
  gcongr

theorem volume?_share (sane : law.Sane) (fits : t ≤ 2 ^ 32) :
    ∃ v, law.volume? n t = some v ∧ Share v := by
  by_cases absent : n = 0 ∨ t = 0
  · exact ⟨0, volume?_absent absent, zero_share⟩
  · have present : 0 < n := by omega
    obtain ⟨v, valued, audible, -⟩ := volume?_audible sane present (by omega) fits
    exact ⟨v, valued, audible.share⟩

theorem part_mono (sane : law.Sane) (present : 0 < n) (more : n ≤ k) (part : k < u)
    (smaller : u ≤ t) (fits : t ≤ 2 ^ 32) :
    clamp law.floor 1 (law.floor + (1 - law.floor) * (ofNat n / ofNat t)) ≤
      clamp law.floor 1 (law.floor + (1 - law.floor) * (ofNat k / ofNat u)) := by
  have floor : Share law.floor := sane
  have less := share_of_part present (more.trans (part.le.trans smaller)) fits
  have greater := share_of_part (present.trans_le more) part.le (smaller.trans fits)
  have products := floor.one_sub.mul_mono less greater (share_mono present more part.le smaller fits)
  have sums := floor.add_mono (floor.one_sub.mul less) (floor.one_sub.mul greater) products
  obtain ⟨a, low⟩ := floor.add_weighs (floor.one_sub.mul less)
  obtain ⟨b, high⟩ := floor.add_weighs (floor.one_sub.mul greater)
  obtain ⟨f, weighs, unit⟩ := sane
  exact clamp_mono weighs one_weighs unit low high ((le_iff low high).mp sums)

theorem volume?_mono (sane : law.Sane) (more : n ≤ k) (smaller : u ≤ t) (seen : 0 < u)
    (fits : t ≤ 2 ^ 32) {v w : Float32} (hv : law.volume? n t = some v)
    (hw : law.volume? k u = some w) : v ≤ w := by
  obtain ⟨v', valued, low⟩ := volume?_share (n := n) sane fits
  obtain ⟨w', valued', high⟩ := volume?_share (n := k) sane (smaller.trans fits)
  obtain rfl := Option.some.inj (valued.symm.trans hv)
  obtain rfl := Option.some.inj (valued'.symm.trans hw)
  by_cases none : n = 0
  · -- a region that is not there is silent
    rw [volume?_absent (.inl none)] at hv
    obtain rfl := Option.some.inj hv
    exact high.nonneg
  · rcases Nat.lt_or_ge k u with part | whole
    · rw [volume?_part sane (by omega) (by omega)] at hv hw
      obtain rfl := Option.some.inj hv
      obtain rfl := Option.some.inj hw
      exact part_mono sane (by omega) more part smaller fits
    · -- and one that is all there is has full volume
      rw [volume?_whole seen whole] at hw
      obtain rfl := Option.some.inj hw
      exact low.le_one

end Order

structure Proportions (floor : Float32) (volume : UInt32 → UInt32 → Float32) : Prop where
  absent : ∀ n t, n = 0 ∨ t = 0 → volume n t = 0
  present : ∀ n t, 0 < n → 0 < t →
    (volume n t).isNaN = false ∧ 0 < volume n t ∧ floor ≤ volume n t ∧ volume n t ≤ 1
  more : ∀ n k t, n ≤ k → volume n t ≤ volume k t
  diluted : ∀ n t u, 1 ≤ t → t ≤ u → volume n u ≤ volume n t

/-- With a floor in the unit interval the law always has a value, and its values are in proportion,
however they are rounded. -/
theorem volumes_in_proportion {floor : Float32} (low : 0 ≤ floor) (high : floor ≤ 1) :
    ∃ volume : UInt32 → UInt32 → Float32,
      (∀ n t, (ofFloor floor).volume? n.toNat t.toNat = some (volume n t)) ∧
        Proportions floor volume := by
  have share : Share floor := (share_iff floor).mpr ⟨low, high⟩
  obtain ⟨f, weighs, unit⟩ := id share
  have same : (ofFloor floor).floor = floor := clampUnit_eq_self weighs unit
  have sane : (ofFloor floor).Sane := by rwa [Sane, same]
  have fits (t : UInt32) : t.toNat ≤ 2 ^ 32 := t.toNat_lt.le
  choose volume valued shared using
    fun n t : UInt32 => volume?_share (n := n.toNat) sane (fits t)
  refine ⟨volume, valued, ?_, ?_, ?_, ?_⟩
  · intro n t absent
    have silent : (ofFloor floor).volume? n.toNat t.toNat = some 0 :=
      volume?_absent (absent.imp (congrArg UInt32.toNat) (congrArg UInt32.toNat))
    exact Option.some.inj ((valued n t).symm.trans silent)
  · intro n t present seen
    obtain ⟨v, valued', audible, least⟩ := volume?_audible sane present seen (fits t)
    obtain rfl := Option.some.inj ((valued n t).symm.trans valued')
    rw [same] at least
    exact ⟨(shared n t).number, audible.pos, least, (shared n t).le_one⟩
  · intro n k t more
    by_cases none : t.toNat = 0
    · have silent (n : UInt32) : volume n t = 0 :=
        Option.some.inj ((valued n t).symm.trans (volume?_absent (.inr none)))
      rw [silent, silent]
      exact zero_share.le_refl
    · exact volume?_mono sane more le_rfl (by omega) (fits t) (valued n t) (valued k t)
  · intro n t u seen larger
    exact volume?_mono sane le_rfl larger seen (fits u) (valued n u) (valued n t)

theorem standard_volumes_in_proportion : (0 ≤ standardFloor ∧ standardFloor ≤ 1) ∧
    ∃ volume : UInt32 → UInt32 → Float32,
      (∀ n t, (ofFloor standardFloor).volume? n.toNat t.toNat = some (volume n t)) ∧
        Proportions standardFloor volume := by
  have low : 0 ≤ standardFloor := by decide +kernel
  have high : standardFloor ≤ 1 := by decide +kernel
  exact ⟨⟨low, high⟩, volumes_in_proportion low high⟩

end AreaLaw

end AmbientSound
