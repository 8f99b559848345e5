import Mathlib
import AmbientSound.Number.Exact
/-!
Numbers as a binary format holds them: the exponent is the one that the format gives to the number,
and is not too large. Such a number survives the packing into bits, and all that bits are unpacked
to is one. Between formats a number that both hold goes over as it is.
-/
namespace AmbientSound

open Float.Model (Format UnpackedFloat totalExponent)
open Float.Model.UnpackedFloat

variable {F : Format} {s : Sign} {m : ℕ} {e : ℤ}

theorem minExponent_eq (F : Format) :
    F.minExponent = 1 - (F.exponentBias : ℤ) - F.mantissaBitsWithoutImplicit := by
  have power : 0 < 2 ^ (F.exponentBits - 1) := Nat.two_pow_pos _
  simp only [Format.minExponent, Format.exponentBias, Format.mantissaBits, Nat.cast_pred power]
  push_cast
  ring

theorem exponents_eq (F : Format) : 2 ^ F.exponentBits = 2 * F.exponentBias + 2 := by
  have double := Nat.two_pow_pred_mul_two F.he
  have power : 0 < 2 ^ (F.exponentBits - 1) := Nat.two_pow_pos _
  rw [Format.exponentBias]
  omega

structure Held (F : Format) (m : ℕ) (e : ℤ) : Prop where
  placed : F.targetExponent (totalExponent m e) = e
  fits : e + F.mantissaBitsWithoutImplicit ≤ F.exponentBias

theorem placed_iff : F.targetExponent (totalExponent m e) = e ↔
    m.log2 ≤ F.mantissaBitsWithoutImplicit ∧ F.minExponent ≤ e ∧
      (m.log2 = F.mantissaBitsWithoutImplicit ∨ e = F.minExponent) := by
  simp only [Format.targetExponent, totalExponent, Format.mantissaBits]
  omega

section Bits

theorem toNat_implicit_append {n : ℕ} (b : BitVec n) : (1#1 ++ b).toNat = 2 ^ n + b.toNat := by
  have apart := Nat.two_pow_add_eq_or_of_lt b.isLt 1
  rw [mul_one] at apart
  rw [BitVec.toNat_append, Nat.shiftLeft_eq, apart]
  simp

theorem log2_implicit_append {n : ℕ} (b : BitVec n) : (1#1 ++ b).toNat.log2 = n := by
  have below := b.isLt
  have value := toNat_implicit_append b
  have pos : (1#1 ++ b).toNat ≠ 0 := by
    rw [value]
    exact (Nat.add_pos_left (Nat.two_pow_pos n) _).ne'
  rw [Nat.log2_eq_iff pos, value, pow_succ]
  omega

theorem ofNat_implicit_append {n : ℕ} (b : BitVec n) : BitVec.ofNat n (1#1 ++ b).toNat = b := by
  apply BitVec.eq_of_toNat_eq
  rw [BitVec.toNat_ofNat, toNat_implicit_append, Nat.add_mod_left, Nat.mod_eq_of_lt b.isLt]

theorem unpackSign_packComponents (s : Sign) (exponent : BitVec F.exponentBits)
    (mantissa : BitVec F.mantissaBitsWithoutImplicit) :
    Sign.ofBitVec (unpackSign (packComponents F s exponent mantissa)) = s := by
  have bits : unpackSign (packComponents F s exponent mantissa) = s.toBitVec := by
    apply BitVec.eq_of_getLsbD_eq
    intro i less
    obtain rfl : i = 0 := by omega
    simp [unpackSign, packComponents, BitVec.getLsbD_append, BitVec.getElem_append]
  rw [bits]
  cases s <;> rfl

theorem packComponents_unpack (b : BitVec F.numBits) :
    packComponents F (Sign.ofBitVec (unpackSign b)) (unpackExponent b) (unpackMantissa b) = b := by
  have sign : ∀ c : BitVec 1, (Sign.ofBitVec c).toBitVec = c := by decide
  have some := F.hm
  have some' := F.he
  apply BitVec.eq_of_getLsbD_eq
  intro i less
  rw [packComponents, sign]
  simp only [BitVec.getLsbD_append, unpackMantissa, unpackExponent, unpackSign, BitVec.getLsbD_cast,
    BitVec.getLsbD_extract]
  grind

end Bits

section Fields

theorem neg_one_toNat (n : ℕ) : (-1#n).toNat = 2 ^ n - 1 := by
  rw [BitVec.neg_one_eq_allOnes, BitVec.toNat_allOnes]

theorem toNat_ofNat_of_lt {n k : ℕ} (less : k < 2 ^ n) : (BitVec.ofNat n k).toNat = k := by
  rw [BitVec.toNat_ofNat, Nat.mod_eq_of_lt less]

theorem ofNat_ne_zero {n k : ℕ} (some_ : k ≠ 0) (less : k < 2 ^ n) : BitVec.ofNat n k ≠ 0#n := by
  intro same
  have values := congrArg BitVec.toNat same
  rw [toNat_ofNat_of_lt less, BitVec.toNat_zero] at values
  exact some_ values

theorem ofNat_ne_neg_one {n k : ℕ} (less : k + 1 < 2 ^ n) : BitVec.ofNat n k ≠ -1#n := by
  intro same
  have values := congrArg BitVec.toNat same
  rw [neg_one_toNat, toNat_ofNat_of_lt (by omega)] at values
  omega

theorem toNat_succ_lt {n : ℕ} {b : BitVec n} (notTop : b ≠ -1#n) : b.toNat + 1 < 2 ^ n := by
  have less := b.isLt
  have other : b.toNat ≠ 2 ^ n - 1 := by
    rw [← neg_one_toNat]
    exact fun top => notTop (BitVec.eq_of_toNat_eq top)
  omega

theorem implicit_append_ofNat {n m : ℕ} (pos : 0 < m) (bits : m.log2 = n) :
    (1#1 ++ BitVec.ofNat n m).toNat = m := by
  obtain ⟨above, below⟩ := (Nat.log2_eq_iff pos.ne').mp bits
  rw [pow_succ] at below
  rw [toNat_implicit_append, BitVec.toNat_ofNat, Nat.mod_eq_sub_mod above,
    Nat.mod_eq_of_lt (by omega)]
  omega

theorem pack_normal (s : Sign) (pos : 0 < m) (bits : m.log2 = F.mantissaBitsWithoutImplicit) {b : ℕ}
    (biased : (b : ℤ) = e + F.exponentBias + F.mantissaBitsWithoutImplicit)
    (high : b + 1 < 2 ^ F.exponentBits) : pack F (.finite s m e pos) =
      packComponents F s (BitVec.ofNat _ b) (BitVec.ofNat _ m) := by
  have exponent : (e + F.exponentBias + F.mantissaBitsWithoutImplicit).toNat = b := by omega
  have full : m.log2 + 1 = F.mantissaBits := by rw [bits, Format.mantissaBits, Nat.add_comm]
  simp only [pack, exponent, if_neg high.not_ge, if_pos full]

theorem pack_subnormal (s : Sign) (pos : 0 < m) (bits : m.log2 < F.mantissaBitsWithoutImplicit)
    (low : e + F.mantissaBitsWithoutImplicit ≤ F.exponentBias) :
    pack F (.finite s m e pos) = packComponents F s 0#_ (BitVec.ofNat _ m) := by
  have most := exponents_eq F
  have short : m.log2 + 1 ≠ F.mantissaBits := by
    rw [Format.mantissaBits]
    omega
  unfold pack
  dsimp only
  rw [if_neg (by omega), if_neg short]

theorem unpack_normal (s : Sign) (pos : 0 < m) (bits : m.log2 = F.mantissaBitsWithoutImplicit)
    {b : ℕ} (biased : (b : ℤ) = e + F.exponentBias + F.mantissaBitsWithoutImplicit) (low : 0 < b)
    (high : b + 1 < 2 ^ F.exponentBits) :
    unpack F (packComponents F s (BitVec.ofNat _ b) (BitVec.ofNat _ m)) = .finite s m e pos := by
  have exponent := toNat_ofNat_of_lt (Nat.lt_of_succ_lt high)
  unfold unpack
  simp only [unpackMantissa_packComponents, unpackExponent_packComponents,
    unpackSign_packComponents, if_neg (ofNat_ne_neg_one high),
    if_neg (ofNat_ne_zero low.ne' (Nat.lt_of_succ_lt high)), exponent,
    implicit_append_ofNat pos bits]
  congr 1
  omega

theorem unpack_subnormal (s : Sign) (pos : 0 < m) (bits : m.log2 < F.mantissaBitsWithoutImplicit) :
    unpack F (packComponents F s 0#_ (BitVec.ofNat _ m)) = .finite s m F.minExponent pos := by
  have least := minExponent_eq F
  have most := exponents_eq F
  have less : m < 2 ^ F.mantissaBitsWithoutImplicit := (Nat.log2_lt pos.ne').mp bits
  have notTop := ofNat_ne_neg_one (n := F.exponentBits) (k := 0) (by omega)
  unfold unpack
  simp only [unpackMantissa_packComponents, unpackExponent_packComponents,
    unpackSign_packComponents, if_neg notTop, ↓reduceIte, dif_neg (ofNat_ne_zero pos.ne' less),
    toNat_ofNat_of_lt less]
  congr 1
  rw [BitVec.toNat_ofNat, Nat.zero_mod]
  omega

end Fields

theorem Held.unpack_pack (h : Held F m e) (s : Sign) (pos : 0 < m) :
    unpack F (pack F (.finite s m e pos)) = .finite s m e pos := by
  obtain ⟨short, low, normal⟩ := placed_iff.mp h.placed
  have least := minExponent_eq F
  have most := exponents_eq F
  have fits := h.fits
  rcases Nat.lt_or_eq_of_le short with short | full
  · obtain rfl : e = F.minExponent := normal.resolve_left short.ne
    rw [pack_subnormal s pos short fits, unpack_subnormal s pos short]
  · obtain ⟨b, biased⟩ : ∃ b : ℕ, (b : ℤ) = e + F.exponentBias + F.mantissaBitsWithoutImplicit :=
      ⟨(e + F.exponentBias + F.mantissaBitsWithoutImplicit).toNat, by omega⟩
    rw [pack_normal s pos full biased (by omega), unpack_normal s pos full biased (by omega) (by omega)]

theorem pack_beyond (s : Sign) (pos : 0 < m)
    (large : (F.exponentBias : ℤ) < e + F.mantissaBitsWithoutImplicit) :
    pack F (.finite s m e pos) = packedInfinity F s := by
  have most := exponents_eq F
  exact if_pos (by omega)

/-- What bits are unpacked to: by their fields, or as the number that is packed into them. -/
inductive Unpacks (b : BitVec F.numBits) : UnpackedFloat → Prop where
  | infinity (top : unpackExponent b = -1#F.exponentBits)
      (none : unpackMantissa b = 0#F.mantissaBitsWithoutImplicit) :
      Unpacks b (.infinity (Sign.ofBitVec (unpackSign b)))
  | notANumber (top : unpackExponent b = -1#F.exponentBits)
      (some : unpackMantissa b ≠ 0#F.mantissaBitsWithoutImplicit) : Unpacks b .notANumber
  | zero (bottom : unpackExponent b = 0#F.exponentBits)
      (none : unpackMantissa b = 0#F.mantissaBitsWithoutImplicit) :
      Unpacks b (.zero (Sign.ofBitVec (unpackSign b)))
  | finite (s : Sign) (m : ℕ) (e : ℤ) (pos : 0 < m) (held : Held F m e)
      (packed : pack F (.finite s m e pos) = b) : Unpacks b (.finite s m e pos)

theorem one_le_bias (wide : 1 < F.exponentBits) : 1 ≤ F.exponentBias := by
  have power : 2 ^ 1 ≤ 2 ^ (F.exponentBits - 1) := Nat.pow_le_pow_right (by decide) (by omega)
  unfold Format.exponentBias
  omega

theorem Unpacks.subnormal (wide : 1 < F.exponentBits) {b : BitVec F.numBits}
    (bottom : unpackExponent b = 0#F.exponentBits) (pos : 0 < (unpackMantissa b).toNat)
    {e : ℤ} (lowest : e = F.minExponent) :
    Unpacks b (.finite (.ofBitVec (unpackSign b)) (unpackMantissa b).toNat e pos) := by
  have least := minExponent_eq F
  have bias := one_le_bias wide
  have whole := packComponents_unpack b
  have short := (Nat.log2_lt pos.ne').mpr (unpackMantissa b).isLt
  refine .finite _ _ _ pos ⟨placed_iff.mpr ⟨by omega, by omega, .inr lowest⟩, by omega⟩ ?_
  rw [pack_subnormal _ pos short (by omega), BitVec.ofNat_toNat, BitVec.setWidth_eq]
  rw [bottom] at whole
  exact whole

theorem Unpacks.normal {b : BitVec F.numBits} (low : unpackExponent b ≠ 0#F.exponentBits)
    (high : unpackExponent b ≠ -1#F.exponentBits) (pos : 0 < (1#1 ++ unpackMantissa b).toNat)
    {e : ℤ} (biased : ((unpackExponent b).toNat : ℤ) =
      e + F.exponentBias + F.mantissaBitsWithoutImplicit) :
    Unpacks b (.finite (.ofBitVec (unpackSign b)) (1#1 ++ unpackMantissa b).toNat e pos) := by
  have least := minExponent_eq F
  have most := exponents_eq F
  have above : (unpackExponent b).toNat ≠ 0 := fun zero => low (BitVec.eq_of_toNat_eq zero)
  have below := toNat_succ_lt high
  have bits := log2_implicit_append (unpackMantissa b)
  refine .finite _ _ _ pos ⟨placed_iff.mpr ⟨by omega, by omega, .inl bits⟩, by omega⟩ ?_
  rw [pack_normal _ pos bits biased below, ofNat_implicit_append, BitVec.ofNat_toNat,
    BitVec.setWidth_eq]
  exact packComponents_unpack b

theorem unpacks (wide : 1 < F.exponentBits) (b : BitVec F.numBits) : Unpacks b (unpack F b) := by
  have least := minExponent_eq F
  unfold unpack
  dsimp only
  split
  · rename_i top
    split
    · rename_i none
      exact .infinity top none
    · rename_i some
      exact .notANumber top some
  · rename_i notTop
    split
    · rename_i bottom
      split
      · rename_i none
        exact .zero bottom none
      · rw [bottom, BitVec.toNat_ofNat, Nat.zero_mod]
        exact .subnormal wide bottom _ (by omega)
    · rename_i notBottom
      exact .normal notBottom notTop _ (by omega)

theorem pack_unpack (wide : 1 < F.exponentBits) {b : BitVec F.numBits} (valid : F.Valid b) :
    pack F (unpack F b) = b := by
  have whole := packComponents_unpack b
  have shape := unpacks wide b
  generalize unpack F b = u at shape
  cases shape with
  | infinity top none =>
    rw [top, none] at whole
    exact whole
  | notANumber top some => exact (valid.eq_packedNaN top some).symm
  | zero bottom none =>
    rw [bottom, none] at whole
    exact whole
  | finite s m e pos held packed => exact packed

section Exact

theorem log2_shiftLeft {m : ℕ} (pos : 0 < m) (n : ℕ) : (m <<< n).log2 = m.log2 + n := by
  induction n with
  | zero => rfl
  | succ n ih =>
    have nonzero : m <<< n ≠ 0 := (Nat.shiftLeft_pos_iff.mpr pos).ne'
    rw [Nat.shiftLeft_succ, Nat.log2_two_mul nonzero, ih, Nat.add_assoc]

theorem totalExponent_shiftLeft (pos : 0 < m) (n : ℕ) :
    totalExponent (m <<< n) (e - n) = totalExponent m e := by
  rw [totalExponent, totalExponent, log2_shiftLeft pos]
  omega

theorem shiftRight_shiftLeft (m n : ℕ) :
    (⟨m <<< n, false, false⟩ : ExtendedMantissa) >>> n = ⟨m, false, false⟩ := by
  change n.repeat ExtendedMantissa.shiftRightOne _ = _
  induction n generalizing m with
  | zero => rfl
  | succ n ih =>
    rw [Nat.shiftLeft_succ_inside, Nat.repeat, ih]
    simp [ExtendedMantissa.shiftRightOne]

theorem shiftToTargetExponent_shiftLeft (placed : F.targetExponent (totalExponent m e) = e)
    (pos : 0 < m) (n : ℕ) :
    shiftToTargetExponent F (m <<< n) (e - n) .exact = (⟨m, false, false⟩, e) := by
  have amount : (e - (e - n)).toNat = n := by omega
  have back : e - n + (n : ℤ) = e := by omega
  have shifted : ExtendedMantissa.ofMantissaAndAccuracy (m <<< n) .exact >>> n = ⟨m, false, false⟩ :=
    shiftRight_shiftLeft m n
  simp only [shiftToTargetExponent, shiftToExponent, totalExponent_shiftLeft pos, placed, amount, back,
    shifted]

theorem roundWithAccuracy_shiftLeft (placed : F.targetExponent (totalExponent m e) = e)
    (s : Sign) (pos : 0 < m) (n : ℕ) :
    roundWithAccuracy F s (m <<< n) (e - n) .exact = .finite s m e pos := by
  have once := shiftToTargetExponent_shiftLeft placed pos n
  have again : shiftToTargetExponent F m e .exact = (⟨m, false, false⟩, e) := by
    simpa using shiftToTargetExponent_shiftLeft placed pos 0
  have rounded : (⟨m, false, false⟩ : ExtendedMantissa).roundedMantissa = m := rfl
  simp only [roundWithAccuracy, once, rounded, again, pos.ne', ↓reduceDIte]

theorem round_shiftLeft (placed : F.targetExponent (totalExponent m e) = e) (s : Sign) (pos : 0 < m)
    (n : ℕ) : UnpackedFloat.round F s (m <<< n) (e - n) = .finite s m e pos := by
  have none : (e - n - e).toNat = 0 := by omega
  have lowered : decreaseExponent (m <<< n) (e - n) e = (m <<< n, e - n) := by
    simp only [decreaseExponent, none, Nat.shiftLeft_zero, Int.natCast_zero, sub_zero]
  simp only [UnpackedFloat.round, totalExponent_shiftLeft pos, placed, lowered, roundWithAccuracy_shiftLeft placed s pos]

/-- Rounding to a format with a longer mantissa. -/
theorem round_longer {n : ℕ} (target : F.targetExponent (totalExponent m e) = e - n) (s : Sign)
    (pos : 0 < m) : UnpackedFloat.round F s m e = .finite s (m <<< n) (e - n) (Nat.shiftLeft_pos_iff.mpr pos) := by
  have placed : F.targetExponent (totalExponent (m <<< n) (e - n)) = e - n := by
    rw [totalExponent_shiftLeft pos, target]
  have amount : (e - (e - n)).toNat = n := by omega
  have kept := roundWithAccuracy_shiftLeft placed s (Nat.shiftLeft_pos_iff.mpr pos) 0
  simp only [Nat.shiftLeft_zero, Int.natCast_zero, sub_zero] at kept
  simp only [UnpackedFloat.round, target, decreaseExponent, amount, kept]

end Exact

section Formats

theorem single_wide : 1 < Format.binary32.exponentBits := by decide

theorem double_wide : 1 < Format.binary64.exponentBits := by decide

theorem reround_double (held : Held .binary32 m e) (s : Sign) (pos : 0 < m) :
    ∃ n : ℕ, Held .binary64 (m <<< n) (e - n) ∧ reround .binary64 (.finite s m e pos) =
      .finite s (m <<< n) (e - n) (Nat.shiftLeft_pos_iff.mpr pos) := by
  obtain ⟨short, low, -⟩ := placed_iff.mp held.placed
  have fits := held.fits
  have least : Format.binary32.minExponent = -149 := by decide
  have least' : Format.binary64.minExponent = -1074 := by decide
  have bias : Format.binary32.exponentBias = 127 := by decide
  have bias' : Format.binary64.exponentBias = 1023 := by decide
  simp only at short fits
  have bits : (m <<< (52 - m.log2)).log2 = 52 := by
    rw [log2_shiftLeft pos]
    omega
  have placed : Format.binary64.targetExponent (totalExponent (m <<< (52 - m.log2))
      (e - (52 - m.log2 : ℕ))) = e - (52 - m.log2 : ℕ) :=
    placed_iff.mpr ⟨bits.le, by omega, .inl bits⟩
  refine ⟨52 - m.log2, ⟨placed, ?_⟩, ?_⟩
  · simp only
    omega
  · rw [totalExponent_shiftLeft pos] at placed
    exact round_longer placed s pos

theorem reround_single (held : Held .binary32 m e) (s : Sign) (pos : 0 < m) {n : ℕ}
    (pos' : 0 < m <<< n) :
    reround .binary32 (.finite s (m <<< n) (e - n) pos') = .finite s m e pos :=
  round_shiftLeft held.placed s pos n

theorem pack_unpack_single (x : Float32) : .ofModel (.pack x.toModel.unpack) = x := by
  obtain ⟨⟨bits, valid⟩⟩ := x
  have packed : pack .binary32 (unpack .binary32 bits.toBitVec) = bits.toBitVec :=
    pack_unpack single_wide valid
  change (⟨⟨.ofBitVec (pack .binary32 (unpack .binary32 bits.toBitVec)), _⟩⟩ : Float32) = _
  congr

theorem pack_unpack_double (x : Float) : .ofModel (.pack x.toModel.unpack) = x := by
  obtain ⟨⟨bits, valid⟩⟩ := x
  have packed : pack .binary64 (unpack .binary64 bits.toBitVec) = bits.toBitVec :=
    pack_unpack double_wide valid
  change (⟨⟨.ofBitVec (pack .binary64 (unpack .binary64 bits.toBitVec)), _⟩⟩ : Float) = _
  congr

namespace Single

variable (x : Float32)

theorem unpack_shape : Unpacks (F := .binary32) x.toModel.toBits.toBitVec x.toModel.unpack :=
  unpacks single_wide _

theorem unpack_toDouble : (toDouble x).toModel.unpack = reround .binary64 x.toModel.unpack := by
  change unpack .binary64 (pack .binary64 (reround .binary64 x.toModel.unpack)) = _
  have shape := unpack_shape x
  generalize x.toModel.unpack = u at shape
  cases shape with
  | infinity top none => cases Sign.ofBitVec _ <;> rfl
  | notANumber top some => rfl
  | zero bottom none => cases Sign.ofBitVec _ <;> rfl
  | finite s m e pos held packed =>
    obtain ⟨n, longer, same⟩ := reround_double held s pos
    rw [same, longer.unpack_pack]

@[simp] theorem ofDouble_toDouble : ofDouble (toDouble x) = x := by
  have back : reround .binary32 (toDouble x).toModel.unpack = x.toModel.unpack := by
    rw [unpack_toDouble]
    have shape := unpack_shape x
    generalize x.toModel.unpack = u at shape
    cases shape with
    | finite s m e pos held packed =>
      obtain ⟨n, longer, same⟩ := reround_double held s pos
      rw [same, reround_single held]
    | _ => rfl
  rw [ofDouble, back, pack_unpack_single]

theorem isNaN_toDouble : (toDouble x).isNaN = x.isNaN := by
  change (toDouble x).toModel.unpack.isNaN = x.toModel.unpack.isNaN
  rw [unpack_toDouble]
  have shape := unpack_shape x
  generalize x.toModel.unpack = u at shape
  cases shape with
  | finite s m e pos held packed =>
    obtain ⟨n, longer, same⟩ := reround_double held s pos
    rw [same]
    rfl
  | _ => rfl

end Single

end Formats

end AmbientSound
