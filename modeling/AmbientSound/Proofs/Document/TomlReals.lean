import AmbientSound.Proofs.Document.TomlScalars
import AmbientSound.Proofs.Number.Shortest
/-!
Doubles of TOML as they are written: the shortest digits that only one double owns, with the point
among them. Every double that is a number is read from its text.
-/
namespace AmbientSound.Toml

open Float.Model (Format UnpackedFloat)
open Float.Model.UnpackedFloat

structure Leading (cs : List Char) (n : ℕ) : Prop where
  digits : ∀ c ∈ cs, c.isDigit = true
  some_ : cs ≠ []
  lead : cs.head? ≠ some '0'
  number : Nat.ofDigitChars 10 cs 0 = n

theorem leading_toDigits {n : ℕ} (some_ : n ≠ 0) : Leading (Nat.toDigits 10 n) n :=
  ⟨fun _ => isDigit_of_mem_toDigits, Nat.toDigits_ne_nil, head?_toDigits some_,
    Nat.ofDigitChars_ten_toDigits⟩

/-- The parts of a decimal in front of its point and behind it. -/
structure Pointed (whole fraction : List Char) (v : ℚ) : Prop where
  front : Whole whole
  digits : ∀ c ∈ fraction, c.isDigit = true
  some_ : fraction ≠ []
  value : (Nat.ofDigitChars 10 (whole ++ fraction) 0 : ℚ) / 10 ^ fraction.length = v

theorem Pointed.digits_value {whole fraction : List Char} {v : ℚ} (h : Pointed whole fraction v) :
    (digitsValue 10 (digitValues whole ++ digitValues fraction) : ℚ) /
      10 ^ (digitValues fraction).length = v := by
  have together : digitsValue 10 (digitValues whole ++ digitValues fraction) =
      Nat.ofDigitChars 10 (whole ++ fraction) 0 := by
    rw [← digitsValue_digitValues, digitValues, digitValues, digitValues, List.map_append]
  rw [together, digitValues, List.length_map]
  exact h.value

section Points

variable {cs : List Char} {n k : ℕ}

theorem isDigit_of_mem_zeros {c : Char} (mem : c ∈ List.replicate k '0') : c.isDigit = true := by
  rw [(List.mem_replicate.mp mem).2]
  rfl

theorem Leading.padded (h : Leading cs n) (k : ℕ) :
    Pointed (cs ++ List.replicate k '0') ['0'] (n * 10 ^ k) := by
  refine ⟨⟨?_, ?_, .inr ?_⟩, by simp, by simp, ?_⟩
  · intro c mem
    rcases List.mem_append.mp mem with mem | mem
    · exact h.digits c mem
    · exact isDigit_of_mem_zeros mem
  · exact List.append_ne_nil_of_left_ne_nil h.some_ _
  · rw [List.head?_append_of_ne_nil _ h.some_]
    exact h.lead
  · rw [Nat.ofDigitChars_append, Nat.ofDigitChars_append, h.number, Nat.ofDigitChars_replicate_zero,
      Nat.ofDigitChars_cons, Nat.ofDigitChars_nil, List.length_singleton]
    push_cast
    ring

theorem Leading.cut (h : Leading cs n) (some_ : 0 < k) (less : k < cs.length) :
    Pointed (cs.take (cs.length - k)) (cs.drop (cs.length - k)) (n / 10 ^ k) := by
  refine ⟨⟨?_, ?_, .inr ?_⟩, ?_, ?_, ?_⟩
  · exact fun c mem => h.digits c (List.mem_of_mem_take mem)
  · exact List.ne_nil_of_length_pos (by rw [List.length_take]; omega)
  · rw [List.head?_take, if_neg (by omega)]
    exact h.lead
  · exact fun c mem => h.digits c (List.mem_of_mem_drop mem)
  · exact List.ne_nil_of_length_pos (by rw [List.length_drop]; omega)
  · have count : cs.length - (cs.length - k) = k := by omega
    rw [List.take_append_drop, h.number, List.length_drop, count]

theorem Leading.behind (h : Leading cs n) (more : cs.length ≤ k) :
    Pointed ['0'] (List.replicate (k - cs.length) '0' ++ cs) (n / 10 ^ k) := by
  refine ⟨⟨by simp, by simp, .inl rfl⟩, ?_, ?_, ?_⟩
  · intro c mem
    rcases List.mem_append.mp mem with mem | mem
    · exact isDigit_of_mem_zeros mem
    · exact h.digits c mem
  · exact List.append_ne_nil_of_right_ne_nil _ h.some_
  · have count : k - cs.length + cs.length = k := by omega
    rw [List.length_append, List.length_replicate, count, List.singleton_append,
      Nat.ofDigitChars_cons, Nat.ofDigitChars_append, Nat.ofDigitChars_replicate_zero]
    simp only [Nat.mul_zero, Nat.sub_self, Nat.add_zero, h.number]

end Points

theorem toList_zeros (n : ℕ) : (Layout.zeros n).toList = List.replicate n '0' := String.toList_ofList

theorem plainText_pointed {d : Decimal} (some_ : d.digits ≠ 0) : ∃ whole fraction,
    (realLayout.plainText d).toList = whole ++ '.' :: fraction ∧ Pointed whole fraction d.value := by
  have leading := leading_toDigits some_
  have text : (toString d.digits).toList = Nat.toDigits 10 d.digits := Nat.toList_repr
  have length : (toString d.digits).length = (Nat.toDigits 10 d.digits).length := by
    rw [← text, String.length_toList]
  unfold Layout.plainText Decimal.value
  dsimp only
  generalize Nat.toDigits 10 d.digits = cs at *
  generalize toString d.digits = ds at *
  split
  · rename_i nonneg
    have power : (10 : ℚ) ^ d.exponent = 10 ^ d.exponent.toNat := by
      rw [← zpow_natCast, Int.toNat_of_nonneg nonneg]
    rw [power]
    exact ⟨_, _, by simp [text, toList_zeros, realLayout], leading.padded _⟩
  · rename_i negative
    have power : (d.digits : ℚ) * 10 ^ d.exponent = d.digits / 10 ^ (-d.exponent).toNat := by
      rw [← zpow_natCast, Int.toNat_of_nonneg (by omega), zpow_neg, div_inv_eq_mul]
    have some_ : 0 < (-d.exponent).toNat := by omega
    rw [power]
    split
    · rename_i less
      rw [length] at less
      exact ⟨_, _, by simp [text, length], leading.cut some_ less⟩
    · rename_i more
      rw [length, not_lt] at more
      exact ⟨_, _, by simp [text, length, toList_zeros], leading.behind more⟩

section Doubles

variable {y : Float} {s : Sign} {m : ℕ} {e : ℤ} {pos : 0 < m}

theorem ne_infinity (held : Held .binary64 m e) (s : Sign) (pos : 0 < m) :
    (Float.ofModel (.pack (.finite s m e pos)) == Double.infinity) = false := by
  have back := held.unpack_pack s pos
  change (unpack .binary64 (pack .binary64 (.finite s m e pos))).beq
    (unpack .binary64 (pack .binary64 (.infinity .positive))) = false
  rw [back]
  cases s <;> rfl

theorem signOfNegative_beq (s : Sign) : signOfNegative (s == .negative) = s := by
  cases s <;> rfl

theorem double_written {x : Exact} (exactly : Double.exactly? y = some x) (some_ : x.mantissa ≠ 0) :
    (realLayout.double y).toList =
      signText x.negative ++ (realLayout.plainText (x.shortest .away .double)).toList := by
  have digits : realLayout.magnitudeText .double x =
      realLayout.plainText (x.shortest .away .double) := by
    rw [Layout.magnitudeText, if_neg some_]
    rfl
  rw [Layout.double, exactly]
  change ((if x.negative then "-" else "") ++ realLayout.magnitudeText .double x).toList = _
  rw [digits, String.toList_append]
  cases x.negative <;> rfl

theorem reads_finite (shape : y.toModel.unpack = .finite s m e pos) (held : Held .binary64 m e) :
    Reads (realLayout.double y) (.double y) := by
  generalize number : (⟨s == .negative, m, e⟩ : Exact) = x
  obtain rfl : x.mantissa = m := by rw [← number]
  obtain rfl : x.exponent = e := by rw [← number]
  have sign : signOfNegative x.negative = s := by
    rw [← number]
    exact signOfNegative_beq s
  have exactly : Double.exactly? y = some x := by
    rw [Double.exactly?, shape]
    exact congrArg some number
  have owns := Exact.shortest_owned held pos .away
  have positive := Exact.shortest_pos held pos .away
  obtain ⟨whole, fraction, text, parts⟩ := plainText_pointed (Decimal.digits_ne_zero positive)
  have written : (realLayout.double y).toList = signText x.negative ++ whole ++ '.' :: fraction := by
    rw [double_written exactly pos.ne', text, List.append_assoc]
  have quotient := parts.digits_value
  have some_ : 0 < digitsValue 10 (digitValues whole ++ digitValues fraction) := by
    refine Nat.pos_of_ne_zero ?_
    intro zero
    rw [zero, Nat.cast_zero, zero_div] at quotient
    exact positive.ne quotient
  have two : (2 : ℚ) ^ x.exponent ≠ 0 := by positivity
  rw [← div_mul_cancel₀ (x.shortest .away .double).value two] at quotient
  have nearest : Numeral.nearest ⟨x.negative, digitValues whole, digitValues fraction, false, []⟩ =
      .ofModel (.pack (.finite s x.mantissa x.exponent pos)) := by
    rw [owns.numeral held pos x.negative some_ (by simpa [digitValues] using parts.some_) quotient,
      sign]
  have reads := reads_real written parts.front parts.digits parts.some_
    (by rw [nearest, ne_infinity held])
  rwa [nearest, ← shape, pack_unpack_double] at reads

end Doubles

theorem reads_zero (s : Sign) : Reads (realLayout.double (.ofModel (.pack (.zero s))))
    (.double (.ofModel (.pack (.zero s)))) := by
  have written : (realLayout.double (.ofModel (.pack (.zero s)))).toList =
      signText (s == .negative) ++ ['0'] ++ '.' :: ['0'] := by
    cases s <;> decide +kernel
  have nearest : Numeral.nearest ⟨s == .negative, digitValues ['0'], digitValues ['0'], false, []⟩ =
      .ofModel (.pack (.zero s)) := by
    cases s <;> rfl
  have finite : (Float.ofModel (.pack (.zero s)) == Double.infinity) = false := by
    cases s <;> decide +kernel
  have whole : Whole ['0'] := ⟨by simp, by simp, .inl rfl⟩
  have reads := reads_real written whole (by simp) (by simp) (by rw [nearest, finite])
  rwa [nearest] at reads

theorem reads_double {y : Float} (number : y.isNaN = false) :
    Reads (realLayout.double y) (.double y) := by
  have shape : Unpacks (F := .binary64) y.toModel.toBits.toBitVec y.toModel.unpack :=
    unpacks double_wide _
  have back := pack_unpack_double y
  generalize u_eq : y.toModel.unpack = u at shape back
  cases shape with
  | infinity top none =>
    generalize Sign.ofBitVec _ = s at back
    subst back
    cases s with
    | negative => exact reads_infinity true
    | positive => exact reads_infinity false
  | notANumber top some =>
    subst back
    cases number
  | zero bottom none =>
    generalize Sign.ofBitVec _ = s at back
    subst back
    exact reads_zero s
  | finite s m e pos held packed => exact reads_finite u_eq held

end AmbientSound.Toml
