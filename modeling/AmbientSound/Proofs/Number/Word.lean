import Mathlib.Algebra.Group.Nat.Defs
import Mathlib.Data.List.Basic
import AmbientSound.Number.Word
/-!
Which texts are numbers of at most sixty-four bits.
-/
namespace AmbientSound

namespace Word

def decimal (n : Nat) (digits : List Char) : Nat :=
  digits.foldl (fun n c => 10 * n + (c.toNat - '0'.toNat)) n

theorem le_decimal (n : Nat) (digits : List Char) : n ≤ decimal n digits := by
  induction digits generalizing n with
  | nil => exact Nat.le_refl n
  | cons c digits ih =>
    have more := ih (10 * n + (c.toNat - '0'.toNat))
    change n ≤ decimal (10 * n + (c.toNat - '0'.toNat)) digits
    omega

theorem push_eq_ok_iff (n m : Nat) (c : Char) : push n c = .ok m ↔
    c.isDigit = true ∧ 10 * n + (c.toNat - '0'.toNat) = m ∧ m < UInt64.size := by
  unfold push
  split
  · rename_i none
    simp [none]
  · split
    · rename_i digit large
      simp only [reduceCtorEq, false_iff]
      omega
    · rename_i digit small
      simp only [Except.ok.injEq]
      grind

theorem foldlM_push_eq_ok_iff {n : Nat} (small : n < UInt64.size) (m : Nat) (digits : List Char) :
    digits.foldlM push n = .ok m ↔
      (∀ c ∈ digits, c.isDigit = true) ∧ decimal n digits = m ∧ m < UInt64.size := by
  induction digits generalizing n with
  | nil =>
    change Except.ok n = .ok m ↔ _
    simp [decimal]
    omega
  | cons c digits ih =>
    have fold : decimal n (c :: digits) = decimal (10 * n + (c.toNat - '0'.toNat)) digits := rfl
    rw [List.foldlM_cons, fold, List.forall_mem_cons]
    cases pushed : push n c with
    | error fault =>
      refine iff_of_false (by exact nofun) ?_
      rintro ⟨⟨digit, -⟩, rfl, fits⟩
      have least := le_decimal (10 * n + (c.toNat - '0'.toNat)) digits
      have done := (push_eq_ok_iff n _ c).mpr ⟨digit, rfl, by omega⟩
      rw [done] at pushed
      cases pushed
    | ok k =>
      obtain ⟨digit, rfl, fits⟩ := (push_eq_ok_iff n k c).mp pushed
      have rest := ih fits
      change digits.foldlM push _ = .ok m ↔ _
      rw [rest, digit]
      simp

/-- A text is a number if it is written in digits, behind a plus sign or none, and fits a word. -/
theorem ofText_eq_ok_iff (text : String) (n : Nat) : ofText text = .ok n ↔
    ∃ digits : List Char, (text.toList = digits ∨ text.toList = '+' :: digits) ∧ digits ≠ [] ∧
      (∀ c ∈ digits, c.isDigit = true) ∧ decimal 0 digits = n ∧ n < 2 ^ 64 := by
  have zero : 0 < UInt64.size := by decide
  have plus : ('+' : Char).isDigit = false := by decide
  unfold ofText
  generalize text.toList = cs
  unfold ofChars
  split
  · simp
  · simp [plus]
  · rename_i digits some
    rw [foldlM_push_eq_ok_iff zero]
    constructor
    · rintro ⟨all, rfl, fits⟩
      exact ⟨digits, .inr rfl, fun none => some (by rw [none]), all, rfl, fits⟩
    · rintro ⟨digits', same | same, -, all, rfl, fits⟩
      · have sign := all '+' (by rw [← same]; exact List.mem_cons_self)
        rw [plus] at sign
        cases sign
      · obtain rfl := (List.cons.inj same).2
        exact ⟨all, rfl, fits⟩
  · rename_i some unsigned unsigned'
    rw [foldlM_push_eq_ok_iff zero]
    constructor
    · rintro ⟨all, rfl, fits⟩
      exact ⟨cs, .inl rfl, some, all, rfl, fits⟩
    · rintro ⟨digits', rfl | same, -, all, rfl, fits⟩
      · exact ⟨all, rfl, fits⟩
      · exact absurd same (unsigned' digits')

end Word

end AmbientSound
