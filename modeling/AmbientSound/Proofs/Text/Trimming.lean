import Mathlib.Data.List.DropRight
import AmbientSound.Text.Blank
/-!
Trimming takes away the blanks at both ends, so there are none left, and a text that has none there
stays as it is.
-/
namespace AmbientSound

structure Trimmed (cs : List Char) : Prop where
  first : ∀ c ∈ cs.head?, isBlank c = false
  last : ∀ c ∈ cs.getLast?, isBlank c = false

theorem trimChars_eq (cs : List Char) :
    trimChars cs = (cs.dropWhile isBlank).rdropWhile isBlank := rfl

theorem trimChars_trimmed (cs : List Char) : Trimmed (trimChars cs) := by
  rw [trimChars_eq]
  constructor
  · -- What is left begins as it did before its end was cut.
    intro c mem
    obtain ⟨cut, split⟩ := List.rdropWhile_prefix isBlank (l := cs.dropWhile isBlank)
    have head : (cs.dropWhile isBlank).head? = some c := by
      rw [← split, List.head?_append, Option.mem_def.mp mem]
      rfl
    have stops := List.head?_dropWhile_not isBlank cs
    rw [head] at stops
    simpa using stops
  · intro c mem
    obtain ⟨some_, rfl⟩ := List.mem_getLast?_eq_getLast mem
    exact Bool.eq_false_iff.mpr (List.rdropWhile_last_not isBlank _ some_)

theorem Trimmed.trimChars_eq_self {cs : List Char} (h : Trimmed cs) : trimChars cs = cs := by
  have front : cs.dropWhile isBlank = cs := by
    cases cs with
    | nil => rfl
    | cons c cs => exact List.dropWhile_cons_of_neg (by simp [h.first c rfl])
  rw [trimChars_eq, front, List.rdropWhile_eq_self_iff]
  intro some_
  simp [h.last _ (List.getLast?_eq_some_getLast some_)]

theorem trim_trimmed (s : String) : Trimmed (trim s).toList := by
  rw [trim, String.toList_ofList]
  exact trimChars_trimmed _

theorem trim_eq_self {s : String} (h : Trimmed s.toList) : trim s = s := by
  rw [trim, h.trimChars_eq_self, String.ofList_toList]

@[simp] theorem trim_trim (s : String) : trim (trim s) = trim s := trim_eq_self (trim_trimmed s)

end AmbientSound
