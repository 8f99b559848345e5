import Mathlib.Data.List.Basic
import AmbientSound.Document.Json.Writer
/-!
Compact JSON text is one line: whatever characters a datum contains, the text that is written for it
has no line break.
-/
namespace AmbientSound

/-- A text without a line break. -/
def OneLine (s : String) : Prop := '\n' ∉ s.toList

instance (s : String) : Decidable (OneLine s) := inferInstanceAs (Decidable (_ ∉ _))

namespace OneLine

variable {s t : String}

theorem append (first : OneLine s) (second : OneLine t) : OneLine (s ++ t) := by
  rw [OneLine, String.toList_append, List.mem_append]
  rintro (mem | mem)
  · exact first mem
  · exact second mem

theorem ofList {cs : List Char} (h : '\n' ∉ cs) : OneLine (String.ofList cs) := by
  rwa [OneLine, String.toList_ofList]

theorem intercalate {parts : List String} (bar : OneLine t) (h : ∀ s ∈ parts, OneLine s) :
    OneLine (t.intercalate parts) := by
  induction parts with
  | nil => exact of_decide_eq_true rfl
  | cons s rest ih =>
    have later := ih fun s mem => h s (List.mem_cons_of_mem _ mem)
    cases rest with
    | nil =>
      rw [String.intercalate_singleton]
      exact h s (by simp)
    | cons u rest =>
      rw [String.intercalate_cons_cons]
      exact ((h s (by simp)).append bar).append later

end OneLine

theorem break_not_mem_digits (n : Nat) : '\n' ∉ Nat.toDigits 10 n := by
  intro mem
  have digit := Nat.isDigit_of_mem_toDigits (by decide) (Nat.le_refl 10) mem
  cases digit

theorem oneLine_nat (n : Nat) : OneLine (toString n) := .ofList (break_not_mem_digits n)

theorem oneLine_int (n : Int) : OneLine (toString n) := by
  cases n with
  | ofNat n => exact oneLine_nat n
  | negSucc n => exact .append (s := "-") (by decide) (oneLine_nat (n + 1))

namespace Layout

variable {l : Layout}

theorem oneLine_zeros (n : Nat) : OneLine (zeros n) := by
  refine .ofList ?_
  intro mem
  cases List.eq_of_mem_replicate mem

theorem oneLine_plain (d : Decimal) : OneLine (l.plainText d) := by
  unfold plainText
  have digits := oneLine_nat d.digits
  split
  · refine (digits.append (oneLine_zeros _)).append ?_
    split <;> decide
  · simp only
    split
    · refine ((OneLine.ofList ?_).append (by decide)).append (.ofList ?_)
      · exact fun mem => digits (List.mem_of_mem_take mem)
      · exact fun mem => digits (List.mem_of_mem_drop mem)
    · exact (OneLine.append (by decide) (oneLine_zeros _)).append digits

theorem oneLine_scientific (d : Decimal) : OneLine (l.scientificText d) := by
  unfold scientificText
  have digits := oneLine_nat d.digits
  refine (OneLine.append ?_ ?_).append (oneLine_nat _)
  · split
    · decide
    · rename_i c same
      rw [OneLine, same] at digits
      exact .ofList digits
    · rename_i c rest _ same
      rw [OneLine, same, List.mem_cons, not_or] at digits
      refine ((OneLine.ofList ?_).append (by decide)).append (.ofList digits.2)
      simpa using digits.1
  · split
    · decide
    · split <;> decide

theorem oneLine_finite (g : Grid) (x : Exact) : OneLine (l.finiteText g x) := by
  refine OneLine.append ?_ ?_
  · split <;> decide
  · unfold magnitudeText
    split
    · split <;> decide
    · simp only
      split
      · exact oneLine_plain _
      · exact oneLine_scientific _

end Layout

theorem break_not_mem_hexDigits (width n : Nat) : '\n' ∉ hexDigits width n := by
  induction width generalizing n with
  | zero => exact List.not_mem_nil
  | succ width ih =>
    have last : ∀ d < 16, hexDigit d ≠ '\n' := by decide
    rw [hexDigits, List.mem_append, List.mem_singleton]
    rintro (mem | same)
    · exact ih _ mem
    · exact last (n % 16) (Nat.mod_lt n (by decide)) same.symm

theorem break_not_mem_jsonChar (c : Char) : '\n' ∉ jsonChar c := by
  unfold jsonChar
  split_ifs with _ _ other
  all_goals try decide
  · simp [break_not_mem_hexDigits]
  · simpa using Ne.symm other

theorem oneLine_jsonQuoted (s : String) : OneLine (jsonQuoted s) := by
  refine .ofList ?_
  simp [break_not_mem_jsonChar]

namespace Json

mutual

theorem oneLine_render : (d : Datum) → OneLine (render d)
  | .null => by decide
  | .bool b => by cases b <;> decide
  | .int n => oneLine_int n
  | .single x => by
    unfold render singleText
    split
    · exact Layout.oneLine_finite _ _
    · decide
  | .double x => by
    unfold render doubleText
    split
    · exact Layout.oneLine_finite _ _
    · decide
  | .text s => oneLine_jsonQuoted s
  | .list items =>
    ((OneLine.append (by decide) (.intercalate (by decide) (oneLine_renderItems items))).append
      (by decide))
  | .record fields =>
    ((OneLine.append (by decide) (.intercalate (by decide) (oneLine_renderFields fields))).append
      (by decide))
  | .unreadable => by decide

theorem oneLine_renderItems : (ds : List Datum) → ∀ s ∈ renderItems ds, OneLine s
  | [] => by simp [renderItems]
  | d :: ds => by
    rw [renderItems, List.forall_mem_cons]
    exact ⟨oneLine_render d, oneLine_renderItems ds⟩

theorem oneLine_renderFields : (fs : List (String × Datum)) → ∀ s ∈ renderFields fs, OneLine s
  | [] => by simp [renderFields]
  | (k, d) :: fs => by
    rw [renderFields, List.forall_mem_cons]
    exact ⟨((oneLine_jsonQuoted k).append (by decide)).append (oneLine_render d),
      oneLine_renderFields fs⟩

end

end Json

end AmbientSound
