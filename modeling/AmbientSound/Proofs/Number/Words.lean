import Mathlib.Algebra.Group.Nat.Defs
/-!
Arithmetic in the words of a machine, where a number can be too large for its word and a divisor can
be zero.
-/
namespace AmbientSound

def fit? (bits n : Nat) : Option Nat := if n < 2 ^ bits then some n else none

def div? (n k : Nat) : Option Nat := if k = 0 then none else some (n / k)

def mod? (n k : Nat) : Option Nat := if k = 0 then none else some (n % k)

theorem fit?_eq {bits n : Nat} (small : n < 2 ^ bits) : fit? bits n = some n := if_pos small

theorem fit?_eq_none {bits n : Nat} (large : ¬ n < 2 ^ bits) : fit? bits n = none := if_neg large

theorem div?_eq {n k : Nat} (pos : 0 < k) : div? n k = some (n / k) := if_neg (Nat.ne_of_gt pos)

theorem mod?_eq {n k : Nat} (pos : 0 < k) : mod? n k = some (n % k) := if_neg (Nat.ne_of_gt pos)

/-- What a machine does about a sum that outgrows its word: it stops, or it goes on with what is left
of the sum in the word. -/
inductive Overflow where
  | stops
  | wraps

namespace Overflow

variable {α β : Type} {P : α → Prop} {Q : β → Prop} {v : Overflow}

def word? : Overflow → Nat → Option Nat
  | .stops, n => fit? 64 n
  | .wraps, n => some (n % 2 ^ 64)

theorem word?_eq {n : Nat} (small : n < 2 ^ 64) : v.word? n = some n := by
  cases v with
  | stops => exact fit?_eq small
  | wraps => exact congrArg some (Nat.mod_eq_of_lt small)

example : Overflow.stops.word? (2 ^ 64) = none ∧ Overflow.wraps.word? (2 ^ 64) = some 0 := by decide

/-- Every outcome is as `P` says, and only a machine that stops can be left without one. -/
structure Gives (v : Overflow) (P : α → Prop) (x : Option α) : Prop where
  holds : ∀ a, x = some a → P a
  stops : x = none → v = .stops

theorem gives_some {a : α} (good : P a) : v.Gives P (some a) := by
  constructor
  · intro b same
    obtain rfl := Option.some.inj same
    exact good
  · intro missing
    cases missing

theorem Gives.imp {R : α → Prop} {x : Option α} (h : v.Gives P x) (good : ∀ a, P a → R a) :
    v.Gives R x :=
  ⟨fun a same => good a (h.holds a same), h.stops⟩

theorem Gives.bind {x : Option α} {f : α → Option β} (first : v.Gives P x)
    (next : ∀ a, P a → v.Gives Q (f a)) : v.Gives Q (x.bind f) := by
  cases x with
  | none =>
    refine ⟨?_, fun _ => first.stops rfl⟩
    intro b missing
    cases missing
  | some a => exact next a (first.holds a rfl)

theorem Gives.map {x : Option α} {f : α → β} (h : v.Gives P x) (good : ∀ a, P a → Q (f a)) :
    v.Gives Q (x.map f) := by
  rw [Option.map_eq_bind]
  exact h.bind fun a holds => gives_some (good a holds)

end Overflow

end AmbientSound
