import AmbientSound.Proofs.Census.Passes
import AmbientSound.Proofs.Number.Words
/-!
A census in the arithmetic of the machine, where a word can be too small for a number and a divisor
can be zero. As long as there are fewer cells than a word of thirty-two bits counts, neither happens.
-/
namespace AmbientSound

namespace Tally

def see? (t : Tally) : Cell → Option Tally
  | .unloaded => some t
  | .empty => do
    let total ← fit? 32 (t.total + 1)
    return ⟨t.counts, total⟩
  | .region r => do
    let total ← fit? 32 (t.total + 1)
    let n ← fit? 32 (t.count r + 1)
    return ⟨t.counts.insert r n, total⟩

structure AtMost (t : Tally) (n : Nat) : Prop where
  total : t.total ≤ n
  count : ∀ r, t.count r ≤ n

variable {t : Tally} {n : Nat}

theorem AtMost.see (h : t.AtMost n) (c : Cell) : (t.see c).AtMost (n + 1) := by
  have extends_ := see_extends t c
  constructor
  · rw [extends_.total]
    exact Nat.add_le_add h.total List.countP_le_length
  · intro r
    rw [extends_.count r]
    exact Nat.add_le_add (h.count r) List.count_le_length

theorem AtMost.see? (h : t.AtMost n) (small : n + 1 < 2 ^ 32) (c : Cell) :
    t.see? c = some (t.see c) := by
  have total : t.total + 1 < 2 ^ 32 := Nat.lt_of_le_of_lt (Nat.add_le_add_right h.total 1) small
  cases c with
  | unloaded => rfl
  | empty =>
    simp only [Tally.see?, fit?_eq total, Option.bind_eq_bind, Option.bind_some]
    rfl
  | region r =>
    have count : t.count r + 1 < 2 ^ 32 :=
      Nat.lt_of_le_of_lt (Nat.add_le_add_right (h.count r) 1) small
    simp only [Tally.see?, fit?_eq total, fit?_eq count, Option.bind_eq_bind, Option.bind_some]
    rfl

theorem ofCells_atMost (cells : List Cell) : (ofCells cells).AtMost cells.length := by
  have exact_ := ofCells_exact cells
  constructor
  · rw [exact_.total]
    exact List.countP_le_length
  · intro r
    rw [exact_.count r]
    exact List.count_le_length

end Tally

namespace Tier

def perTick? (t : Tier) : Option Nat := div? (t.volume + (max t.cadence 1 - 1)) (max t.cadence 1)

def cell? (t : Tier) (centre : Position) (index : Nat) : Option Position := do
  let x ← mod? index t.side
  let row ← div? index t.side
  let z ← mod? row t.side
  let y ← div? index (t.side * t.side)
  return centre.offset (x - t.radius.toNat) (y - t.vertical.toNat) (z - t.radius.toNat)

theorem cell?_eq (t : Tier) (centre : Position) (index : Nat) :
    t.cell? centre index = some (t.cell centre index) := by
  have side := t.side_pos
  simp only [cell?, mod?_eq side, div?_eq side, div?_eq (Nat.mul_pos side side), Option.bind_eq_bind,
    Option.bind_some]
  rfl

end Tier

namespace Sweep

def countStretch? (ask : Position → Cell) (tier : Tier) (centre : Position) :
    Nat → Nat → Tally → Option Tally
  | 0, _, tally => some tally
  | count + 1, index, tally => do
    let cell ← tier.cell? centre index
    let tally ← tally.see? (ask cell)
    countStretch? ask tier centre count (index + 1) tally

def slice? (s : Sweep) (w : World) (pass : Pass) : Option Pass := do
  let perTick ← s.tier.perTick?
  let finish ← fit? 64 (pass.cursor + perTick)
  let count := min finish s.tier.volume - pass.cursor
  let tally ← countStretch? (w.cell s.layer) s.tier pass.centre count pass.cursor pass.tally
  return ⟨pass.centre, pass.cursor + count, tally⟩

/-- `tick`, every count in a word and every division checked. -/
def tick? (s : Sweep) (w : World) : Option Position → Option (Sweep × Option Event)
  | none => some (s.tick w none)
  | some p => do
    let pass ← s.slice? w (s.currentPass p)
    if pass.cursor < s.tier.volume then return ({ s with pass := some pass }, none)
    else
      let completed ← fit? 64 (s.completed + 1)
      return ({ s with pass := none, published := pass.tally, completed := completed },
        some (.completed pass.centre pass.tally))

theorem countStretch?_eq (ask : Position → Cell) (tier : Tier) (centre : Position)
    (count index : Nat) {tally : Tally} (small : index + count < 2 ^ 32)
    (counted : tally.AtMost index) : countStretch? ask tier centre count index tally =
      some (countStretch ask tier centre count index tally) := by
  induction count generalizing index tally with
  | zero => rfl
  | succ count ih =>
    have seen := counted.see? (by omega) (ask (tier.cell centre index))
    simp only [countStretch?, countStretch, tier.cell?_eq, seen, Option.bind_eq_bind,
      Option.bind_some]
    exact ih (index + 1) (by omega) (counted.see _)

end Sweep

end AmbientSound
