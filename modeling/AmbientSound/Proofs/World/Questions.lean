import AmbientSound.World.Terrain
import Mathlib.Logic.Basic
/-!
Questions about one place, and what a list of edits says on them. Only edits on the subject of a
question say anything, and the last word counts. An edit over a range says what the edits of its cells
say, one after the other.
-/
namespace AmbientSound

inductive Subject where
  | biome
  | effect
  | height
  | loading
  | rules
  deriving DecidableEq, Repr

def Edit.subject : Edit → Subject
  | .paint _ _ => .biome
  | .fill _ _ => .effect
  | .raise _ _ => .height
  | .unload _ => .loading
  | .load _ => .loading
  | .govern _ => .rules

/-- A question about one place: what an edit on its subject says, if it covers the place. -/
structure Question (α : Type) where
  subject : Subject
  answer : Edit → Option α
  silent : ∀ e, e.subject ≠ subject → answer e = none

namespace Question

def loading (x z : Int) : Question Bool where
  subject := .loading
  answer
    | .unload c => if c = ⟨x.fdiv 16, z.fdiv 16⟩ then some false else none
    | .load c => if c = ⟨x.fdiv 16, z.fdiv 16⟩ then some true else none
    | _ => none
  silent e other := by cases e <;> first | rfl | exact absurd rfl other

def biome (x z : Int) : Question RegionId where
  subject := .biome
  answer
    | .paint ⟨⟨x₀, x₁⟩, ⟨z₀, z₁⟩⟩ r =>
      if x₀ ≤ x ∧ x ≤ x₁ ∧ z₀ ≤ z ∧ z ≤ z₁ then some r else none
    | _ => none
  silent e other := by cases e <;> first | rfl | exact absurd rfl other

def effect (p : Position) : Question RegionId where
  subject := .effect
  answer
    | .fill ⟨a, b⟩ r =>
      if a.x ≤ p.x ∧ p.x ≤ b.x ∧ a.y ≤ p.y ∧ p.y ≤ b.y ∧ a.z ≤ p.z ∧ p.z ≤ b.z then some r
      else none
    | _ => none
  silent e other := by cases e <;> first | rfl | exact absurd rfl other

def height (x z : Int) : Question Int where
  subject := .height
  answer
    | .raise ⟨⟨x₀, x₁⟩, ⟨z₀, z₁⟩⟩ h =>
      if x₀ ≤ x ∧ x ≤ x₁ ∧ z₀ ≤ z ∧ z ≤ z₁ then some h else none
    | _ => none
  silent e other := by cases e <;> first | rfl | exact absurd rfl other

def rules (id : RealmId) : Question Realm where
  subject := .rules
  answer
    | .govern r => if r.id = id then some r else none
    | _ => none
  silent e other := by cases e <;> first | rfl | exact absurd rfl other

variable {α : Type} (q : Question α)

def lastSaid (es : List Edit) : Option α := es.reverse.findSome? q.answer

theorem lastSaid_eq_some_iff (es : List Edit) (a : α) : q.lastSaid es = some a ↔
    ∃ before e after, es = before ++ e :: after ∧ q.answer e = some a ∧
      ∀ d ∈ after, q.answer d = none := by
  rw [lastSaid, List.findSome?_eq_some_iff]
  constructor
  · rintro ⟨late, e, early, split, said, silent⟩
    refine ⟨early.reverse, e, late.reverse, ?_, said, ?_⟩
    · simpa using congrArg List.reverse split
    · intro d mem
      exact silent d (List.mem_reverse.mp mem)
  · rintro ⟨before, e, after, rfl, said, silent⟩
    refine ⟨after.reverse, e, before.reverse, by simp, said, ?_⟩
    intro d mem
    exact silent d (List.mem_reverse.mp mem)

theorem lastSaid_eq_none_iff (es : List Edit) :
    q.lastSaid es = none ↔ ∀ e ∈ es, q.answer e = none := by
  simp [lastSaid]

theorem lastSaid_append (es ds : List Edit) :
    q.lastSaid (es ++ ds) = (q.lastSaid ds).or (q.lastSaid es) := by
  simp [lastSaid, List.findSome?_append]

theorem lastSaid_cons (e : Edit) (es : List Edit) :
    q.lastSaid (e :: es) = (q.lastSaid es).or (q.answer e) := by
  cases said : q.answer e <;> simp [lastSaid, List.findSome?_append, said]

theorem lastSaid_append_singleton (es : List Edit) (e : Edit) :
    q.lastSaid (es ++ [e]) = (q.answer e).or (q.lastSaid es) := by
  rw [lastSaid_append, lastSaid_cons]
  rfl

theorem lastSaid_drop {e : Edit} (other : e.subject ≠ q.subject) (before after : List Edit) :
    q.lastSaid (before ++ e :: after) = q.lastSaid (before ++ after) := by
  rw [lastSaid_append, lastSaid_append, lastSaid_cons, q.silent e other, Option.or_none]

theorem lastSaid_filter {s : Subject} (other : s ≠ q.subject) (es : List Edit) :
    q.lastSaid (es.filter fun e => decide (e.subject ≠ s)) = q.lastSaid es := by
  induction es with
  | nil => rfl
  | cons e es ih =>
    by_cases about : e.subject = s
    · rw [List.filter_cons_of_neg (by simp [about]), lastSaid_cons, ih,
        q.silent e (about ▸ other), Option.or_none]
    · rw [List.filter_cons_of_pos (by simp [about]), lastSaid_cons, lastSaid_cons, ih]

theorem lastSaid_filter_self (es : List Edit) :
    q.lastSaid (es.filter fun e => decide (e.subject ≠ q.subject)) = none := by
  rw [lastSaid_eq_none_iff]
  intro e mem
  exact q.silent e (of_decide_eq_true (List.mem_filter.mp mem).2)

end Question

/-! Ranges as lists of what is in them, and the edits of single cells that an edit is made of. -/

theorem Span.mem_toList (s : Span) (n : Int) : n ∈ s.toList ↔ s.first ≤ n ∧ n ≤ s.last := by
  simp only [Span.toList, List.mem_map, List.mem_range]
  constructor
  · rintro ⟨i, small, rfl⟩
    omega
  · rintro ⟨low, high⟩
    exact ⟨(n - s.first).toNat, by omega, by omega⟩

def Rectangle.columns (area : Rectangle) : List (Int × Int) :=
  area.xs.toList.flatMap fun x => area.zs.toList.map fun z => (x, z)

theorem Rectangle.mem_columns (area : Rectangle) (x z : Int) : (x, z) ∈ area.columns ↔
    area.xs.first ≤ x ∧ x ≤ area.xs.last ∧ area.zs.first ≤ z ∧ z ≤ area.zs.last := by
  simp only [Rectangle.columns, List.mem_flatMap, List.mem_map, Span.mem_toList, Prod.mk.injEq]
  constructor
  · rintro ⟨_, ⟨low, high⟩, _, ⟨low', high'⟩, rfl, rfl⟩
    exact ⟨low, high, low', high'⟩
  · rintro ⟨low, high, low', high'⟩
    exact ⟨x, ⟨low, high⟩, z, ⟨low', high'⟩, rfl, rfl⟩

def Cuboid.cells (box : Cuboid) : List Position :=
  box.xs.toList.flatMap fun x => box.ys.toList.flatMap fun y => box.zs.toList.map fun z => ⟨x, y, z⟩

theorem Cuboid.mem_cells (box : Cuboid) (p : Position) : p ∈ box.cells ↔
    box.least.x ≤ p.x ∧ p.x ≤ box.greatest.x ∧ box.least.y ≤ p.y ∧ p.y ≤ box.greatest.y ∧
      box.least.z ≤ p.z ∧ p.z ≤ box.greatest.z := by
  simp only [Cuboid.cells, Cuboid.xs, Cuboid.ys, Cuboid.zs, List.mem_flatMap, List.mem_map,
    Span.mem_toList]
  constructor
  · rintro ⟨x, ⟨low, high⟩, y, ⟨low', high'⟩, z, ⟨low'', high''⟩, rfl⟩
    exact ⟨low, high, low', high', low'', high''⟩
  · rintro ⟨low, high, low', high', low'', high''⟩
    exact ⟨p.x, ⟨low, high⟩, p.y, ⟨low', high'⟩, p.z, ⟨low'', high''⟩, rfl⟩

/-- The edits of single columns or cells, in the order of the ranges, that have the same effect. -/
def Edit.pieces : Edit → List Edit
  | .paint area r => area.columns.map fun c => .paint ⟨⟨c.1, c.1⟩, ⟨c.2, c.2⟩⟩ r
  | .fill box r => box.cells.map fun p => .fill ⟨p, p⟩ r
  | .raise area h => area.columns.map fun c => .raise ⟨⟨c.1, c.1⟩, ⟨c.2, c.2⟩⟩ h
  | e => [e]

theorem Edit.subject_of_mem_pieces {e d : Edit} (mem : d ∈ e.pieces) :
    d.subject = e.subject := by
  cases e with
  | paint area r =>
    obtain ⟨c, -, rfl⟩ := List.mem_map.mp mem
    rfl
  | fill box r =>
    obtain ⟨p, -, rfl⟩ := List.mem_map.mp mem
    rfl
  | raise area h =>
    obtain ⟨c, -, rfl⟩ := List.mem_map.mp mem
    rfl
  | _ =>
    obtain rfl := List.mem_singleton.mp mem
    rfl

namespace Question

/-- Some edits say together what one edit says: none of them says anything else, and one of them says
it. -/
structure Amounts {α : Type} (q : Question α) (ds : List Edit) (e : Edit) : Prop where
  within : ∀ d ∈ ds, ∀ a, q.answer d = some a → q.answer e = some a
  whole : ∀ a, q.answer e = some a → ∃ d ∈ ds, q.answer d = some a

section Pieces

variable {α : Type} {q : Question α} {e : Edit}

theorem Amounts.lastSaid_eq {ds : List Edit} (h : q.Amounts ds e) : q.lastSaid ds = q.answer e := by
  cases said : q.lastSaid ds with
  | some a =>
    obtain ⟨before, d, after, rfl, here, -⟩ := (q.lastSaid_eq_some_iff ds a).mp said
    exact (h.within d (by simp) a here).symm
  | none =>
    cases whole : q.answer e with
    | none => rfl
    | some a =>
      obtain ⟨d, mem, here⟩ := h.whole a whole
      rw [(q.lastSaid_eq_none_iff ds).mp said d mem] at here
      cases here

theorem pieces_amount_of_other (other : e.subject ≠ q.subject) : q.Amounts e.pieces e := by
  refine ⟨?_, ?_⟩
  · intro d mem a here
    rw [q.silent d (Edit.subject_of_mem_pieces mem ▸ other)] at here
    cases here
  · intro a here
    rw [q.silent e other] at here
    cases here

/-- Each cell says the value at home, and the whole says it wherever one of its cells is. -/
theorem amounts_of_cells {κ : Type} {cells : List κ} {piece : κ → Edit} {here : κ} {v : α}
    {covers : Prop} [Decidable covers] (inside : here ∈ cells ↔ covers) {home : κ → Prop}
    [DecidablePred home] (at_home : ∀ c, home c ↔ c = here)
    (one : ∀ c, q.answer (piece c) = if home c then some v else none)
    (all : q.answer e = if covers then some v else none) : q.Amounts (cells.map piece) e := by
  refine ⟨?_, ?_⟩
  · intro d mem a said
    obtain ⟨c, cell, rfl⟩ := List.mem_map.mp mem
    rw [one] at said
    obtain ⟨near, value⟩ := Option.ite_none_right_eq_some.mp said
    obtain rfl := (at_home c).mp near
    rw [all, if_pos (inside.mp cell), value]
  · intro a said
    rw [all] at said
    obtain ⟨covered, value⟩ := Option.ite_none_right_eq_some.mp said
    refine ⟨piece here, List.mem_map_of_mem (inside.mpr covered), ?_⟩
    rw [one, if_pos ((at_home here).mpr rfl), value]

theorem column_covers (x z : Int) (c : Int × Int) :
    (c.1 ≤ x ∧ x ≤ c.1 ∧ c.2 ≤ z ∧ z ≤ c.2) ↔ c = (x, z) := by
  rw [Prod.ext_iff]
  omega

theorem cell_covers (p c : Position) :
    (c.x ≤ p.x ∧ p.x ≤ c.x ∧ c.y ≤ p.y ∧ p.y ≤ c.y ∧ c.z ≤ p.z ∧ p.z ≤ c.z) ↔ c = p := by
  cases c
  cases p
  simp only [Position.mk.injEq]
  omega

theorem amounts_of_self (q : Question α) (e : Edit) : q.Amounts [e] e :=
  ⟨fun _ mem _ here => List.mem_singleton.mp mem ▸ here,
    fun _ here => ⟨e, List.mem_singleton_self e, here⟩⟩

theorem pieces_amount_loading (x z : Int) (e : Edit) : (loading x z).Amounts e.pieces e := by
  by_cases about : e.subject = .loading
  · cases e with
    | unload c => exact amounts_of_self _ _
    | load c => exact amounts_of_self _ _
    | _ => cases about
  · exact pieces_amount_of_other about

theorem pieces_amount_rules (id : RealmId) (e : Edit) : (rules id).Amounts e.pieces e := by
  by_cases about : e.subject = .rules
  · cases e with
    | govern r => exact amounts_of_self _ _
    | _ => cases about
  · exact pieces_amount_of_other about

theorem pieces_amount_biome (x z : Int) (e : Edit) : (biome x z).Amounts e.pieces e := by
  by_cases about : e.subject = .biome
  · cases e with
    | paint area r =>
      exact amounts_of_cells (area.mem_columns x z) (column_covers x z) (fun _ => rfl) rfl
    | _ => cases about
  · exact pieces_amount_of_other about

theorem pieces_amount_effect (p : Position) (e : Edit) : (effect p).Amounts e.pieces e := by
  by_cases about : e.subject = .effect
  · cases e with
    | fill box r =>
      exact amounts_of_cells (box.mem_cells p) (cell_covers p) (fun _ => rfl) rfl
    | _ => cases about
  · exact pieces_amount_of_other about

theorem pieces_amount_height (x z : Int) (e : Edit) : (height x z).Amounts e.pieces e := by
  by_cases about : e.subject = .height
  · cases e with
    | raise area h =>
      exact amounts_of_cells (area.mem_columns x z) (column_covers x z) (fun _ => rfl) rfl
    | _ => cases about
  · exact pieces_amount_of_other about

theorem lastSaid_pieces (amounts : ∀ e : Edit, q.Amounts e.pieces e) (es : List Edit) :
    q.lastSaid (es.flatMap Edit.pieces) = q.lastSaid es := by
  induction es with
  | nil => rfl
  | cons e es ih =>
    rw [List.flatMap_cons, lastSaid_append, (amounts e).lastSaid_eq, lastSaid_cons, ih]

end Pieces

end Question

end AmbientSound
