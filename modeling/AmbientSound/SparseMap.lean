/-!
Maps of any size with keys that are spelled in bits. Each operation is described by what a look-up
gives afterwards.
-/
namespace AmbientSound

/-- Keys that are spelled in front of whatever follows, and are known from their spelling. -/
class Spelled (κ : Type) where
  spell : κ → List Bool → List Bool
  unique : ∀ {a b : κ} {r s : List Bool}, spell a r = spell b s → a = b ∧ r = s

/-- So many binary digits, the lowest first, each announced, and an end. -/
def spellDigits : Nat → Nat → List Bool → List Bool
  | 0, _, rest => false :: rest
  | count + 1, n, rest => true :: (n % 2 == 1) :: spellDigits count (n / 2) rest

theorem spellDigits_inj {c d n m : Nat} {r s : List Bool} (n_short : n >>> c = 0)
    (m_short : m >>> d = 0) (same : spellDigits c n r = spellDigits d m s) : n = m ∧ r = s := by
  induction c generalizing d n m with
  | zero =>
    cases d with
    | zero =>
      simp only [spellDigits, List.cons.injEq, true_and] at same
      exact ⟨n_short.trans m_short.symm, same⟩
    | succ d => simp [spellDigits] at same
  | succ c ih =>
    cases d with
    | zero => simp [spellDigits] at same
    | succ d =>
      simp only [spellDigits, List.cons.injEq, true_and] at same
      obtain ⟨digit, later⟩ := same
      rw [Nat.shiftRight_succ_inside] at n_short m_short
      obtain ⟨halves, rest⟩ := ih n_short m_short later
      have parity : n % 2 = 1 ↔ m % 2 = 1 := by rw [← beq_iff_eq, digit, beq_iff_eq]
      exact ⟨by omega, rest⟩

theorem shiftRight_log2_succ (n : Nat) : n >>> (n.log2 + 1) = 0 := by
  rw [Nat.shiftRight_eq_div_pow, Nat.div_eq_of_lt Nat.lt_log2_self]

instance : Spelled Nat where
  spell n := spellDigits (n.log2 + 1) n
  unique := spellDigits_inj (shiftRight_log2_succ _) (shiftRight_log2_succ _)

instance : Spelled Int where
  spell
    | .ofNat n, rest => false :: Spelled.spell n rest
    | .negSucc n, rest => true :: Spelled.spell n rest
  unique {a b r s} same := by
    cases a <;> cases b <;> simp only [List.cons.injEq, reduceCtorEq, false_and, true_and] at same
    all_goals
      obtain ⟨rfl, rest⟩ := Spelled.unique same
      exact ⟨rfl, rest⟩

instance {κ μ : Type} [Spelled κ] [Spelled μ] : Spelled (κ × μ) where
  spell a rest := Spelled.spell a.1 (Spelled.spell a.2 rest)
  unique same := by
    obtain ⟨first, later⟩ := Spelled.unique same
    obtain ⟨second, rest⟩ := Spelled.unique later
    exact ⟨Prod.ext first second, rest⟩

@[reducible] def Spelled.via {κ μ : Type} [Spelled μ] (key : κ → μ) (inj : ∀ a b, key a = key b → a = b) :
    Spelled κ where
  spell a := Spelled.spell (key a)
  unique same := (Spelled.unique same).imp_left (inj _ _)

inductive Trie (α : Type) where
  | vacant
  | node (value : Option α) (zero one : Trie α)

namespace Trie

variable {α : Type}

def get? : Trie α → List Bool → Option α
  | vacant, _ => none
  | node value _ _, [] => value
  | node _ zero _, false :: bits => zero.get? bits
  | node _ _ one, true :: bits => one.get? bits

def set (value : Option α) : List Bool → Trie α → Trie α
  | [], vacant => node value vacant vacant
  | [], node _ zero one => node value zero one
  | false :: bits, vacant => node none (set value bits vacant) vacant
  | true :: bits, vacant => node none vacant (set value bits vacant)
  | false :: bits, node here zero one => node here (set value bits zero) one
  | true :: bits, node here zero one => node here zero (set value bits one)

@[simp] theorem get?_vacant (bits : List Bool) : (vacant : Trie α).get? bits = none := by
  cases bits <;> rfl

theorem get?_set (value : Option α) (place : List Bool) (t : Trie α) (bits : List Bool) :
    (t.set value place).get? bits = if place = bits then value else t.get? bits := by
  induction place generalizing t bits with
  | nil =>
    cases bits with
    | nil => cases t <;> rfl
    | cons c bits => cases c <;> cases t <;> simp [set, get?]
  | cons b place ih =>
    cases bits with
    | nil => cases b <;> cases t <;> simp [set, get?]
    | cons c bits => cases b <;> cases c <;> cases t <;> simp [set, get?, ih]

end Trie

structure SparseMap (κ α : Type) where
  trie : Trie α

namespace SparseMap

variable {κ α : Type}

def empty : SparseMap κ α := ⟨.vacant⟩

variable [Spelled κ]

def get? (m : SparseMap κ α) (k : κ) : Option α := m.trie.get? (Spelled.spell k [])

def insert (m : SparseMap κ α) (k : κ) (v : α) : SparseMap κ α :=
  ⟨m.trie.set (some v) (Spelled.spell k [])⟩

def erase (m : SparseMap κ α) (k : κ) : SparseMap κ α := ⟨m.trie.set none (Spelled.spell k [])⟩

theorem spell_eq_iff {a b : κ} : Spelled.spell a [] = Spelled.spell b [] ↔ a = b :=
  ⟨fun same => (Spelled.unique same).1, fun same => same ▸ rfl⟩

@[simp] theorem get?_empty (k : κ) : (empty : SparseMap κ α).get? k = none :=
  Trie.get?_vacant _

variable [DecidableEq κ] (m : SparseMap κ α)

theorem get?_insert (a : κ) (v : α) (b : κ) :
    (m.insert a v).get? b = if a = b then some v else m.get? b := by
  simp only [get?, insert, Trie.get?_set, spell_eq_iff]

theorem get?_erase (a b : κ) : (m.erase a).get? b = if a = b then none else m.get? b := by
  simp only [get?, erase, Trie.get?_set, spell_eq_iff]

end SparseMap

abbrev SparseSet (κ : Type) := SparseMap κ Unit

namespace SparseSet

variable {κ : Type} [Spelled κ]

def contains (s : SparseSet κ) (k : κ) : Bool := (s.get? k).isSome

end SparseSet

end AmbientSound
