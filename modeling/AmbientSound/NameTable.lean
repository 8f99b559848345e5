import AmbientSound.Ident
import AmbientSound.Text.Blank
/-!
Names and their identities. A name is trimmed before it is looked at, and the identity of a name
is the place at which it was first seen.
-/
namespace AmbientSound

/-- A name is looked up where it stands, and what does not stand anywhere is not found. -/
def Inverse (names : Array String) (places : List (String × Nat)) : Prop :=
  ∀ name i, places.lookup name = some i ↔ names[i]? = some name

theorem Inverse.push {names : Array String} {places : List (String × Nat)} {name : String}
    (h : Inverse names places) (new : places.lookup name = none) :
    Inverse (names.push name) ((name, names.size) :: places) := by
  intro other i
  rw [List.lookup_cons, Array.getElem?_push]
  by_cases same : other = name
  · subst same
    have absent : names[i]? ≠ some other := by simp [← h other i, new]
    simp only [BEq.rfl]
    split
    · simp_all
    · rename_i earlier
      simp [absent, Ne.symm earlier]
  · simp only [beq_eq_false_iff_ne.mpr same, h other i]
    split
    · rename_i last
      simp [last, Ne.symm same]
    · rfl

/-- The known names of one kind, in the order of first sight. -/
structure NameTable (k : Kind) where
  names : Array String
  places : List (String × Nat)
  inverse : Inverse names places
  deriving DecidableEq

namespace NameTable

variable {k : Kind}

def empty : NameTable k := ⟨#[], [], by simp [Inverse]⟩

instance : Inhabited (NameTable k) := ⟨empty⟩

def size (t : NameTable k) : Nat := t.names.size

def find? (t : NameTable k) (name : String) : Option (Ident k) :=
  (t.places.lookup (trim name)).map (⟨·⟩)

def intern (t : NameTable k) (name : String) : Ident k × NameTable k :=
  let wanted := trim name
  match known : t.places.lookup wanted with
  | some i => (⟨i⟩, t)
  | none =>
    (⟨t.names.size⟩,
      ⟨t.names.push wanted, (wanted, t.names.size) :: t.places, t.inverse.push known⟩)

def name? (t : NameTable k) (a : Ident k) : Option String := t.names[a.index]?

def toList (t : NameTable k) : List (Ident k × String) :=
  t.names.toList.zipIdx.map fun e => (⟨e.2⟩, e.1)

end NameTable

end AmbientSound
