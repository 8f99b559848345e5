import AmbientSound.Ident
/-!
Finite maps keyed by identities, kept in ascending order of their keys. Each operation is
described by what a look-up gives afterwards.
-/
namespace AmbientSound

/-- Entries in strictly ascending order of their keys. -/
structure IdentMap (k : Kind) (α : Type) where
  entries : List (Ident k × α)
  ascending : entries.Pairwise fun a b => a.1.index < b.1.index
  deriving DecidableEq

namespace IdentMap

variable {k : Kind} {α β : Type}

theorem ext_entries {m n : IdentMap k α} (h : m.entries = n.entries) : m = n := by
  cases m; cases n; simp_all

def empty : IdentMap k α := ⟨[], .nil⟩

instance : Inhabited (IdentMap k α) := ⟨empty⟩

instance : EmptyCollection (IdentMap k α) := ⟨empty⟩

def keys (m : IdentMap k α) : List (Ident k) := m.entries.map (·.1)

def size (m : IdentMap k α) : Nat := m.entries.length

def isEmpty (m : IdentMap k α) : Bool := m.entries.isEmpty

def lookup (a : Ident k) : List (Ident k × α) → Option α
  | [] => none
  | e :: es => if e.1 = a then some e.2 else lookup a es

def get? (m : IdentMap k α) (a : Ident k) : Option α := lookup a m.entries

def contains (m : IdentMap k α) (a : Ident k) : Bool := (m.get? a).isSome

def insertEntry (a : Ident k) (v : α) : List (Ident k × α) → List (Ident k × α)
  | [] => [(a, v)]
  | e :: es =>
    if a.index < e.1.index then (a, v) :: e :: es
    else if e.1.index < a.index then e :: insertEntry a v es
    else (a, v) :: es

theorem mem_insertEntry {a : Ident k} {v : α} {es : List (Ident k × α)} {e : Ident k × α}
    (h : e ∈ insertEntry a v es) : e = (a, v) ∨ e ∈ es := by
  induction es with
  | nil => simp [insertEntry] at h; exact .inl h
  | cons first rest ih =>
    simp only [insertEntry] at h
    split at h
    · simpa using h
    · split at h
      · rcases List.mem_cons.mp h with same | later
        · simp [same]
        · rcases ih later with same | old
          · exact .inl same
          · simp [old]
      · rcases List.mem_cons.mp h with same | later
        · exact .inl same
        · simp [later]

theorem insertEntry_ascending (a : Ident k) (v : α) {es : List (Ident k × α)}
    (h : es.Pairwise fun a b => a.1.index < b.1.index) :
    (insertEntry a v es).Pairwise fun a b => a.1.index < b.1.index := by
  induction es with
  | nil => simp [insertEntry]
  | cons first rest ih =>
    obtain ⟨least, tail⟩ := List.pairwise_cons.mp h
    simp only [insertEntry]
    split
    · rename_i before
      refine List.pairwise_cons.mpr ⟨?_, h⟩
      intro e mem
      rcases List.mem_cons.mp mem with same | later
      · simpa [same] using before
      · have := least e later
        simp only
        omega
    · split
      · rename_i after
        refine List.pairwise_cons.mpr ⟨?_, ih tail⟩
        intro e mem
        rcases mem_insertEntry mem with same | old
        · simpa [same] using after
        · exact least e old
      · refine List.pairwise_cons.mpr ⟨?_, tail⟩
        intro e mem
        have := least e mem
        simp only
        omega

def insert (m : IdentMap k α) (a : Ident k) (v : α) : IdentMap k α :=
  ⟨insertEntry a v m.entries, insertEntry_ascending a v m.ascending⟩

def filter (keep : Ident k → α → Bool) (m : IdentMap k α) : IdentMap k α :=
  ⟨m.entries.filter fun e => keep e.1 e.2, m.ascending.filter _⟩

def erase (m : IdentMap k α) (a : Ident k) : IdentMap k α := m.filter fun b _ => b != a

def map (f : Ident k → α → β) (m : IdentMap k α) : IdentMap k β :=
  ⟨m.entries.map fun e => (e.1, f e.1 e.2), List.pairwise_map.mpr m.ascending⟩

def ofList (es : List (Ident k × α)) : IdentMap k α :=
  es.foldl (fun m e => m.insert e.1 e.2) empty

end IdentMap

end AmbientSound
