import AmbientSound.IdentMap
/-!
What a look-up gives after each operation on a map of identities, and how look-ups and entries
determine each other.
-/
namespace AmbientSound

instance {k : Kind} : LawfulBEq (Ident k) := inferInstance

namespace IdentMap

variable {k : Kind} {α β : Type}

theorem lookup_some_mem {a : Ident k} {v : α} {es : List (Ident k × α)}
    (h : lookup a es = some v) : (a, v) ∈ es := by
  induction es with
  | nil => simp [lookup] at h
  | cons first rest ih =>
    simp only [lookup] at h
    split at h
    · rename_i same
      obtain rfl := Option.some.inj h
      simp [← same]
    · exact List.mem_cons_of_mem first (ih h)

theorem lookup_of_mem {a : Ident k} {v : α} {es : List (Ident k × α)}
    (ascending : es.Pairwise fun a b => a.1.index < b.1.index) (h : (a, v) ∈ es) :
    lookup a es = some v := by
  induction es with
  | nil => simp at h
  | cons first rest ih =>
    obtain ⟨least, tail⟩ := List.pairwise_cons.mp ascending
    simp only [lookup]
    rcases List.mem_cons.mp h with same | later
    · simp [← same]
    · have before : first.1.index < a.index := least _ later
      have other : first.1 ≠ a := by
        intro same
        rw [same] at before
        exact Nat.lt_irrefl _ before
      simp [other, ih tail later]

theorem get?_eq_some_iff (m : IdentMap k α) (a : Ident k) (v : α) :
    m.get? a = some v ↔ (a, v) ∈ m.entries :=
  ⟨lookup_some_mem, lookup_of_mem m.ascending⟩

theorem get?_eq_none_iff (m : IdentMap k α) (a : Ident k) :
    m.get? a = none ↔ ∀ v, (a, v) ∉ m.entries := by
  constructor
  · intro missing v mem
    rw [(m.get?_eq_some_iff a v).mpr mem] at missing
    cases missing
  · intro absent
    cases found : m.get? a with
    | none => rfl
    | some v => exact absurd ((m.get?_eq_some_iff a v).mp found) (absent v)

theorem contains_iff (m : IdentMap k α) (a : Ident k) :
    m.contains a = true ↔ ∃ v, (a, v) ∈ m.entries := by
  simp only [contains, Option.isSome_iff_exists, get?_eq_some_iff]

theorem entry_unique {m : IdentMap k α} {a : Ident k} {v w : α} (hv : (a, v) ∈ m.entries)
    (hw : (a, w) ∈ m.entries) : v = w := by
  have first := (m.get?_eq_some_iff a v).mpr hv
  have second := (m.get?_eq_some_iff a w).mpr hw
  exact Option.some.inj (first.symm.trans second)

theorem lookup_insertEntry (a b : Ident k) (v : α) (es : List (Ident k × α)) :
    lookup b (insertEntry a v es) = if a = b then some v else lookup b es := by
  induction es with
  | nil => simp [insertEntry, lookup]
  | cons first rest ih =>
    simp only [insertEntry]
    split
    · simp [lookup]
    · split
      · rename_i after
        simp only [lookup, ih]
        by_cases same : a = b
        · subst same
          have other : first.1 ≠ a := by
            intro eq
            rw [eq] at after
            exact Nat.lt_irrefl _ after
          simp [other]
        · simp [same]
      · rename_i notBefore notAfter
        have same : first.1 = a := Ident.eq_of_index_eq (by omega)
        by_cases asked : a = b <;> simp [lookup, same, asked]

theorem eq_empty {m : IdentMap k α} (absent : ∀ a, m.get? a = none) : m = .empty := by
  apply ext_entries
  apply List.eq_nil_iff_forall_not_mem.mpr
  rintro ⟨a, v⟩ mem
  exact (m.get?_eq_none_iff a).mp (absent a) v mem

theorem get?_insert (m : IdentMap k α) (a b : Ident k) (v : α) :
    (m.insert a v).get? b = if a = b then some v else m.get? b :=
  lookup_insertEntry a b v m.entries

theorem mem_entries_insert (m : IdentMap k α) (a b : Ident k) (v w : α) :
    (b, w) ∈ (m.insert a v).entries ↔ (b = a ∧ w = v) ∨ (b ≠ a ∧ (b, w) ∈ m.entries) := by
  rw [← get?_eq_some_iff, ← get?_eq_some_iff, get?_insert]
  by_cases same : a = b
  · subst same
    simp [eq_comm]
  · simp [same, Ne.symm same]

theorem mem_entries_filter (m : IdentMap k α) (keep : Ident k → α → Bool) (a : Ident k) (v : α) :
    (a, v) ∈ (m.filter keep).entries ↔ (a, v) ∈ m.entries ∧ keep a v = true := by
  simp [filter, List.mem_filter]

theorem mem_entries_erase (m : IdentMap k α) (a b : Ident k) (v : α) :
    (b, v) ∈ (m.erase a).entries ↔ (b, v) ∈ m.entries ∧ b ≠ a := by
  simp [erase, mem_entries_filter]

theorem get?_filter (m : IdentMap k α) (keep : Ident k → α → Bool) (a : Ident k) :
    (m.filter keep).get? a = (m.get? a).filter (keep a) := by
  cases found : m.get? a with
  | none =>
    have absent := (m.get?_eq_none_iff a).mp found
    refine ((m.filter keep).get?_eq_none_iff a).mpr ?_
    intro v mem
    exact absent v ((m.mem_entries_filter keep a v).mp mem).1
  | some v =>
    have mem := (m.get?_eq_some_iff a v).mp found
    cases kept : keep a v with
    | true =>
      rw [Option.filter_some, kept, if_pos rfl, get?_eq_some_iff]
      exact (m.mem_entries_filter keep a v).mpr ⟨mem, kept⟩
    | false =>
      rw [Option.filter_some, kept, if_neg Bool.false_ne_true, get?_eq_none_iff]
      intro w inside
      obtain ⟨other, kept'⟩ := (m.mem_entries_filter keep a w).mp inside
      rw [entry_unique other mem, kept] at kept'
      cases kept'

theorem get?_map (m : IdentMap k α) (f : Ident k → α → β) (a : Ident k) :
    (m.map f).get? a = (m.get? a).map (f a) := by
  have each (es : List (Ident k × α)) :
      lookup a (es.map fun e => (e.1, f e.1 e.2)) = (lookup a es).map (f a) := by
    induction es with
    | nil => rfl
    | cons first rest ih =>
      simp only [List.map_cons, lookup]
      split
      · rename_i same
        rw [same, Option.map_some]
      · exact ih
  exact each m.entries

theorem insertEntry_perm {a : Ident k} {es : List (Ident k × α)} (v : α)
    (absent : ∀ e ∈ es, e.1 ≠ a) : (insertEntry a v es).Perm ((a, v) :: es) := by
  induction es with
  | nil => exact .refl _
  | cons first rest ih =>
    simp only [insertEntry]
    split
    · exact .refl _
    · split
      · have tail := ih fun e mem => absent e (List.mem_cons_of_mem first mem)
        exact (tail.cons first).trans (.swap ..)
      · rename_i notBefore notAfter
        have same : first.1 = a := Ident.eq_of_index_eq (by omega)
        exact absurd same (absent first (by simp))

theorem keys_nodup (m : IdentMap k α) : m.keys.Nodup := by
  have ordered : m.keys.Pairwise fun a b => a.index < b.index := List.pairwise_map.mpr m.ascending
  refine ordered.imp ?_
  intro a b before same
  rw [same] at before
  exact Nat.lt_irrefl _ before

theorem ext_get? {m n : IdentMap k α} (same : ∀ a, m.get? a = n.get? a) : m = n := by
  have distinct (m : IdentMap k α) : m.entries.Nodup := by
    refine m.ascending.imp ?_
    rintro a b before rfl
    exact Nat.lt_irrefl _ before
  have members (e : Ident k × α) : e ∈ m.entries ↔ e ∈ n.entries := by
    rw [← m.get?_eq_some_iff e.1 e.2, ← n.get?_eq_some_iff e.1 e.2, same]
  apply ext_entries
  refine List.Perm.eq_of_pairwise ?_ m.ascending n.ascending
    ((List.perm_ext_iff_of_nodup (distinct m) (distinct n)).mpr members)
  intro a b _ _ before after
  exact absurd (Nat.lt_trans before after) (Nat.lt_irrefl _)

end IdentMap

end AmbientSound
