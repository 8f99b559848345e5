import AmbientSound.Proofs.Names
import AmbientSound.Proofs.Text.Trimming
/-!
Entering names one after the other. A table that was filled so gives its identities to the trimmed
names one to one: each name finds the identity that it got, each identity the name it was given to,
and nothing that is entered later changes either.
-/
namespace AmbientSound

namespace NameTable

variable {k : Kind} {t u : NameTable k} {names more : List String}

def internAll (t : NameTable k) : List String → List (Ident k) × NameTable k
  | [] => ([], t)
  | name :: names =>
    let (a, t) := t.intern name
    let (as, t) := t.internAll names
    (a :: as, t)

theorem internAll_extends (t : NameTable k) (names : List String) :
    (t.internAll names).2.Extends t := by
  induction names generalizing t with
  | nil => exact .refl t
  | cons name names ih => exact (ih _).trans (t.intern_extends name)

theorem Holds.internAll (h : t.Holds names) (more : List String) :
    (t.internAll more).2.Holds (names ++ more) := by
  induction more generalizing t names with
  | nil => rwa [List.append_nil]
  | cons name more ih =>
    rw [List.append_cons]
    exact ih (h.intern name)

/-- What a name got is what it finds at the end. -/
theorem internAll_finds (t : NameTable k) (names : List String) :
    (t.internAll names).1.map some = names.map (t.internAll names).2.find? := by
  induction names generalizing t with
  | nil => rfl
  | cons name names ih =>
    have first := (internAll_extends _ names).find? (t.find?_intern name)
    exact congrArg₂ List.cons first.symm (ih _)

theorem mem_toList {e : Ident k × String} : e ∈ t.toList ↔ t.name? e.1 = some e.2 := by
  obtain ⟨⟨i⟩, name⟩ := e
  simp [toList, name?_eq, List.mk_mem_zipIdx_iff_getElem?]

theorem toList_indices (t : NameTable k) : t.toList.map (·.1.index) = List.range t.size := by
  simp [toList, size, Function.comp_def, List.zipIdx_map_snd, List.range_eq_range']

theorem toList_names (t : NameTable k) : t.toList.map (·.2) = t.names.toList := by
  simp [toList, Function.comp_def, List.zipIdx_map_fst]

theorem isSome_name? {a : Ident k} : (t.name? a).isSome ↔ a.index < t.size := by
  simp [name?, size, ← Option.ne_none_iff_isSome]

theorem Holds.entered (h : t.Holds names) {a : Ident k} {name : String}
    (named : t.name? a = some name) : ∃ s ∈ names, trim s = name := by
  rw [name?_eq] at named
  exact List.mem_map.mp ((h.mem_iff name).mp (List.mem_of_getElem? named))

theorem Holds.trimmed (h : t.Holds names) {a : Ident k} {name : String}
    (named : t.name? a = some name) : Trimmed name.toList := by
  obtain ⟨s, -, rfl⟩ := h.entered named
  exact trim_trimmed s

/-- A table holds these names and nothing else, and gave them these identities. -/
structure Interned (t : NameTable k) (names : List String) (given : List (Ident k)) : Prop where
  answers : given.map some = names.map t.find?
  given_iff : ∀ a, a ∈ given ↔ a.index < t.size
  named_iff : ∀ a, (t.name? a).isSome ↔ a.index < t.size
  numbered : t.toList.map (·.1.index) = List.range t.size
  listed : ∀ e, e ∈ t.toList ↔ t.name? e.1 = some e.2
  firstSeen : FirstSeen (names.map trim) (t.toList.map (·.2))
  trimmed : ∀ e ∈ t.toList, Trimmed e.2.toList
  name : ∀ p ∈ names.zip given, t.name? p.2 = some (trim p.1)
  same_iff : ∀ p ∈ names.zip given, ∀ q ∈ names.zip given, p.2 = q.2 ↔ trim p.1 = trim q.1
  known_iff : ∀ name, (t.find? name).isSome ↔ trim name ∈ names.map trim
  find_iff : ∀ name a, t.find? name = some a ↔ t.name? a = some (trim name)
  find_name : ∀ a name, t.name? a = some name → t.find? name = some a

section

variable {given : List (Ident k)} (finds : given.map some = names.map t.find?)

include finds

theorem find?_of_mem_zip {p : String × Ident k} (mem : p ∈ names.zip given) :
    t.find? p.1 = some p.2 := by
  have pairs : (names.map t.find?).Forall₂ Eq (given.map some) := by
    rw [List.forall₂_eq_eq_eq, finds]
  rw [List.forall₂_map_left_iff, List.forall₂_map_right_iff] at pairs
  exact List.forall₂_zip pairs mem

/-- Names have the same identity if and only if they are the same once trimmed. -/
theorem given_eq_iff {p q : String × Ident k} (mem : p ∈ names.zip given)
    (mem' : q ∈ names.zip given) : p.2 = q.2 ↔ trim p.1 = trim q.1 := by
  have first := find?_eq_some_iff.mp (find?_of_mem_zip finds mem)
  have second := find?_eq_some_iff.mp (find?_of_mem_zip finds mem')
  constructor
  · intro same
    rw [same, second] at first
    exact (Option.some.inj first).symm
  · intro same
    rw [same, ← find?_eq_some_iff, find?_of_mem_zip finds mem'] at first
    exact (Option.some.inj first).symm

theorem Holds.mem_given_iff (h : t.Holds names) {a : Ident k} :
    a ∈ given ↔ a.index < t.size := by
  have same : a ∈ given ↔ ∃ name ∈ names, t.find? name = some a := by
    rw [← List.mem_map, ← finds]
    exact (List.mem_map_of_injective fun _ _ => Option.some.inj).symm
  rw [same, ← isSome_name?, Option.isSome_iff_exists]
  constructor
  · rintro ⟨name, -, found⟩
    exact ⟨trim name, find?_eq_some_iff.mp found⟩
  · rintro ⟨_, named⟩
    obtain ⟨name, mem, rfl⟩ := h.entered named
    exact ⟨name, mem, find?_eq_some_iff.mpr named⟩

theorem Holds.interned (h : t.Holds names) : t.Interned names given where
  answers := finds
  given_iff _ := h.mem_given_iff finds
  named_iff _ := isSome_name?
  numbered := t.toList_indices
  listed _ := mem_toList
  firstSeen := by
    rw [toList_names]
    exact h
  trimmed _ mem := h.trimmed (mem_toList.mp mem)
  name _ mem := find?_eq_some_iff.mp (find?_of_mem_zip finds mem)
  same_iff _ mem _ mem' := given_eq_iff finds mem mem'
  known_iff := h.isSome_find?
  find_iff _ _ := find?_eq_some_iff
  find_name a name named := by
    obtain ⟨s, -, rfl⟩ := h.entered named
    rw [find?_eq_some_iff, trim_trim, named]

end

/-- However names are entered, identities and trimmed names correspond one to one, and what is
entered later leaves every answer about them as it is. -/
theorem interning_bijective (names : List String) :
    ∃ given t, (empty : NameTable k).internAll names = (given, t) ∧ t.Interned names given ∧
      ∀ more, (∀ a name, t.name? a = some name → (t.internAll more).2.name? a = some name) ∧
        ∀ name a, t.find? name = some a → (t.internAll more).2.find? name = some a := by
  have holds := (empty_holds (k := k)).internAll names
  refine ⟨_, _, rfl, holds.interned (internAll_finds _ names), ?_⟩
  intro more
  have later := internAll_extends ((empty : NameTable k).internAll names).2 more
  exact ⟨fun _ _ => later.name?, fun _ _ => later.find?⟩

example : ((empty : NameTable .region).internAll ["forest", "plains", "  forest\u3000"]).1 =
    [⟨0⟩, ⟨1⟩, ⟨0⟩] := by decide +kernel

end NameTable

end AmbientSound
