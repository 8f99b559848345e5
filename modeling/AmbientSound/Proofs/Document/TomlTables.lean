import AmbientSound.Proofs.Document.TomlLines
/-!
The table that sections describe. A section whose name is new adds one table, with an entry for each of
its assignments, in their order.
-/
namespace AmbientSound.Toml

namespace Fields

variable {fields result : Fields} {key : String} {e : Entry} {path : List String}
  {f g : Fields → Option Fields}

theorem find?_set (fields : Fields) (key : String) (e : Entry) :
    (fields.set key e).find? key = some e := by
  induction fields with
  | nil => simp [set, find?]
  | cons entry fields ih =>
    obtain ⟨name, held⟩ := entry
    by_cases same : name = key
    · rw [set, if_pos same, find?, same, List.lookup_cons_self]
    · have other : (key == name) = false := beq_eq_false_iff_ne.mpr (Ne.symm same)
      rw [set, if_neg same, find?, List.lookup_cons, other]
      exact ih

theorem set_set (fields : Fields) (key : String) (e e' : Entry) :
    (fields.set key e).set key e' = fields.set key e' := by
  induction fields with
  | nil => simp [set]
  | cons entry fields ih =>
    by_cases same : entry.1 = key
    · simp [set, same]
    · simp [set, same, ih]

theorem find?_eq_none : fields.find? key = none ↔ ∀ entry ∈ fields, entry.1 ≠ key := by
  rw [find?, List.lookup_eq_none_iff]
  simp only [bne_iff_ne, ne_comm]

theorem set_fresh (fresh : ∀ entry ∈ fields, entry.1 ≠ key) :
    fields.set key e = fields ++ [(key, e)] := by
  induction fields with
  | nil => rfl
  | cons entry fields ih =>
    obtain ⟨here, others⟩ := List.forall_mem_cons.mp fresh
    rw [set, if_neg here, ih others]
    rfl

theorem assign_fresh {d : Datum} (fresh : ∀ entry ∈ fields, entry.1 ≠ key) :
    fields.assign d [key] = some (fields ++ [(key, .value d)]) := by
  rw [assign, find?_eq_none.mpr fresh, set_fresh fresh]

/-- The fields inside an entry, and the entry around other fields in their place. -/
def opened : Option Entry → Option (Fields × (Fields → Entry))
  | none => some ([], .table .implied)
  | some (.table origin inner) => some (inner, .table origin)
  | some (.elements (last :: earlier)) => some (last, fun t => .elements (t :: earlier))
  | some _ => none

theorem opened_again {entry : Option Entry} {inside : Fields × (Fields → Entry)}
    (h : opened entry = some inside) (fs : Fields) :
    opened (some (inside.2 fs)) = some (fs, inside.2) := by
  unfold opened at h
  split at h
  · obtain rfl := Option.some.inj h
    rfl
  · obtain rfl := Option.some.inj h
    rfl
  · obtain rfl := Option.some.inj h
    rfl
  · cases h

theorem change_cons (f : Fields → Option Fields) (key : String) (path : List String)
    (fields : Fields) : fields.change f (key :: path) = (opened (fields.find? key)).bind fun inside =>
      (inside.1.change f path).bind fun fs => some (fields.set key (inside.2 fs)) := by
  rw [change]
  unfold opened
  split <;> simp_all

theorem change_bind : (fields.change f path).bind (change g path) =
    fields.change (fun fs => (f fs).bind g) path := by
  induction path generalizing fields with
  | nil => rfl
  | cons key path ih =>
    rw [change_cons, change_cons]
    cases here : opened (fields.find? key) with
    | none => rfl
    | some inside =>
      rw [Option.bind_some, Option.bind_some, ← ih]
      cases inside.1.change f path with
      | none => rfl
      | some fs =>
        rw [Option.bind_some, Option.bind_some, change_cons, find?_set, opened_again here]
        simp only [Option.bind_some, set_set]

theorem change_mono (agree : ∀ fs r, f fs = some r → g fs = some r)
    (h : fields.change f path = some result) : fields.change g path = some result := by
  induction path generalizing fields result with
  | nil => exact agree fields result h
  | cons key path ih =>
    rw [change_cons] at h ⊢
    obtain ⟨inside, here, h⟩ := Option.bind_eq_some_iff.mp h
    obtain ⟨fs, changed, h⟩ := Option.bind_eq_some_iff.mp h
    rw [here, Option.bind_some, ih changed, Option.bind_some, h]

theorem change_append (f : Fields → Option Fields) (path tail : List String) (fields : Fields) :
    fields.change f (path ++ tail) = fields.change (change f tail) path := by
  induction path generalizing fields with
  | nil => rfl
  | cons key path ih =>
    rw [List.cons_append, change_cons, change_cons]
    simp only [ih]

def addTable (key : String) (table fields : Fields) : Option Fields :=
  if fields.find? key = none then some (fields ++ [(key, .table .header table)]) else none

end Fields

def entries (pairs : List (String × Datum)) : Fields := pairs.map fun p => (p.1, .value (readAs p.2))

open Fields

section Sections

variable {fields root result : Fields} {key : String} {path current : List String}
  {pairs : List (String × Datum)}

def assigned (pairs : List (String × Datum)) (fields : Fields) : Option Fields :=
  pairs.foldlM (fun fs p => fs.assign (readAs p.2) [p.1]) fields

theorem assigned_fresh (fresh : ∀ p ∈ pairs, ∀ entry ∈ fields, entry.1 ≠ p.1)
    (distinct : (pairs.map (·.1)).Nodup) : assigned pairs fields = some (fields ++ entries pairs) := by
  induction pairs generalizing fields with
  | nil => simp [assigned, entries]
  | cons p pairs ih =>
    obtain ⟨here, others⟩ := List.forall_mem_cons.mp fresh
    obtain ⟨apart, distinct⟩ := List.nodup_cons.mp distinct
    have later : assigned pairs (fields ++ [(p.1, .value (readAs p.2))]) =
        some (fields ++ [(p.1, .value (readAs p.2))] ++ entries pairs) := by
      refine ih ?_ distinct
      intro q mem entry present
      rcases List.mem_append.mp present with old | new
      · exact others q mem entry old
      · rw [List.mem_singleton.mp new]
        exact fun same => apart (List.mem_map.mpr ⟨q, mem, same.symm⟩)
    change (fields.assign (readAs p.2) [p.1]).bind (assigned pairs) = _
    rw [assign_fresh here, Option.bind_some, later, List.append_assoc]
    rfl

theorem step_assign (root : Fields) (path : List String) (key : String) (d : Datum) :
    Draft.step ⟨root, path⟩ (.assign [key] (valueOf d)) =
      (root.change (·.assign (readAs d) [key]) path).map (⟨·, path⟩) := by
  rw [Draft.step, datum?_valueOf, Option.map_eq_bind]
  rfl

/-- Assignments under a header are changes of its one table. -/
theorem foldlM_assign (some_ : pairs ≠ []) (root : Fields) :
    (pairs.map fun p => Statement.assign [p.1] (valueOf p.2)).foldlM Draft.step ⟨root, path⟩ =
      (root.change (assigned pairs) path).map (⟨·, path⟩) := by
  induction pairs generalizing root with
  | nil => exact absurd rfl some_
  | cons p pairs ih =>
    rw [List.map_cons, List.foldlM_cons, step_assign]
    cases pairs with
    | nil =>
      have once : assigned [p] = (·.assign (readAs p.2) [p.1]) := by
        funext fs
        simp [assigned]
      rw [once]
      cases root.change (·.assign (readAs p.2) [p.1]) path <;> rfl
    | cons q pairs =>
      have both : root.change (assigned (p :: q :: pairs)) path =
          (root.change (·.assign (readAs p.2) [p.1]) path).bind (change (assigned (q :: pairs)) path) :=
        change_bind.symm
      rw [both]
      cases root.change (·.assign (readAs p.2) [p.1]) path with
      | none => rfl
      | some r => exact ih (List.cons_ne_nil _ _) r

theorem openTable_agrees (distinct : (pairs.map (·.1)).Nodup)
    (h : addTable key (entries pairs) fields = some result) :
    (fields.openTable key).bind (change (assigned pairs) [key]) = some result := by
  unfold addTable at h
  split at h
  · rename_i fresh
    obtain rfl := Option.some.inj h
    have filled : assigned pairs [] = some (entries pairs) := assigned_fresh (by simp) distinct
    rw [openTable, fresh, Option.bind_some, change_cons, find?_set]
    simp only [opened, Option.bind_some, change, filled, set_set]
    rw [set_fresh (find?_eq_none.mp fresh)]
  · cases h

structure Section.Tidy (s : Section) : Prop where
  plain : s.Plain
  some_ : s.pairs ≠ []
  distinct : (s.pairs.map (·.1)).Nodup

def Section.add (s : Section) (root : Fields) : Option Fields :=
  s.path.getLast?.bind fun key => root.change (addTable key (entries s.pairs)) s.path.dropLast

namespace Section

variable {s : Section} {sections : List Section}

theorem foldlM_top (tidy : s.Tidy) (top : s.path = []) :
    s.statements.foldlM Draft.step ⟨[], []⟩ = some ⟨entries s.pairs, []⟩ := by
  rw [statements, if_pos top, List.nil_append, foldlM_assign tidy.some_, change,
    assigned_fresh (by simp) tidy.distinct]
  rfl

theorem foldlM_header (tidy : s.Tidy) (adds : s.add root = some result) :
    s.statements.foldlM Draft.step ⟨root, current⟩ = some ⟨result, s.path⟩ := by
  obtain ⟨key, last, adds⟩ := Option.bind_eq_some_iff.mp adds
  have named : s.path ≠ [] := by
    rintro none
    rw [none] at last
    cases last
  have header : s.path = s.path.dropLast ++ [key] := (List.dropLast_append_getLast? key last).symm
  have opens : Draft.step ⟨root, current⟩ (.table s.path) =
      (root.change (·.openTable key) s.path.dropLast).map (⟨·, s.path⟩) := by
    rw [Draft.step, last, Option.map_eq_bind]
    rfl
  have whole : (root.change (·.openTable key) s.path.dropLast).bind
      (change (assigned s.pairs) s.path) = some result := by
    have same : change (assigned s.pairs) s.path =
        change (change (assigned s.pairs) [key]) s.path.dropLast := by
      funext fs
      rw [← change_append, ← header]
    rw [same, change_bind]
    exact change_mono (fun _ _ => openTable_agrees tidy.distinct) adds
  obtain ⟨r, opened, filled⟩ := Option.bind_eq_some_iff.mp whole
  rw [statements, if_neg named, List.singleton_append, List.foldlM_cons, opens, opened]
  change (s.pairs.map _).foldlM Draft.step ⟨r, s.path⟩ = _
  rw [foldlM_assign tidy.some_, filled]
  rfl

theorem foldlM_headers (tidy : ∀ s ∈ sections, s.Tidy) (current : List String)
    (adds : sections.foldlM (fun r s => s.add r) root = some result) : ∃ last,
      (sections.flatMap statements).foldlM Draft.step ⟨root, current⟩ = some ⟨result, last⟩ := by
  induction sections generalizing root current with
  | nil =>
    obtain rfl := Option.some.inj adds
    exact ⟨current, rfl⟩
  | cons s sections ih =>
    obtain ⟨here, others⟩ := List.forall_mem_cons.mp tidy
    rw [List.foldlM_cons] at adds
    obtain ⟨r, added, adds⟩ := Option.bind_eq_some_iff.mp adds
    obtain ⟨last, folded⟩ := ih others s.path adds
    refine ⟨last, ?_⟩
    rw [List.flatMap_cons, List.foldlM_append, foldlM_header here added]
    exact folded

end Section

/-- Sections are read as the tables that they add to the entries of the first. -/
theorem read?_render {s : Section} {sections : List Section} (tidy : ∀ p ∈ s :: sections, p.Tidy)
    (top : s.path = []) (adds : sections.foldlM (fun r s => s.add r) (entries s.pairs) = some result) :
    read? (render (s :: sections)) = some (.record result.datum) := by
  obtain ⟨here, others⟩ := List.forall_mem_cons.mp tidy
  have lines := statements?_render fun p mem => (tidy p mem).plain
  obtain ⟨last, folded⟩ := Section.foldlM_headers others [] adds
  have whole : ((s :: sections).flatMap Section.statements).foldlM Draft.step ⟨[], []⟩ =
      some ⟨result, last⟩ := by
    rw [List.flatMap_cons, List.foldlM_append, Section.foldlM_top here top]
    exact folded
  rw [read?, lines]
  change (((s :: sections).flatMap Section.statements).foldlM Draft.step ⟨[], []⟩).bind _ = _
  rw [whole]
  rfl

end Sections

end AmbientSound.Toml
