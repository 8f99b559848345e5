import AmbientSound.NameTable
import Mathlib.Data.List.Induction
import Mathlib.Data.List.Nodup
/-!
Names in the order of first sight. A table holds the names that were entered, trimmed and each once,
and the identity of a name is its place, which no later name moves.
-/
namespace AmbientSound

/-- `firsts` are the members of `all`, each once, in the order in which they first appear. -/
structure FirstSeen {α : Type} [BEq α] (all firsts : List α) : Prop where
  distinct : firsts.Nodup
  mem_iff : ∀ x, x ∈ firsts ↔ x ∈ all
  order : firsts.Pairwise fun x y => all.idxOf x < all.idxOf y

namespace FirstSeen

variable {α β : Type} [BEq α] [BEq β] {all firsts : List α}

theorem nil : FirstSeen ([] : List α) [] := ⟨.nil, fun _ => Iff.rfl, .nil⟩

theorem unique {others : List α} (h : FirstSeen all firsts) (h' : FirstSeen all others) :
    firsts = others := by
  have same : firsts.Perm others := by
    refine (List.perm_ext_iff_of_nodup h.distinct h'.distinct).mpr ?_
    intro x
    rw [h.mem_iff, h'.mem_iff]
  refine same.eq_of_pairwise ?_ h.order h'.order
  intro x y _ _ before after
  exact absurd (Nat.lt_trans before after) (Nat.lt_irrefl _)

variable [LawfulBEq α] [LawfulBEq β]

theorem order_append (h : FirstSeen all firsts) (more : List α) :
    firsts.Pairwise fun x y => (all ++ more).idxOf x < (all ++ more).idxOf y := by
  refine h.order.imp_of_mem ?_
  intro x y first second before
  rwa [List.idxOf_append_of_mem ((h.mem_iff x).mp first),
    List.idxOf_append_of_mem ((h.mem_iff y).mp second)]

theorem again (h : FirstSeen all firsts) {x : α} (seen : x ∈ all) :
    FirstSeen (all ++ [x]) firsts := by
  refine ⟨h.distinct, ?_, h.order_append [x]⟩
  intro y
  rw [h.mem_iff y, List.mem_append, List.mem_singleton]
  constructor
  · exact .inl
  · rintro (old | rfl)
    · exact old
    · exact seen

theorem first (h : FirstSeen all firsts) {x : α} (new : x ∉ all) :
    FirstSeen (all ++ [x]) (firsts ++ [x]) := by
  constructor
  · refine List.nodup_append.mpr ⟨h.distinct, List.nodup_singleton x, ?_⟩
    intro y old z last same
    rw [List.mem_singleton.mp last] at same
    rw [same, h.mem_iff] at old
    exact new old
  · intro y
    rw [List.mem_append, List.mem_append, h.mem_iff]
  · refine List.pairwise_append.mpr ⟨h.order_append [x], List.pairwise_singleton _ x, ?_⟩
    intro y old z last
    rw [List.mem_singleton.mp last, List.idxOf_append_of_mem ((h.mem_iff y).mp old),
      List.idxOf_append_of_notMem new]
    have early := List.idxOf_lt_length_iff.mpr ((h.mem_iff y).mp old)
    omega

theorem eraseDups (xs : List α) : FirstSeen xs xs.eraseDups := by
  induction xs using List.reverseRecOn with
  | nil => exact nil
  | append_singleton xs x ih =>
    rw [List.eraseDups_append]
    by_cases seen : x ∈ xs
    · have nothing : ([x] : List α).removeAll xs = [] := by simp [List.removeAll, seen]
      rw [nothing, List.eraseDups_nil, List.append_nil]
      exact ih.again seen
    · have kept : ([x] : List α).removeAll xs = [x] := by simp [List.removeAll, seen]
      rw [kept]
      exact ih.first seen

theorem idxOf_map {f : α → β} (inj : Function.Injective f) (x : α) (xs : List α) :
    (xs.map f).idxOf (f x) = xs.idxOf x := by
  induction xs with
  | nil => rfl
  | cons y ys ih =>
    have same : (f y == f x) = (y == x) := by
      rw [Bool.eq_iff_iff, beq_iff_eq, beq_iff_eq, inj.eq_iff]
    simp only [List.map_cons, List.idxOf_cons, ih, same]

theorem map (h : FirstSeen all firsts) {f : α → β} (inj : Function.Injective f) :
    FirstSeen (all.map f) (firsts.map f) := by
  refine ⟨h.distinct.map inj, ?_, ?_⟩
  · intro y
    simp only [List.mem_map, h.mem_iff]
  · simp only [List.pairwise_map, idxOf_map inj]
    exact h.order

theorem of_nodup {xs : List α} (distinct : xs.Nodup) : FirstSeen xs xs := by
  induction xs using List.reverseRecOn with
  | nil => exact nil
  | append_singleton xs x ih =>
    obtain ⟨front, -, apart⟩ := List.nodup_append.mp distinct
    exact (ih front).first fun mem => apart x mem x (List.mem_singleton.mpr rfl) rfl

end FirstSeen

namespace NameTable

variable {k : Kind} {t u : NameTable k} {names : List String}

theorem name?_eq (t : NameTable k) (a : Ident k) : t.name? a = t.names.toList[a.index]? := by
  rw [name?, Array.getElem?_toList]

theorem name?_inj (t : NameTable k) {a b : Ident k} {name : String}
    (first : t.name? a = some name) (second : t.name? b = some name) : a = b := by
  rw [name?, ← t.inverse] at first second
  exact Ident.eq_of_index_eq (Option.some.inj (first.symm.trans second))

theorem find?_eq_some_iff {name : String} {a : Ident k} :
    t.find? name = some a ↔ t.name? a = some (trim name) := by
  rw [find?, Option.map_eq_some_iff, name?, ← t.inverse]
  constructor
  · rintro ⟨i, found, rfl⟩
    exact found
  · intro found
    exact ⟨a.index, found, rfl⟩

theorem find?_eq_none_iff {name : String} :
    t.find? name = none ↔ trim name ∉ t.names.toList := by
  simp only [Option.eq_none_iff_forall_ne_some, ne_eq, find?_eq_some_iff, name?_eq,
    List.mem_iff_getElem?, not_exists]
  exact ⟨fun nowhere i => nowhere ⟨i⟩, fun nowhere a => nowhere a.index⟩

theorem intern_known {name : String} (known : trim name ∈ t.names.toList) :
    (t.intern name).2 = t ∧ t.find? name = some (t.intern name).1 := by
  rw [intern]
  split
  · rename_i i found
    exact ⟨rfl, by simp [find?, found]⟩
  · rename_i absent
    exact absurd known (find?_eq_none_iff.mp (by simp [find?, absent]))

theorem intern_new {name : String} (new : trim name ∉ t.names.toList) :
    (t.intern name).1 = ⟨t.names.toList.length⟩ ∧
      (t.intern name).2.names.toList = t.names.toList ++ [trim name] := by
  have absent := find?_eq_none_iff.mpr new
  rw [find?, Option.map_eq_none_iff] at absent
  rw [intern]
  split
  · simp_all
  · simp

def Extends (u t : NameTable k) : Prop := t.names.toList <+: u.names.toList

theorem Extends.refl (t : NameTable k) : t.Extends t := List.prefix_refl _

theorem Extends.trans {v : NameTable k} (later : v.Extends u) (sooner : u.Extends t) :
    v.Extends t :=
  List.IsPrefix.trans sooner later

theorem intern_extends (t : NameTable k) (name : String) : (t.intern name).2.Extends t := by
  by_cases known : trim name ∈ t.names.toList
  · rw [(intern_known known).1]
    exact .refl t
  · rw [Extends, (intern_new known).2]
    exact List.prefix_append _ _

theorem Extends.name? (h : u.Extends t) {name : String} {a : Ident k}
    (named : t.name? a = some name) : u.name? a = some name := by
  rw [name?_eq] at named ⊢
  obtain ⟨inside, rfl⟩ := List.getElem?_eq_some_iff.mp named
  exact List.prefix_iff_getElem?.mp h a.index inside

theorem Extends.find? (h : u.Extends t) {name : String} {a : Ident k}
    (found : t.find? name = some a) : u.find? name = some a :=
  find?_eq_some_iff.mpr (h.name? (find?_eq_some_iff.mp found))

theorem Extends.new (h : u.Extends t) {name : String} {a : Ident k} (fresh : t.name? a = none)
    (named : u.name? a = some name) : name ∉ t.names.toList := by
  intro old
  obtain ⟨i, held⟩ := List.mem_iff_getElem?.mp old
  have first : t.name? ⟨i⟩ = some name := by rw [name?_eq, held]
  obtain rfl := u.name?_inj (h.name? first) named
  rw [first] at fresh
  cases fresh

theorem find?_intern (t : NameTable k) (name : String) :
    (t.intern name).2.find? name = some (t.intern name).1 := by
  by_cases known : trim name ∈ t.names.toList
  · rw [(intern_known known).1]
    exact (intern_known known).2
  · obtain ⟨id, names⟩ := intern_new known
    rw [find?_eq_some_iff, name?_eq, id, names, List.getElem?_concat_length]

def Holds (t : NameTable k) (names : List String) : Prop :=
  FirstSeen (names.map trim) t.names.toList

theorem empty_holds : (empty : NameTable k).Holds [] := FirstSeen.nil

theorem Holds.intern (h : t.Holds names) (name : String) :
    (t.intern name).2.Holds (names ++ [name]) := by
  rw [Holds, List.map_append]
  by_cases known : trim name ∈ t.names.toList
  · rw [(intern_known known).1]
    exact h.again ((h.mem_iff _).mp known)
  · rw [(intern_new known).2]
    exact h.first fun seen => known ((h.mem_iff _).mpr seen)

theorem Holds.isSome_find? (h : t.Holds names) (name : String) :
    (t.find? name).isSome ↔ trim name ∈ names.map trim := by
  rw [← h.mem_iff, ← Option.ne_none_iff_isSome, ne_eq, find?_eq_none_iff, not_not]

end NameTable

end AmbientSound
