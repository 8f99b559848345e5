import AmbientSound.Proofs.Library.Loading
import AmbientSound.Proofs.Lookup
import AmbientSound.Proofs.Names
import Mathlib.Data.List.Forall2
/-!
How the names of a document become identities. What an entry named is found under the same identity
in every later state of loading, so that at the end each set of sounds says what its entry said.
-/
namespace AmbientSound

theorem IdentMap.size_insert_new {k : Kind} {α : Type} {m : IdentMap k α} {a : Ident k} (v : α)
    (new : m.get? a = none) : (m.insert a v).size = m.size + 1 := by
  have absent : ∀ e ∈ m.entries, e.1 ≠ a := by
    rintro e mem rfl
    exact (m.get?_eq_none_iff e.1).mp new e.2 mem
  exact (insertEntry_perm v absent).length_eq

namespace Library

variable {l m n : Library} {names more : List String}

/-- Nothing but names of acoustics was entered from `l` to `m`. -/
structure Grows (l : Library) (names : List String) (m : Library) : Prop where
  frame : m = { l with acoustics := m.acoustics }
  extends_ : m.acoustics.Extends l.acoustics
  holds : ∀ before, l.acoustics.Holds before → m.acoustics.Holds (before ++ names)

theorem Grows.refl (l : Library) : l.Grows [] l where
  frame := rfl
  extends_ := .refl _
  holds before h := by rwa [List.append_nil]

theorem Grows.trans (h : l.Grows names m) (h' : m.Grows more n) : l.Grows (names ++ more) n where
  frame := by rw [h'.frame, h.frame]
  extends_ := h'.extends_.trans h.extends_
  holds before known := by
    rw [← List.append_assoc]
    exact h'.holds _ (h.holds before known)

theorem grows_enterAcoustic (l : Library) (name : String) :
    l.Grows [name] (l.enterAcoustic name).2 where
  frame := rfl
  extends_ := l.acoustics.intern_extends name
  holds _ known := known.intern name

theorem findAcoustic?_enterAcoustic (l : Library) (name : String) :
    (l.enterAcoustic name).2.findAcoustic? name = some (l.enterAcoustic name).1 :=
  l.acoustics.find?_intern name

end Library

def LoopEntry.Denotes (l : Library) (p : LoopEntry) (q : Loop) : Prop :=
  l.findAcoustic? p.acoustic = some q.acoustic ∧ p.condition = q.condition

def SpotEntry.Denotes (l : Library) (p : SpotEntry) (q : Spot) : Prop :=
  l.findAcoustic? p.acoustic = some q.acoustic ∧ p.weight = q.weight ∧ p.condition = q.condition

namespace SetEntry

def mentioned (e : SetEntry) : List String := e.loops.map (·.acoustic) ++ e.spots.map (·.acoustic)

theorem mentioned_loop (before : List LoopEntry) (p : LoopEntry) (chance : Float32) :
    mentioned ⟨before ++ [p], chance, []⟩ = mentioned ⟨before, chance, []⟩ ++ [p.acoustic] := by
  simp [mentioned]

theorem mentioned_spot (loops : List LoopEntry) (before : List SpotEntry) (p : SpotEntry)
    (chance : Float32) : mentioned ⟨loops, chance, before ++ [p]⟩ =
      mentioned ⟨loops, chance, before⟩ ++ [p.acoustic] := by
  simp [mentioned]

/-- A set of sounds says what an entry says, with identities in place of names. -/
structure Denotes (l : Library) (e : SetEntry) (s : SoundSet) : Prop where
  loops : List.Forall₂ (LoopEntry.Denotes l) e.loops s.loops
  chance : s.chance = e.chance
  spots : List.Forall₂ (SpotEntry.Denotes l) e.spots s.spots

variable {l m : Library} {e : SetEntry} {s : SoundSet}

theorem Denotes.mono (h : e.Denotes l s) (later : m.acoustics.Extends l.acoustics) :
    e.Denotes m s where
  loops := h.loops.imp fun _ _ found => ⟨later.find? found.1, found.2⟩
  chance := h.chance
  spots := h.spots.imp fun _ _ found => ⟨later.find? found.1, found.2⟩

/-- The loops that apply are those of the entry, each acoustic at its first place. -/
theorem Denotes.matching (h : e.Denotes l s) (env : Environment) :
    FirstSeen ((e.loops.filter fun p => p.condition.holds env).map fun p =>
      l.findAcoustic? p.acoustic) ((s.matching env).map some) := by
  have applying : List.Forall₂ (LoopEntry.Denotes l) (e.loops.filter fun p => p.condition.holds env)
      (s.loops.filter fun q => q.condition.holds env) := by
    refine List.rel_filter ?_ h.loops
    rintro p q ⟨-, same⟩
    simp only [same]
  have found : ((e.loops.filter fun p => p.condition.holds env).map fun p =>
      l.findAcoustic? p.acoustic) =
        ((s.loops.filter fun q => q.condition.holds env).map (·.acoustic)).map some := by
    rw [List.map_map, ← List.forall₂_eq_eq_eq, List.forall₂_map_left_iff,
      List.forall₂_map_right_iff]
    exact applying.imp fun _ _ given => given.1
  rw [found]
  exact (FirstSeen.eraseDups _).map fun _ _ => Option.some.inj

end SetEntry

namespace Library

theorem loadSet_denotes (l : Library) (owner : String) (e : SetEntry) :
    Meets (fun state => l.Grows e.mentioned state.2 ∧ e.Denotes state.2 state.1) (e.faults owner)
      (l.loadSet owner e) := by
  refine l.loadSet_meets owner e
    (fun loops spots state => l.Grows (SetEntry.mentioned ⟨loops, e.chance, spots⟩) state.2 ∧
      SetEntry.Denotes state.2 ⟨loops, e.chance, spots⟩ state.1) ?_ ?_ ?_
  · intro _
    exact ⟨.refl l, .nil, rfl, .nil⟩
  · rintro before p state ⟨grows, denotes⟩
    have entered := state.2.grows_enterAcoustic p.acoustic
    have kept := denotes.mono entered.extends_
    constructor
    · rw [SetEntry.mentioned_loop]
      exact grows.trans entered
    · refine ⟨List.rel_append kept.loops (.cons ?_ .nil), kept.chance, kept.spots⟩
      exact ⟨state.2.findAcoustic?_enterAcoustic p.acoustic, rfl⟩
  · rintro before p - state - ⟨grows, denotes⟩
    have entered := state.2.grows_enterAcoustic p.acoustic
    have kept := denotes.mono entered.extends_
    constructor
    · rw [SetEntry.mentioned_spot]
      exact grows.trans entered
    · refine ⟨kept.loops, kept.chance, List.rel_append kept.spots (.cons ?_ .nil)⟩
      exact ⟨state.2.findAcoustic?_enterAcoustic p.acoustic, rfl, rfl⟩

end Library

def AcousticEntry.pathGiven? (es : List AcousticEntry) (name : Option String) : Option String :=
  ((es.filter fun e => name = some (trim e.name)).filterMap (·.path)).getLast?

namespace AcousticEntry

theorem pathGiven?_snoc (es : List AcousticEntry) (e : AcousticEntry) (name : Option String) :
    pathGiven? (es ++ [e]) name =
      if name = some (trim e.name) then e.path.or (pathGiven? es name) else pathGiven? es name := by
  unfold pathGiven?
  rw [List.filter_append]
  by_cases asked : name = some (trim e.name)
  · rw [if_pos asked, List.filterMap_append, List.getLast?_append]
    cases path : e.path <;> simp [asked, path]
  · rw [if_neg asked]
    simp [asked]

theorem pathGiven?_eq_none {es : List AcousticEntry} {name : Option String}
    (other : ∀ e ∈ es, name ≠ some (trim e.name)) : pathGiven? es name = none := by
  have nothing : es.filter (fun e => name = some (trim e.name)) = [] := by
    simpa [List.filter_eq_nil_iff] using other
  rw [pathGiven?, nothing]
  rfl

end AcousticEntry

namespace Library

variable {l m : Library} {es : List AcousticEntry}

structure Filed (es : List AcousticEntry) (l : Library) : Prop where
  regions : l.regions = .empty
  sets : l.sets = .empty
  observer : l.observer = .empty
  acoustics : l.acoustics.Holds (es.map (·.name))
  paths : ∀ a, l.assetPath? a = AcousticEntry.pathGiven? es (l.acousticName? a)

theorem Filed.paths_later (h : l.Filed es) (kept : m.paths = l.paths)
    (later : m.acoustics.Extends l.acoustics) (a : AcousticId) :
    m.assetPath? a = AcousticEntry.pathGiven? es (m.acousticName? a) := by
  have same : m.assetPath? a = l.assetPath? a := by rw [assetPath?, kept, assetPath?]
  rw [same, h.paths a]
  cases named : l.acousticName? a with
  | some name => rw [show m.acousticName? a = some name from later.name? named]
  | none =>
    rw [AcousticEntry.pathGiven?_eq_none (by simp)]
    refine (AcousticEntry.pathGiven?_eq_none ?_).symm
    intro e mem named'
    refine later.new named named' ?_
    rw [h.acoustics.mem_iff]
    exact List.mem_map_of_mem (List.mem_map_of_mem mem)

theorem Filed.step (h : l.Filed es) (e : AcousticEntry) :
    (l.fileAcoustic e).Filed (es ++ [e]) := by
  have entered := l.grows_enterAcoustic e.name
  have holds : (l.enterAcoustic e.name).2.acoustics.Holds ((es ++ [e]).map (·.name)) := by
    rw [List.map_append]
    exact entered.holds _ h.acoustics
  have before := h.paths_later (m := (l.enterAcoustic e.name).2) rfl entered.extends_
  have named (a : AcousticId) : (l.enterAcoustic e.name).2.acousticName? a = some (trim e.name) ↔
      (l.enterAcoustic e.name).1 = a := by
    rw [acousticName?, ← NameTable.find?_eq_some_iff]
    change (l.enterAcoustic e.name).2.findAcoustic? e.name = some a ↔ _
    rw [l.findAcoustic?_enterAcoustic, Option.some_inj]
  unfold fileAcoustic
  cases path : e.path with
  | none =>
    refine ⟨h.regions, h.sets, h.observer, holds, ?_⟩
    intro a
    rw [AcousticEntry.pathGiven?_snoc, path, Option.none_or, ite_self]
    exact before a
  | some path =>
    refine ⟨h.regions, h.sets, h.observer, holds, ?_⟩
    intro a
    rw [AcousticEntry.pathGiven?_snoc, path, assetPath?, IdentMap.get?_insert]
    by_cases own : (l.enterAcoustic e.name).1 = a
    · rw [if_pos own]
      exact (if_pos ((named a).mpr own)).symm
    · rw [if_neg own]
      exact (before a).trans (if_neg fun other => own ((named a).mp other)).symm

theorem loadAcoustics_filed (es : List AcousticEntry) :
    Meets (Filed es) (es.flatMap fun e => blankFault "acoustics" e.name)
      (es.foldlM loadAcoustic empty) := by
  refine Meets.foldlM Filed es ?_ ?_
  · intro before e _ l filed
    refine (l.loadAcoustic_meets e).mono ?_
    rintro _ rfl
    exact filed.step e
  · exact ⟨rfl, rfl, rfl, NameTable.empty_holds, fun _ => rfl⟩

/-- What the entries of regions add to a library that has entries of acoustics alone. -/
structure Regioned (l filed : Library) (names : List String) (es : List RegionEntry) : Prop where
  regions : l.regions.Holds (es.map (·.region))
  distinct : (es.map (trim ·.region)).Nodup
  extends_ : l.acoustics.Extends filed.acoustics
  acoustics : l.acoustics.Holds (names ++ es.flatMap (·.sounds.mentioned))
  paths : l.paths = filed.paths
  sets : ∀ i e, es[i]? = some e → ∃ s, l.sets.get? ⟨i⟩ = some s ∧ e.sounds.Denotes l s
  vacant : ∀ r, es.length ≤ r.index → l.sets.get? r = none
  observer : l.observer = .empty
  size : l.sets.size = es.length

variable {filed : Library} {names : List String} {before : List RegionEntry}

theorem Filed.regioned (h : l.Filed es) : l.Regioned l (es.map (·.name)) [] where
  regions := by
    rw [h.regions]
    exact NameTable.empty_holds
  distinct := .nil
  extends_ := .refl _
  acoustics := by
    rw [List.flatMap_nil, List.append_nil]
    exact h.acoustics
  paths := rfl
  sets i e entry := by cases entry
  vacant r _ := by
    rw [h.sets]
    rfl
  observer := h.observer
  size := by
    rw [h.sets]
    rfl

theorem Regioned.names_eq (h : l.Regioned filed names before) :
    l.regions.names.toList = before.map (trim ·.region) := by
  have seen := h.regions
  rw [NameTable.Holds, List.map_map] at seen
  exact seen.unique (.of_nodup h.distinct)

theorem Regioned.known_iff (h : l.Regioned filed names before) (name : String) :
    (l.findRegion? name).isSome ↔ trim name ∈ before.map (trim ·.region) := by
  rw [findRegion?, h.regions.isSome_find?, List.map_map]
  rfl

theorem Regioned.enterRegion_eq (h : l.Regioned filed names before) {name : String}
    (new : trim name ∉ before.map (trim ·.region)) : (l.enterRegion name).1 = ⟨before.length⟩ := by
  rw [← h.names_eq] at new
  rw [enterRegion, (NameTable.intern_new new).1, h.names_eq, List.length_map]

theorem fileSet_get? (r q : RegionId) (state : SoundSet × Library) :
    (fileSet r state).sets.get? q = if r = q then some state.1 else state.2.sets.get? q :=
  state.2.sets.get?_insert r q state.1

section NewSet

/-! The set of a new region stands behind all others, so none of them is overwritten. -/

variable {state : SoundSet × Library} (h : l.Regioned filed names before)
  (sets : state.2.sets = l.sets)
include h sets

theorem Regioned.fileSet_vacant (e : RegionEntry) (r : RegionId)
    (beyond : (before ++ [e]).length ≤ r.index) :
    (fileSet ⟨before.length⟩ state).sets.get? r = none := by
  rw [List.length_append, List.length_singleton] at beyond
  have other : (⟨before.length⟩ : RegionId) ≠ r := by
    rintro rfl
    simp only at beyond
    omega
  rw [fileSet_get?, if_neg other, sets]
  exact h.vacant r (by omega)

theorem Regioned.fileSet_denotes {e : RegionEntry}
    (grows : state.2.acoustics.Extends l.acoustics) (denotes : e.sounds.Denotes state.2 state.1)
    (i : Nat) (f : RegionEntry) (entry : (before ++ [e])[i]? = some f) :
    ∃ s, (fileSet ⟨before.length⟩ state).sets.get? ⟨i⟩ = some s ∧
      f.sounds.Denotes (fileSet ⟨before.length⟩ state) s := by
  rw [fileSet_get?, sets]
  rcases Nat.lt_or_ge i before.length with old | last
  · have other : (⟨before.length⟩ : RegionId) ≠ ⟨i⟩ := by
      rintro ⟨⟩
      exact Nat.lt_irrefl _ old
    rw [List.getElem?_append_left old] at entry
    rw [if_neg other]
    obtain ⟨s, found, denotes'⟩ := h.sets i f entry
    exact ⟨s, found, denotes'.mono grows⟩
  · obtain ⟨inside, same⟩ := List.getElem?_eq_some_iff.mp entry
    rw [List.length_append, List.length_singleton] at inside
    obtain rfl : i = before.length := by omega
    rw [List.getElem_concat_length rfl] at same
    rw [if_pos rfl, ← same]
    exact ⟨state.1, rfl, denotes.mono (.refl _)⟩

end NewSet

theorem Regioned.step (h : l.Regioned filed names before) {e : RegionEntry}
    (new : trim e.region ∉ before.map (trim ·.region)) {state : SoundSet × Library}
    (grows : (l.enterRegion e.region).2.Grows e.sounds.mentioned state.2)
    (denotes : e.sounds.Denotes state.2 state.1) :
    (fileSet (l.enterRegion e.region).1 state).Regioned filed names (before ++ [e]) := by
  have sets : state.2.sets = l.sets := by rw [grows.frame]; rfl
  have regions : state.2.regions = (l.regions.intern e.region).2 := by rw [grows.frame]; rfl
  rw [h.enterRegion_eq new]
  constructor
  · rw [List.map_append]
    change state.2.regions.Holds _
    rw [regions]
    exact h.regions.intern e.region
  · rw [List.map_append]
    refine List.nodup_append.mpr ⟨h.distinct, List.nodup_singleton _, ?_⟩
    rintro name old _ last rfl
    rw [List.map_singleton, List.mem_singleton] at last
    exact new (last ▸ old)
  · exact grows.extends_.trans h.extends_
  · rw [List.flatMap_append, ← List.append_assoc, List.flatMap_singleton]
    exact grows.holds _ h.acoustics
  · change state.2.paths = _
    rw [grows.frame]
    exact h.paths
  · exact h.fileSet_denotes sets grows.extends_ denotes
  · exact h.fileSet_vacant sets e
  · change state.2.observer = _
    rw [grows.frame]
    exact h.observer
  · change (state.2.sets.insert _ state.1).size = _
    rw [sets, IdentMap.size_insert_new _ (h.vacant _ (Nat.le_refl _)), h.size, List.length_append]
    rfl

end Library

end AmbientSound
