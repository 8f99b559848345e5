import AmbientSound.Library.Load
/-!
What can be wrong with a library document: the faults in the order in which its parts are looked at,
and the documents that have none.
-/
namespace AmbientSound

def blankFault (owner name : String) : List LoadError :=
  if isBlankText name then [.emptyName owner] else []

def SpotEntry.faults (owner : String) (e : SpotEntry) : List LoadError :=
  (if e.weight = 0 then [.zeroWeight owner e.acoustic] else []) ++ blankFault owner e.acoustic

def SetEntry.faults (owner : String) (e : SetEntry) : List LoadError :=
  (if 0 ≤ e.chance ∧ e.chance ≤ 1 then [] else [.chanceOutOfRange owner e.chance]) ++
    e.loops.flatMap (fun p => blankFault owner p.acoustic) ++ e.spots.flatMap (·.faults owner)

def RegionEntry.faults (earlier : List RegionEntry) (e : RegionEntry) : List LoadError :=
  blankFault "regions" e.region ++
    (if trim e.region ∈ earlier.map (trim ·.region) then [.duplicateRegion e.region] else []) ++
    e.sounds.faults e.region

/-- The faults of entries that are looked at one after the other, each with those before it. -/
def faultsInTurn {α : Type} (faults : List α → α → List LoadError) (before : List α) :
    List α → List LoadError
  | [] => []
  | x :: xs => faults before x ++ faultsInTurn faults (before ++ [x]) xs

def Definition.faults (d : Definition) : List LoadError :=
  d.acoustics.flatMap (fun e => blankFault "acoustics" e.name) ++
    faultsInTurn RegionEntry.faults [] d.regions ++ d.observer.faults "observer"

structure SetEntry.Valid (e : SetEntry) : Prop where
  chance : 0 ≤ e.chance ∧ e.chance ≤ 1
  loops : ∀ p ∈ e.loops, trim p.acoustic ≠ ""
  spots : ∀ p ∈ e.spots, trim p.acoustic ≠ "" ∧ 1 ≤ p.weight

structure Definition.Valid (d : Definition) : Prop where
  acoustics : ∀ e ∈ d.acoustics, trim e.name ≠ ""
  regions : ∀ e ∈ d.regions, trim e.region ≠ ""
  distinct : (d.regions.map (trim ·.region)).Nodup
  sounds : ∀ e ∈ d.regions, e.sounds.Valid
  observer : d.observer.Valid

theorem isBlankText_iff (name : String) : isBlankText name = true ↔ trim name = "" := by
  rw [isBlankText, String.isEmpty_iff]

theorem blankFault_eq_nil_iff {owner name : String} : blankFault owner name = [] ↔ trim name ≠ "" := by
  simp [blankFault, isBlankText_iff]

theorem SpotEntry.faults_eq_nil_iff {owner : String} {e : SpotEntry} :
    e.faults owner = [] ↔ trim e.acoustic ≠ "" ∧ 1 ≤ e.weight := by
  rw [faults, List.append_eq_nil_iff, blankFault_eq_nil_iff, and_comm]
  simp [Nat.one_le_iff_ne_zero]

theorem SetEntry.faults_eq_nil_iff {owner : String} {e : SetEntry} :
    e.faults owner = [] ↔ e.Valid := by
  simp only [faults, List.append_eq_nil_iff, List.flatMap_eq_nil_iff, blankFault_eq_nil_iff,
    SpotEntry.faults_eq_nil_iff]
  constructor
  · rintro ⟨⟨chance, loops⟩, spots⟩
    refine ⟨Decidable.byContradiction fun out => ?_, loops, spots⟩
    rw [if_neg out] at chance
    cases chance
  · intro valid
    exact ⟨⟨if_pos valid.chance, valid.loops⟩, valid.spots⟩

theorem RegionEntry.faults_eq_nil_iff {earlier : List RegionEntry} {e : RegionEntry} :
    e.faults earlier = [] ↔
      trim e.region ≠ "" ∧ trim e.region ∉ earlier.map (trim ·.region) ∧ e.sounds.Valid := by
  rw [faults, List.append_eq_nil_iff, List.append_eq_nil_iff, blankFault_eq_nil_iff,
    SetEntry.faults_eq_nil_iff, and_assoc]
  simp

/-- Nothing is wrong behind earlier regions if each is valid by itself and none repeats another. -/
theorem RegionEntry.faultsInTurn_eq_nil_iff (earlier es : List RegionEntry) :
    faultsInTurn RegionEntry.faults earlier es = [] ↔ (∀ e ∈ es, trim e.region ≠ "" ∧ e.sounds.Valid ∧
      trim e.region ∉ earlier.map (trim ·.region)) ∧ (es.map (trim ·.region)).Nodup := by
  induction es generalizing earlier with
  | nil => simp [faultsInTurn]
  | cons e es ih =>
    rw [faultsInTurn, List.append_eq_nil_iff, faults_eq_nil_iff, ih]
    simp only [List.map_append, List.mem_append, List.map_cons, List.map_nil, List.mem_singleton,
      not_or, List.forall_mem_cons, List.nodup_cons]
    constructor
    · rintro ⟨⟨named, new, sounds⟩, later, distinct⟩
      refine ⟨⟨⟨named, sounds, new⟩, fun f mem => ?_⟩, ?_, distinct⟩
      · exact ⟨(later f mem).1, (later f mem).2.1, (later f mem).2.2.1⟩
      · intro again
        obtain ⟨f, mem, same⟩ := List.mem_map.mp again
        exact (later f mem).2.2.2 same
    · rintro ⟨⟨⟨named, sounds, new⟩, later⟩, single, distinct⟩
      refine ⟨⟨named, new, sounds⟩, fun f mem => ?_, distinct⟩
      obtain ⟨named', sounds', new'⟩ := later f mem
      refine ⟨named', sounds', new', fun same => single ?_⟩
      rw [← same]
      exact List.mem_map_of_mem mem

theorem Definition.faults_eq_nil_iff (d : Definition) : d.faults = [] ↔ d.Valid := by
  simp only [faults, List.append_eq_nil_iff, List.flatMap_eq_nil_iff, blankFault_eq_nil_iff,
    RegionEntry.faultsInTurn_eq_nil_iff, SetEntry.faults_eq_nil_iff, List.map_nil, List.not_mem_nil,
    not_false_eq_true, and_true]
  constructor
  · rintro ⟨⟨acoustics, regions, distinct⟩, observer⟩
    exact ⟨acoustics, fun e mem => (regions e mem).1, distinct, fun e mem => (regions e mem).2,
      observer⟩
  · intro valid
    exact ⟨⟨valid.acoustics, fun e mem => ⟨valid.regions e mem, valid.sounds e mem⟩,
      valid.distinct⟩, valid.observer⟩

end AmbientSound
