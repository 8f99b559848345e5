import AmbientSound.Proofs.Library.Resolution
/-!
Loading as a whole. A document loads if nothing is wrong with it, and else its first fault is the
answer. What was loaded answers every question about names and sounds as the document says.
-/
namespace AmbientSound

def Definition.mentioned (d : Definition) : List String :=
  d.acoustics.map (·.name) ++ d.regions.flatMap (·.sounds.mentioned) ++ d.observer.mentioned

structure Definition.LoadedAs (d : Definition) (l : Library) : Prop where
  regionName : ∀ r, l.regionName? r = d.regions[r.index]?.map (trim ·.region)
  findRegion : ∀ name r, l.findRegion? name = some r ↔ l.regionName? r = some (trim name)
  regionCount : l.regionCount = d.regions.length
  acousticName : ∃ firsts, FirstSeen (d.mentioned.map trim) firsts ∧
    ∀ a, l.acousticName? a = firsts[a.index]?
  findAcoustic : ∀ name a, l.findAcoustic? name = some a ↔ l.acousticName? a = some (trim name)
  assetPath : ∀ a, l.assetPath? a = AcousticEntry.pathGiven? d.acoustics (l.acousticName? a)
  region : ∀ (i : ℕ) (e : RegionEntry), d.regions[i]? = some e → e.sounds.Denotes l (l.soundsOf ⟨i⟩)
  observer : d.observer.Denotes l l.observer
  candidates : ∀ (i : ℕ) (e : RegionEntry), d.regions[i]? = some e → ∀ env,
    FirstSeen ((e.sounds.loops.filter fun p => p.condition.holds env).map fun p =>
      l.findAcoustic? p.acoustic) ((l.candidates ⟨i⟩ env).map some)
  elsewhere : ∀ r, d.regions.length ≤ r.index → l.soundsOf r = .empty
  alwaysOn : ∀ env, FirstSeen ((d.observer.loops.filter fun p => p.condition.holds env).map fun p =>
      l.findAcoustic? p.acoustic) ((l.alwaysOn env).map some)

namespace Library

theorem loadRegions_regioned {filed : Library} {es : List AcousticEntry} (h : filed.Filed es)
    (rs : List RegionEntry) :
    Meets (fun l => l.Regioned filed (es.map (·.name)) rs) (faultsInTurn RegionEntry.faults [] rs)
      (rs.foldlM loadRegion filed) := by
  refine Meets.inTurn (fun before (l : Library) => l.Regioned filed (es.map (·.name)) before) rs ?_ []
    h.regioned
  intro before e _ l regioned
  have set := (l.enterRegion e.region).2.loadSet_denotes e.region e.sounds
  refine (loadRegion_meets (regioned.known_iff e.region) fun _ => set).mono ?_
  rintro _ ⟨new, state, ⟨grows, denotes⟩, rfl⟩
  exact regioned.step new grows denotes

theorem Regioned.loadedAs {d : Definition} {filed l : Library} (filedAs : filed.Filed d.acoustics)
    (h : l.Regioned filed (d.acoustics.map (·.name)) d.regions) {state : SoundSet × Library}
    (grows : l.Grows d.observer.mentioned state.2) (denotes : d.observer.Denotes state.2 state.1) :
    d.LoadedAs { state.2 with observer := state.1 } := by
  have regions : state.2.regions = l.regions := by rw [grows.frame]
  have sets : state.2.sets = l.sets := by rw [grows.frame]
  have paths : state.2.paths = filed.paths := by
    rw [grows.frame]
    exact h.paths
  have acoustics : state.2.acoustics.Holds d.mentioned := grows.holds _ h.acoustics
  have region (i : ℕ) (e : RegionEntry) (entry : d.regions[i]? = some e) :
      e.sounds.Denotes { state.2 with observer := state.1 } (state.2.soundsOf ⟨i⟩) := by
    obtain ⟨s, found, denotes'⟩ := h.sets i e entry
    rw [soundsOf, sets, found]
    exact denotes'.mono grows.extends_
  have observer : d.observer.Denotes { state.2 with observer := state.1 } state.1 :=
    denotes.mono (.refl _)
  constructor
  · intro r
    rw [regionName?, regions, NameTable.name?_eq, h.names_eq, List.getElem?_map]
  · intro name r
    rw [findRegion?, regionName?, regions]
    exact NameTable.find?_eq_some_iff
  · rw [regionCount, sets, h.size]
  · refine ⟨state.2.acoustics.names.toList, acoustics, ?_⟩
    intro a
    rw [acousticName?, NameTable.name?_eq]
  · exact fun _ _ => NameTable.find?_eq_some_iff
  · intro a
    exact filedAs.paths_later paths (grows.extends_.trans h.extends_) a
  · exact region
  · exact observer
  · intro i e entry env
    exact (region i e entry).matching env
  · intro r beyond
    rw [soundsOf, sets, h.vacant r beyond]
    rfl
  · exact observer.matching

theorem ofDefinition_meets (d : Definition) : Meets d.LoadedAs d.faults (ofDefinition d) := by
  rw [Definition.faults, List.append_assoc]
  refine (loadAcoustics_filed d.acoustics).bind fun filed filedAs => ?_
  refine (loadRegions_regioned filedAs d.regions).bind fun l regioned => ?_
  refine (l.loadSet_denotes "observer" d.observer).andThen ?_
  rintro state ⟨grows, denotes⟩
  exact ⟨_, rfl, regioned.loadedAs filedAs grows denotes⟩

theorem ofText_of_read {text : String} {d : Definition}
    (read : (Json.read? text).bind Definition.ofDatum? = some d) : ofText text = ofDefinition d := by
  rw [ofText, read]

/-- A text that is a document loads exactly if the document is valid, and its library answers as the
document says. Else the fault that the document shows first is the answer. -/
theorem loads_or_first_fault {text : String} {d : Definition}
    (read : (Json.read? text).bind Definition.ofDatum? = some d) :
    ((∃ l, ofText text = .ok l) ↔ d.Valid) ∧
    (∀ fault, ofText text = .error fault ↔ d.faults.head? = some fault) ∧
    ∀ l, ofText text = .ok l → d.LoadedAs l := by
  have meets := ofDefinition_meets d
  rw [ofText_of_read read, ← d.faults_eq_nil_iff]
  exact ⟨meets.succeeds_iff, meets.fails_iff, fun _ => meets.holds_of_ok⟩

/-- One acoustic under two spellings, first with a path and then as a loop and a spot sound. -/
def smallText : String :=
  "\x7b\"acoustics\":[\x7b\"name\":\" a\",\"path\":\"p\"\x7d],\"regions\":[\x7b\"region\":\"r\"," ++
  "\"sounds\":[\x7b\"acoustic\":\"a \"\x7d],\"spot_chance\":1," ++
  "\"spot_sounds\":[\x7b\"acoustic\":\"b\",\"weight\":2\x7d,\x7b\"acoustic\":\"a\"\x7d]\x7d]\x7d"

def smallDefinition : Definition where
  acoustics := [⟨" a", some "p"⟩]
  regions := [⟨"r", [⟨"a ", .always⟩], 1, [⟨"b", 2, .always⟩, ⟨"a", 1, .always⟩]⟩]
  observer := .empty

theorem read_smallText : (Json.read? smallText).bind Definition.ofDatum? = some smallDefinition := by
  decide +kernel

theorem smallDefinition_valid : smallDefinition.Valid :=
  (Definition.faults_eq_nil_iff _).mp (by decide +kernel)

theorem small_loads_or_first_fault :
    (Json.read? smallText).bind Definition.ofDatum? = some smallDefinition ∧
      ∃ l, ofText smallText = .ok l ∧ smallDefinition.LoadedAs l := by
  obtain ⟨succeeds, -, answers⟩ := loads_or_first_fault read_smallText
  obtain ⟨l, run⟩ := succeeds.mpr smallDefinition_valid
  exact ⟨read_smallText, l, run, answers l run⟩

end Library

end AmbientSound
