import AmbientSound.Proofs.Library.Drawing
/-!
A valid document whose spot sounds always apply can as well be built by hand. Loading fills a set
before it puts it in its place, and by hand it is put back after each sound; in between the two
libraries would already give the same answers if the set were put in its place.
-/
namespace AmbientSound

namespace SoundSet

/-- No question tells the sets apart. Without spot sounds none asks for the chance. -/
structure Alike (s t : SoundSet) : Prop where
  loops : s.loops = t.loops
  spots : s.spots = t.spots
  chance : s.spots ≠ [] → s.chance = t.chance

namespace Alike

variable {s t : SoundSet}

theorem matching (h : s.Alike t) (e : Environment) : s.matching e = t.matching e := by
  rw [SoundSet.matching, SoundSet.matching, h.loops]

theorem pickFrom (h : s.Alike t) (g : Generator) (e : Environment) (x : g.State) :
    s.pickFrom g e x = t.pickFrom g e x := by
  obtain ⟨loops, chance, spots⟩ := s
  obtain ⟨loops', chance', spots'⟩ := t
  obtain ⟨rfl, rfl, same⟩ := h
  cases spots with
  | nil => simp [SoundSet.pickFrom]
  | cons p ps =>
    obtain rfl : chance = chance' := same (List.cons_ne_nil p ps)
    rfl

theorem addLoop (h : s.Alike t) (loop : Loop) : (s.addLoop loop).Alike (t.addLoop loop) where
  loops := congrArg (· ++ [loop]) h.loops
  spots := h.spots
  chance := h.chance

theorem addSpot (h : s.Alike t) (a : AcousticId) {weight : ℕ} (weighty : 1 ≤ weight)
    (chance : Single.Share s.chance) :
    Alike { s with spots := s.spots ++ [⟨a, weight, .always⟩] } (t.addSpot a weight s.chance) := by
  obtain ⟨n, weighs, le⟩ := chance
  constructor
  · exact h.loops
  · rw [SoundSet.addSpot, h.spots, Nat.max_eq_left weighty]
  · exact fun _ => (Single.clampUnit_eq_self weighs le).symm

end Alike

end SoundSet

def SetEntry.Steady (e : SetEntry) : Prop := ∀ p ∈ e.spots, p.condition = .always

namespace Library

def rebuildAcoustic (l : Library) (e : AcousticEntry) : Library := (l.enterAcoustic e.name).2

def rebuildLoop (o : Owner) (l : Library) (p : LoopEntry) : Library :=
  (l.enterAcoustic p.acoustic).2.addLoop o ⟨(l.enterAcoustic p.acoustic).1, p.condition⟩

def rebuildSpot (o : Owner) (chance : Float32) (l : Library) (p : SpotEntry) : Library :=
  (l.enterAcoustic p.acoustic).2.addSpot o (l.enterAcoustic p.acoustic).1 p.weight chance

def rebuildSet (o : Owner) (l : Library) (e : SetEntry) : Library :=
  e.spots.foldl (rebuildSpot o e.chance) (e.loops.foldl (rebuildLoop o) l)

def rebuildRegion (l : Library) (e : RegionEntry) : Library :=
  rebuildSet (.region (l.enterRegion e.region).1) (l.enterRegion e.region).2 e.sounds

def rebuild (d : Definition) : Library :=
  let l := d.acoustics.foldl rebuildAcoustic empty
  let l := d.regions.foldl rebuildRegion l
  rebuildSet .observer l d.observer

/-- The libraries know the same names, and no set of the one is told from that of the other. -/
structure Agrees (l m : Library) : Prop where
  regions : l.regions = m.regions
  acoustics : l.acoustics = m.acoustics
  sets : ∀ o, (l.setOf o).Alike (m.setOf o)

namespace Agrees

variable {l m : Library} {o : Owner} {s t : SoundSet}

theorem own (h : (l.put o s).Agrees m) : s.Alike (m.setOf o) := by
  have alike := h.sets o
  rwa [setOf_put, if_pos rfl] at alike

theorem put (h : l.Agrees m) (alike : s.Alike t) : (l.put o s).Agrees (m.put o t) := by
  constructor
  · rw [put_regions, put_regions, h.regions]
  · rw [put_acoustics, put_acoustics, h.acoustics]
  · intro other
    rw [setOf_put, setOf_put]
    by_cases own : o = other
    · rw [if_pos own, if_pos own]
      exact alike
    · rw [if_neg own, if_neg own]
      exact h.sets other

theorem replace (h : (l.put o s).Agrees m) {s' : SoundSet} (alike : s'.Alike t) :
    (l.put o s').Agrees (m.put o t) := by
  have replaced := h.put (o := o) alike
  rwa [put_put] at replaced

/-- A set without sounds can wait for its chance. -/
theorem open_ (h : l.Agrees m) (vacant : l.setOf o = .empty) (chance : Float32) :
    (l.put o ⟨[], chance, []⟩).Agrees m := by
  constructor
  · rw [put_regions, h.regions]
  · rw [put_acoustics, h.acoustics]
  · intro other
    have before := h.sets other
    rw [setOf_put]
    by_cases own : o = other
    · subst own
      rw [vacant] at before
      rw [if_pos rfl]
      exact ⟨before.loops, before.spots, fun some => absurd rfl some⟩
    · rw [if_neg own]
      exact before

theorem enterAcoustic (h : (l.put o s).Agrees m) (name : String) :
    (l.enterAcoustic name).1 = (m.enterAcoustic name).1 ∧
      ((l.enterAcoustic name).2.put o s).Agrees (m.enterAcoustic name).2 := by
  have acoustics := h.acoustics
  have regions := h.regions
  rw [put_acoustics] at acoustics
  rw [put_regions] at regions
  constructor
  · rw [Library.enterAcoustic, acoustics]
    rfl
  · constructor
    · rw [put_regions]
      exact regions
    · rw [put_acoustics, Library.enterAcoustic, acoustics]
      rfl
    · intro other
      have before := h.sets other
      rwa [setOf_put] at before ⊢

theorem enterRegion (h : l.Agrees m) (name : String) :
    (l.enterRegion name).1 = (m.enterRegion name).1 ∧
      (l.enterRegion name).2.Agrees (m.enterRegion name).2 := by
  constructor
  · rw [Library.enterRegion, h.regions]
    rfl
  · refine ⟨?_, h.acoustics, h.sets⟩
    rw [Library.enterRegion, h.regions]
    rfl

theorem fileLoop {state : SoundSet × Library} (h : (state.2.put o state.1).Agrees m)
    (p : LoopEntry) :
    ((Library.fileLoop state p).2.put o (Library.fileLoop state p).1).Agrees (rebuildLoop o m p) := by
  obtain ⟨same, entered⟩ := h.enterAcoustic p.acoustic
  rw [rebuildLoop, addLoop_eq, ← same]
  exact entered.replace (entered.own.addLoop _)

theorem fileSpot {state : SoundSet × Library} (h : (state.2.put o state.1).Agrees m) {p : SpotEntry}
    (weighty : 1 ≤ p.weight) (always : p.condition = .always) (chance : Single.Share state.1.chance) :
    ((Library.fileSpot state p).2.put o (Library.fileSpot state p).1).Agrees
      (rebuildSpot o state.1.chance m p) := by
  obtain ⟨same, entered⟩ := h.enterAcoustic p.acoustic
  rw [rebuildSpot, addSpot_eq, ← same, Library.fileSpot, always]
  exact entered.replace (entered.own.addSpot _ weighty chance)

end Agrees

variable {l m : Library} {o : Owner}

theorem Regioned.vacant_enterRegion {filed : Library} {names : List String}
    {before : List RegionEntry} (h : l.Regioned filed names before) (name : String)
    (new : trim name ∉ before.map (trim ·.region)) :
    (l.enterRegion name).2.setOf (.region (l.enterRegion name).1) = .empty := by
  rw [setOf_enterRegion, h.enterRegion_eq new, setOf, soundsOf, h.vacant _ (Nat.le_refl _)]
  rfl

theorem loadSet_rebuilds (agrees : l.Agrees m) (vacant : l.setOf o = .empty) (owner : String)
    {e : SetEntry} (steady : e.Steady) :
    Meets (fun state => (state.2.put o state.1).Agrees (rebuildSet o m e)) (e.faults owner)
      (l.loadSet owner e) := by
  -- The chance is carried along, for by hand it is clamped anew with every spot sound.
  have built := l.loadSet_meets owner e (fun loops spots state => Single.Share e.chance ∧
    state.1.chance = e.chance ∧
    (state.2.put o state.1).Agrees (rebuildSet o m ⟨loops, e.chance, spots⟩)) ?_ ?_ ?_
  · exact built.mono fun _ holds => holds.2.2
  · intro inRange
    exact ⟨(Single.share_iff _).mpr inRange, rfl, agrees.open_ vacant e.chance⟩
  · rintro before p state ⟨share, chance, agrees'⟩
    refine ⟨share, chance, ?_⟩
    rw [rebuildSet, List.foldl_append]
    exact agrees'.fileLoop p
  · rintro before p mem state weighty ⟨share, chance, agrees'⟩
    refine ⟨share, chance, ?_⟩
    rw [rebuildSet, List.foldl_append, ← chance]
    rw [← chance] at share agrees'
    exact agrees'.fileSpot weighty (steady p mem) share

theorem fileAcoustic_rebuilds (agrees : l.Agrees m) (e : AcousticEntry) :
    (l.fileAcoustic e).Agrees (rebuildAcoustic m e) := by
  have acoustics : (l.enterAcoustic e.name).2.acoustics = (m.enterAcoustic e.name).2.acoustics := by
    rw [Library.enterAcoustic, agrees.acoustics]
    rfl
  unfold fileAcoustic
  cases e.path with
  | none => exact ⟨agrees.regions, acoustics, agrees.sets⟩
  | some path => exact ⟨agrees.regions, acoustics, agrees.sets⟩

theorem loadAcoustics_rebuilds (es : List AcousticEntry) :
    Meets (Agrees · (es.foldl rebuildAcoustic empty))
      (es.flatMap fun e => blankFault "acoustics" e.name) (es.foldlM loadAcoustic empty) := by
  refine Meets.foldlM (fun before (l : Library) => l.Agrees (before.foldl rebuildAcoustic empty)) es
    ?_ ?_
  · intro before e _ l agrees
    refine (l.loadAcoustic_meets e).mono ?_
    rintro _ rfl
    rw [List.foldl_append]
    exact fileAcoustic_rebuilds agrees e
  · exact ⟨rfl, rfl, fun o => ⟨rfl, rfl, fun _ => rfl⟩⟩

theorem loadRegions_rebuilds {filed built : Library} {es : List AcousticEntry} (h : filed.Filed es)
    (agrees : filed.Agrees built) (rs : List RegionEntry) (steady : ∀ e ∈ rs, e.sounds.Steady) :
    Meets (fun (l : Library) => l.Regioned filed (es.map (·.name)) rs ∧
        l.Agrees (rs.foldl rebuildRegion built))
      (faultsInTurn RegionEntry.faults [] rs) (rs.foldlM loadRegion filed) := by
  refine Meets.inTurn (fun before (l : Library) => l.Regioned filed (es.map (·.name)) before ∧
    l.Agrees (before.foldl rebuildRegion built)) rs ?_ [] ⟨h.regioned, agrees⟩
  intro before e mem l ⟨regioned, agrees⟩
  obtain ⟨same, entered⟩ := agrees.enterRegion e.region
  have denotes := (l.enterRegion e.region).2.loadSet_denotes e.region e.sounds
  have set (new : trim e.region ∉ before.map (trim ·.region)) := by
    have vacant := regioned.vacant_enterRegion e.region new
    exact denotes.and (loadSet_rebuilds entered vacant e.region (steady e mem))
  refine (loadRegion_meets (regioned.known_iff e.region) set).mono ?_
  rintro _ ⟨new, state, ⟨⟨grows, denotes⟩, agrees'⟩, rfl⟩
  refine ⟨regioned.step new grows denotes, ?_⟩
  rw [List.foldl_append, List.foldl_cons, List.foldl_nil, rebuildRegion, ← same]
  exact agrees'

theorem ofDefinition_rebuilds {d : Definition} (steady : ∀ e ∈ d.sets, e.Steady) :
    Meets (Agrees · (rebuild d)) d.faults (ofDefinition d) := by
  have regions : ∀ e ∈ d.regions, e.sounds.Steady :=
    fun e mem => steady _ (List.mem_append_left _ (List.mem_map_of_mem mem))
  have observer : d.observer.Steady := steady _ (List.mem_append_right _ List.mem_cons_self)
  rw [Definition.faults, List.append_assoc]
  refine ((loadAcoustics_filed d.acoustics).and (loadAcoustics_rebuilds d.acoustics)).bind ?_
  rintro filed ⟨filedAs, agrees⟩
  refine (loadRegions_rebuilds filedAs agrees d.regions regions).bind ?_
  rintro l ⟨regioned, agrees⟩
  refine (loadSet_rebuilds (o := .observer) agrees regioned.observer "observer" observer).andThen ?_
  intro state agrees
  exact ⟨_, rfl, agrees⟩

/-- The libraries give the same answers about names and sounds, and leave a generator in the same
state, be it a source or any other. -/
structure AnswersAs (l m : Library) : Prop where
  findRegion : ∀ name, l.findRegion? name = m.findRegion? name
  findAcoustic : ∀ name, l.findAcoustic? name = m.findAcoustic? name
  regionName : ∀ r, l.regionName? r = m.regionName? r
  acousticName : ∀ a, l.acousticName? a = m.acousticName? a
  candidates : ∀ r e, l.candidates r e = m.candidates r e
  alwaysOn : ∀ e, l.alwaysOn e = m.alwaysOn e
  regionSpot : ∀ r e source, l.regionSpot r e source = m.regionSpot r e source
  observerSpot : ∀ e source, l.observerSpot e source = m.observerSpot e source
  pickFrom : ∀ o g e x, (l.setOf o).pickFrom g e x = (m.setOf o).pickFrom g e x

theorem Agrees.answersAs (h : l.Agrees m) : l.AnswersAs m := by
  have pick (o : Owner) := (h.sets o).pickFrom
  constructor
  · intro name
    rw [findRegion?, findRegion?, h.regions]
  · intro name
    rw [findAcoustic?, findAcoustic?, h.acoustics]
  · intro r
    rw [regionName?, regionName?, h.regions]
  · intro a
    rw [acousticName?, acousticName?, h.acoustics]
  · intro r
    exact (h.sets (.region r)).matching
  · exact (h.sets .observer).matching
  · intro r
    exact pick (.region r) Source.generator
  · exact pick .observer Source.generator
  · exact pick

/-- A valid document all of whose spot sounds apply in every environment loads, and its library
answers as the one that is built by hand. -/
theorem loads_as_rebuilt {d : Definition} (valid : d.Valid) (steady : ∀ e ∈ d.sets, e.Steady) :
    ∃ l, ofDefinition d = .ok l ∧ l.AnswersAs (rebuild d) ∧
      ∀ text, (Json.read? text).bind Definition.ofDatum? = some d → ofText text = .ok l := by
  have meets := ofDefinition_rebuilds steady
  obtain ⟨l, run⟩ := meets.succeeds_iff.mpr (d.faults_eq_nil_iff.mpr valid)
  refine ⟨l, run, (meets.holds_of_ok run).answersAs, ?_⟩
  intro text read
  exact (ofText_of_read read).trans run

theorem small_loads_as_rebuilt : smallDefinition.Valid ∧ (∀ e ∈ smallDefinition.sets, e.Steady) ∧
    ∃ l, ofText smallText = .ok l ∧ l.AnswersAs (rebuild smallDefinition) := by
  have steady : ∀ e ∈ smallDefinition.sets, e.Steady := by
    simp [Definition.sets, smallDefinition, SetEntry.Steady, SetEntry.empty]
  obtain ⟨l, -, answers, loads⟩ := loads_as_rebuilt smallDefinition_valid steady
  exact ⟨smallDefinition_valid, steady, l, loads smallText read_smallText, answers⟩

end Library

end AmbientSound
