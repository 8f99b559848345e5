import AmbientSound.Proofs.Library.Building
import AmbientSound.Proofs.Library.Documents
import AmbientSound.Proofs.Number.Shares
/-!
The numbers in the sets of a loaded library. Reading bounds a weight by a word, and loading refuses
a weight of zero and a chance that is none.
-/
namespace AmbientSound

namespace Datum

variable {α : Type} {f : Datum → Option α} (holds : α → Prop)

theorem defaulted?_holds {default v : α} {given : Option Datum} (standard : holds default)
    (read : ∀ d v, f d = some v → holds v) (run : defaulted? default given f = some v) : holds v := by
  cases given with
  | none => exact Option.some.inj run ▸ standard
  | some d => exact read d v run

theorem mapM_holds {items : List Datum} {vs : List α} (read : ∀ d v, f d = some v → holds v)
    (run : items.mapM f = some vs) : ∀ v ∈ vs, holds v := by
  induction items generalizing vs with
  | nil =>
    obtain rfl : [] = vs := by simpa using run
    exact fun v mem => absurd mem List.not_mem_nil
  | cons d items ih =>
    simp only [List.mapM_cons, Option.bind_eq_bind, Option.bind_eq_some_iff, Option.pure_def,
      Option.some_inj] at run
    obtain ⟨w, first, ws, rest, rfl⟩ := run
    intro v mem
    rcases List.mem_cons.mp mem with rfl | later
    · exact read d v first
    · exact ih rest v later

theorem asList?_holds {d : Datum} {vs : List α} (read : ∀ d v, f d = some v → holds v)
    (run : d.asList? f = some vs) : ∀ v ∈ vs, holds v := by
  cases d with
  | list items => exact mapM_holds holds read run
  | _ => cases run

theorem asCount?_lt {d : Datum} {n : ℕ} (run : d.asCount? = some n) : n < 2 ^ 32 := by
  obtain ⟨i, within, rfl⟩ := Option.map_eq_some_iff.mp run
  cases d with
  | int m =>
    rw [asIntWithin?] at within
    split at within
    · obtain rfl := Option.some.inj within
      omega
    · cases within
  | _ => cases within

end Datum

def SetEntry.Worded (e : SetEntry) : Prop := ∀ p ∈ e.spots, p.weight < 2 ^ 32

theorem SpotEntry.ofDatum?_worded {dialect : Dialect} {d : Datum} {p : SpotEntry}
    (run : ofDatum? dialect d = some p) : p.weight < 2 ^ 32 := by
  unfold ofDatum? at run
  simp only [Option.bind_eq_bind, Option.bind_eq_some_iff] at run
  obtain ⟨fields, -, run⟩ := run
  split at run
  · obtain ⟨name, -, weight, counted, condition, -, rfl⟩ := by
      simpa only [Option.bind_eq_some_iff, Option.pure_def, Option.some_inj] using run
    have standard : SpotEntry.standardWeight < 2 ^ 32 := by decide
    exact Datum.defaulted?_holds (· < 2 ^ 32) standard (fun _ _ => Datum.asCount?_lt) counted
  · cases run

namespace SetEntry

variable {dialect : Dialect} {e : SetEntry}

theorem ofFields?_worded {fields : List (Option Datum)} (run : ofFields? dialect fields = some e) :
    e.Worded := by
  unfold ofFields? at run
  split at run
  · simp only [Option.bind_eq_bind, Option.bind_eq_some_iff, Option.pure_def, Option.some_inj] at run
    obtain ⟨loops, -, chance, -, spots, listed, rfl⟩ := run
    refine Datum.defaulted?_holds (fun ps => ∀ p ∈ ps, p.weight < 2 ^ 32) ?_ ?_ listed
    · exact fun p mem => absurd mem List.not_mem_nil
    · intro d ps run
      exact Datum.asList?_holds (·.weight < 2 ^ 32) (fun _ _ => SpotEntry.ofDatum?_worded) run
  · cases run

theorem ofDatum?_worded {d : Datum} (run : ofDatum? dialect d = some e) : e.Worded := by
  obtain ⟨fields, -, run⟩ := Option.bind_eq_some_iff.mp run
  exact ofFields?_worded run

end SetEntry

theorem RegionEntry.ofDatum?_worded {d : Datum} {e : RegionEntry} (run : ofDatum? d = some e) :
    e.sounds.Worded := by
  unfold ofDatum? at run
  split at run
  · split at run
    · obtain ⟨fields, -, run⟩ := Option.bind_eq_some_iff.mp run
      split at run
      · obtain ⟨region, -, run⟩ := Option.bind_eq_some_iff.mp run
        obtain ⟨sounds, read, run⟩ := Option.bind_eq_some_iff.mp run
        obtain rfl := Option.some.inj run
        exact SetEntry.ofFields?_worded read
      · cases run
    · cases run
  · cases run

namespace Definition

def sets (d : Definition) : List SetEntry := d.regions.map (·.sounds) ++ [d.observer]

variable {d : Definition} {l : Library} {s : SoundSet}

theorem ofDatum?_worded {data : Datum} (run : ofDatum? data = some d) : ∀ e ∈ d.sets, e.Worded := by
  unfold ofDatum? at run
  simp only [Option.bind_eq_bind, Option.bind_eq_some_iff] at run
  obtain ⟨fields, -, run⟩ := run
  split at run
  · obtain ⟨acoustics, -, regions, listed, observer, read, rfl⟩ := by
      simpa only [Option.bind_eq_some_iff, Option.pure_def, Option.some_inj] using run
    have each : ∀ e ∈ regions, e.sounds.Worded := by
      refine Datum.defaulted?_holds (fun es => ∀ e ∈ es, e.sounds.Worded) ?_ ?_ listed
      · exact fun e mem => absurd mem List.not_mem_nil
      · intro d es run
        exact Datum.asList?_holds (·.sounds.Worded) (fun _ _ => RegionEntry.ofDatum?_worded) run
    have last : observer.Worded := by
      refine Datum.defaulted?_holds SetEntry.Worded ?_ (fun _ _ => SetEntry.ofDatum?_worded) read
      exact fun p mem => absurd mem List.not_mem_nil
    intro e mem
    rcases List.mem_append.mp mem with region | final
    · obtain ⟨r, mem', rfl⟩ := List.mem_map.mp region
      exact each r mem'
    · exact List.mem_singleton.mp final ▸ last
  · cases run

theorem Valid.sets (h : d.Valid) : ∀ e ∈ d.sets, e.Valid := by
  intro e mem
  rcases List.mem_append.mp mem with region | last
  · obtain ⟨r, mem', rfl⟩ := List.mem_map.mp region
    exact h.sounds r mem'
  · exact List.mem_singleton.mp last ▸ h.observer

end Definition

section Loaded

variable {text : String} {d : Definition} {l : Library} {s : SoundSet}

theorem Definition.LoadedAs.denotes (h : d.LoadedAs l) (o : Owner) :
    l.setOf o = .empty ∨ ∃ e ∈ d.sets, e.Denotes l (l.setOf o) := by
  cases o with
  | observer => exact .inr ⟨d.observer, List.mem_append_right _ List.mem_cons_self, h.observer⟩
  | region r =>
    rcases Nat.lt_or_ge r.index d.regions.length with inside | beyond
    · have place := List.getElem?_eq_getElem inside
      refine .inr ⟨_, ?_, h.region _ _ place⟩
      exact List.mem_append_left _ (List.mem_map_of_mem (List.mem_of_getElem? place))
    · exact .inl (h.elsewhere r beyond)

theorem SetEntry.Denotes.weighs {e : SetEntry} (h : e.Denotes l s) (bound : ℕ → Prop)
    (bounded : ∀ p ∈ e.spots, bound p.weight) : ∀ q ∈ s.spots, bound q.weight := by
  have spots := h.spots
  generalize e.spots = ps at bounded spots
  generalize s.spots = qs at spots
  induction spots with
  | nil => exact fun q mem => absurd mem List.not_mem_nil
  | cons denotes later ih =>
    intro q mem
    rcases List.mem_cons.mp mem with rfl | later
    · exact denotes.2.1 ▸ bounded _ List.mem_cons_self
    · exact ih (fun p mem => bounded p (List.mem_cons_of_mem _ mem)) q later

structure SoundSet.Usable (s : SoundSet) : Prop where
  chance : 0 ≤ s.chance ∧ s.chance ≤ 1
  weighty : ∀ p ∈ s.spots, 1 ≤ p.weight

theorem SoundSet.usable_empty : empty.Usable where
  chance := (Single.share_iff _).mp Single.zero_share
  weighty _ mem := absurd mem List.not_mem_nil

namespace Library

theorem definition_of_ofText (loaded : ofText text = .ok l) :
    ∃ d, (Json.read? text).bind Definition.ofDatum? = some d ∧ d.Valid ∧ d.LoadedAs l := by
  unfold ofText at loaded
  split at loaded
  · next d read =>
    have meets := ofDefinition_meets d
    have sound := meets.succeeds_iff.mp ⟨l, loaded⟩
    exact ⟨d, read, d.faults_eq_nil_iff.mp sound, meets.holds_of_ok loaded⟩
  · cases loaded

theorem usable_of_ofText (loaded : ofText text = .ok l) (o : Owner) : (l.setOf o).Usable := by
  obtain ⟨d, -, valid, answers⟩ := definition_of_ofText loaded
  rcases answers.denotes o with none | ⟨e, mem, denotes⟩
  · rw [none]
    exact SoundSet.usable_empty
  · have sound := valid.sets e mem
    constructor
    · rw [denotes.chance]
      exact sound.chance
    · exact denotes.weighs (1 ≤ ·) fun p mem => (sound.spots p mem).2

theorem worded_of_ofText (loaded : ofText text = .ok l) (o : Owner) :
    ∀ p ∈ (l.setOf o).spots, p.weight < 2 ^ 32 := by
  obtain ⟨d, read, -, answers⟩ := definition_of_ofText loaded
  obtain ⟨data, -, run⟩ := Option.bind_eq_some_iff.mp read
  rcases answers.denotes o with none | ⟨e, mem, denotes⟩
  · rw [none]
    exact fun p mem => absurd mem List.not_mem_nil
  · exact denotes.weighs (· < 2 ^ 32) (Definition.ofDatum?_worded run e mem)

end Library

end Loaded

end AmbientSound
