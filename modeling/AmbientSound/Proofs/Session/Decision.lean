import AmbientSound.Proofs.Mix.Ranking
import AmbientSound.Proofs.Session.Reachable
import AmbientSound.Proofs.World.Shelter
/-!
What one cycle decides. The mix and the spot sounds are determined by the surroundings of the
observer, by what the censuses have published, and by the seed.
-/
namespace AmbientSound

/-- The tallies that speak for an acoustic, those of the highest rank first. -/
def Sweeps.ranks (s : Sweeps) (blocks biomes : Bool) : List Tally :=
  (if blocks then [s.near.published, s.far.published] else []) ++
    if biomes then [s.biome.published] else []

/-- The environment of an observer, flag by flag: ten below the sea level in force, under a roof that
the known columns around make, and for the rest as the observer says. -/
structure Perceives (given : Settings) (w : World) (o : Observer) (e : Environment) : Prop where
  underground : e.underground = true ↔ o.position.y <
    (if (w.realm o.realm).id = .overworld ∧ 0 < given.sanitized.biome.seaLevelOverride then
      given.sanitized.biome.seaLevelOverride else (w.realm o.realm).seaLevel) - 10
  inside : e.inside = true ↔ (w.realm o.realm).alwaysOutside = false ∧
    0 < (Roof.sampled w given.sanitized.roofRadius.toNat o.position).card ∧
    11 * (Roof.sampled w given.sanitized.roofRadius.toNat o.position).card ≤
      20 * (Roof.covered w given.sanitized.roofRadius.toNat o.position).card
  underwater : e.underwater = o.underwater
  raining : e.raining = o.raining
  night : e.night = o.night

/-- What the sounds of a library make of a cycle around an observer: its mix and its report. -/
structure Decides (given : Settings) (l : Library) (seed : UInt64) (w : World) (o : Observer)
    (sweeps : Sweeps) (time : Nat) (m : Mix) (report : CycleReport) : Prop where
  tick : report.tick = time
  present : report.present = true
  environment : report.environment = given.sanitized.surroundings w o
  perceives : Perceives given w o report.environment
  biomeSounds : report.biomeSounds = true ↔ given.biome.enabled = true ∧
    (w.realm o.realm).playsBiomes = true ∧ (w.realm o.realm).id ∉ given.biome.blacklist ∧
    (report.environment.underground = true ∨ (w.realm o.realm).alwaysOutside = true ∨
      report.environment.inside = false)
  always : ∀ a, l.observer.Plays report.environment a → m.get? a = some 1
  ranked : ∀ a, ¬ l.observer.Plays report.environment a →
    l.Ranked (.ofFloor given.sanitized.floor) report.environment a
      (sweeps.ranks given.blocks.enabled report.biomeSounds) (m.get? a)
  regionSpot : ∀ a, report.regionSpot = some a ↔ report.biomeSounds = true ∧
    ∃ r n, sweeps.biome.published.Dominates r n ∧
      ((l.soundsOf r).pickSpot report.environment (.ofScope seed Session.regionSalt time)).1 = some a
  observerSpot : report.observerSpot =
    (l.observer.pickSpot report.environment (.ofScope seed Session.observerSalt time)).1

theorem Settings.surroundings_perceived (given : Settings) (w : World) (o : Observer) :
    Perceives given w o (given.sanitized.surroundings w o) := by
  constructor
  · exact decide_eq_true_iff
  · simp only [surroundings, Environment.derive, Bool.and_eq_true, Bool.not_eq_true']
    refine and_congr_right fun _ => ?_
    rw [← Roof.threshold_le_share_iff given.square_roofRadius_le]
    exact decide_eq_true_iff
  · rfl
  · rfl
  · rfl

namespace Session

section Decisions

variable {given : Settings} {l : Library} {s t u : Session} {w : World} {o : Observer} {m : Mix}
  {c : Cycle}

theorem reverse_sourcesOf (s : Session) (biomes : Bool) :
    (s.sourcesOf biomes).reverse = s.sweeps.ranks s.settings.blocks.enabled biomes := by
  unfold sourcesOf Sweeps.ranks
  cases biomes <;> cases s.settings.blocks.enabled <;> rfl

theorem playsBiomes_iff (settings : Settings) (r : Realm) (e : Environment) :
    playsBiomes settings r e = true ↔ settings.biome.enabled = true ∧ r.playsBiomes = true ∧
      r.id ∉ settings.biome.blacklist ∧
      (e.underground = true ∨ r.alwaysOutside = true ∨ e.inside = false) := by
  simp [playsBiomes, Settings.isBlacklisted, and_assoc, or_assoc]

theorem Built.perform_decides (h : Built given l.repertoire s) (number : given.floor.isNaN = false)
    (seen : s.environment = given.sanitized.surroundings w o) {biomes : Bool}
    (plays : biomes = playsBiomes s.settings (w.realm o.realm) s.environment)
    (mixed : s.desired biomes s.environment = some m) :
    Decides given l s.seed w o s.sweeps s.tick m (s.perform biomes m
      (s.drawRegionSpot biomes s.environment) (s.drawObserverSpot s.environment)).2.report := by
  obtain ⟨summary, emitters, reported⟩ : ∃ summary emitters, (s.perform biomes m
      (s.drawRegionSpot biomes s.environment) (s.drawObserverSpot s.environment)).2.report =
        ⟨s.tick, true, s.environment, biomes, m.wanted, summary,
          s.drawRegionSpot biomes s.environment, s.drawObserverSpot s.environment, emitters⟩ :=
    ⟨_, _, rfl⟩
  obtain ⟨m', mixed', holds⟩ := h.desired_get? number biomes s.environment
  obtain rfl := Option.some.inj (mixed'.symm.trans mixed)
  have always (a : AcousticId) : a ∈ l.repertoire.alwaysOn s.environment ↔
      l.observer.Plays s.environment a := SoundSet.mem_matching
  rw [reported]
  constructor
  · rfl
  · rfl
  · exact seen
  · rw [seen]
    exact given.surroundings_perceived w o
  · rw [plays, playsBiomes_iff, h.settings]
    rfl
  · intro a sounds
    rw [holds a, if_pos ((always a).mpr sounds)]
  · intro a silent
    have ranked := Library.ranked_findSome? (l := l) (e := s.environment) (a := a)
      (h.law_sane number) (s.sourcesOf biomes).reverse
      fun t mem => h.sources_consistent biomes t (List.mem_reverse.mp mem)
    rw [holds a, if_neg fun sounds => silent ((always a).mp sounds)]
    rw [reverse_sourcesOf, law, h.settings] at ranked ⊢
    exact ranked
  · intro a
    rw [drawRegionSpot, h.repertoire]
    cases biomes with
    | false => simp
    | true => simpa using l.tallySpot_eq_some_iff _ _ _ a
  · rw [drawObserverSpot, h.repertoire]
    rfl

theorem Built.decides (h : Built given l.repertoire s) (number : given.floor.isNaN = false)
    (mixed : s.mixAround w o = some m) (cycled : s.cycle w (some o) = some (u, c)) :
    Decides given l s.seed w o s.sweeps s.tick m c.report := by
  have around : s.cycleAround w o = some (u, c) := cycled
  have desired : (s.observe w o).desired _ _ = some m := mixed
  simp only [cycleAround_eq, desired, Option.map_some] at around
  have same := congrArg Prod.snd (Option.some.inj around)
  rw [← show _ = c from same]
  exact (h.observe w o).perform_decides number (h.environment_eq w o) rfl desired

/-- A tick on which a cycle is due always has an outcome, and the emitters follow the mix that was
decided on: by the sounds of the observer, else by the cells close by, else by those farther away,
else by the biomes around if they play. -/
theorem cycle_decides {recording : Bool} {seed : UInt64} {ds : List Deed}
    (number : given.floor.isNaN = false)
    (reached : (start given l.repertoire (.silent recording) seed).after ds = some s)
    (on : s.connected = true) (due : s.isDue = true) (alive : o.alive = true) :
    ∃ t r m c, s.step w (some o) = some (t, r) ∧ r.cycle = some c ∧ Follows s m c t ∧
      t.sweeps = (s.sweeps.tick given.sanitized w (some o.position)).1 ∧
      Decides given l seed w o t.sweeps s.tick m c.report := by
  have reachable : Reachable given l.repertoire recording seed s := Reachable.of_start.after reached
  obtain ⟨t, r, stepped, kept, -, -, cycles⟩ := reachable.built.step_follows number on w alive
  obtain ⟨m, c, mixed, cycled, follows⟩ := cycles due
  have present : (some o).filter (·.alive) = some o := by simp [alive]
  refine ⟨t, r, m, c, stepped, cycled, follows, ?_, ?_⟩
  · rw [kept.sweeps, ← reachable.built.settings]
    rfl
  · rcases step_cases stepped with ⟨-, rfl⟩ | ⟨u, mixing, -⟩
    · cases cycled
    · rw [present, cycleIfDue, if_pos (show (s.swept w (some o)).isDue = true from due)] at mixing
      obtain ⟨⟨v, c'⟩, cycle, same⟩ := Option.map_eq_some_iff.mp mixing
      obtain rfl := Option.some.inj ((Prod.mk.inj same).2.trans cycled)
      have decides := (reachable.built.swept w (some o)).decides number mixed cycle
      rw [← kept.sweeps] at decides
      rw [← reachable.seed]
      exact decides

def layeredSettings : Settings :=
  { smallSettings with effectRange := 1, blocks := ⟨true, ⟨0, 0, 1⟩, 0, 1⟩ }

def layered : World where
  cell layer p := match layer with
    | .biome => .region ⟨0⟩
    | .blocks => .region ⟨if p.x = 0 then 1 else 2⟩
  surface _ _ := some 63
  realm := .standard

def layeredSounds : Library :=
  let loops : List (Nat × Nat) :=
    [(0, 0), (1, 0), (2, 0), (0, 1), (1, 1), (2, 1), (0, 2), (2, 2), (0, 3)]
  let l := loops.foldl (fun l e => l.addRegionLoop ⟨e.1⟩ ⟨⟨e.2⟩, .always⟩) Library.empty
  ((l.addRegionSpot ⟨0⟩ ⟨5⟩ 1 1).addObserverLoop ⟨⟨0⟩, .raining⟩).addObserverSpot ⟨6⟩ 1 1

/-- The rain, the row in which the observer stands, both its sides, and the biome: each decides on
one of the sounds. -/
theorem layered_cycle_decides :
    let here := { Observer.standing ⟨0, 64, 0⟩ with raining := true }
    ∃ s t r m c, (start layeredSettings layeredSounds.repertoire (.silent false) 0).after
        [.connect] = some s ∧
      s.step layered (some here) = some (t, r) ∧ r.cycle = some c ∧
      Decides layeredSettings layeredSounds 0 layered here t.sweeps s.tick m c.report ∧
      c.newcomers.map (fun e => (e.1, some e.2)) = [(⟨0⟩, some 1), (⟨1⟩, some 1),
        (⟨2⟩, AreaLaw.standard.volume? 6 9), (⟨3⟩, some 1)] := by
  intro here
  have before : ((start layeredSettings layeredSounds.repertoire (.silent false) 0).after
      [.connect]).map (fun s => (s.connected, s.isDue)) = some (true, true) := by decide +kernel
  have mixed : (((start layeredSettings layeredSounds.repertoire (.silent false) 0).after
      [.connect]).bind fun s => (s.step layered (some here)).bind fun done =>
        done.2.cycle.map fun c => c.newcomers.map fun e => (e.1, some e.2)) =
      some [(⟨0⟩, some 1), (⟨1⟩, some 1), (⟨2⟩, AreaLaw.standard.volume? 6 9), (⟨3⟩, some 1)] := by
    decide +kernel
  obtain ⟨s, reached, same⟩ := Option.map_eq_some_iff.mp before
  obtain ⟨on, due⟩ := Prod.mk.inj same
  obtain ⟨t, r, m, c, stepped, cycled, -, -, decides⟩ :=
    cycle_decides (w := layered) (o := here) (by decide +kernel) reached on due rfl
  rw [reached, Option.bind_some, stepped, Option.bind_some, cycled, Option.map_some] at mixed
  exact ⟨s, t, r, m, c, reached, stepped, cycled, decides, Option.some.inj mixed⟩

end Decisions

end Session

end AmbientSound
