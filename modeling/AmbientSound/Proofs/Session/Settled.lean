import AmbientSound.Proofs.Mix.Demand
import AmbientSound.Proofs.Session.Built
/-!
In front of one world, with the observer in one place, a session settles on the mix that the world
alone determines. How many ticks that takes depends on the longest pass of its censuses only.
-/
namespace AmbientSound

def Settings.surroundings (s : Settings) (w : World) (o : Observer) : Environment :=
  let realm := w.realm o.realm
  let roof := (Roof.start s.roofRadius).update w (some o.position)
  .derive o realm (!realm.alwaysOutside && roof.isInside) s.biome.seaLevelOverride

/-- The volume of an acoustic by the world alone: full if it always sounds, else by the cells close
by, else by those farther away, else by the biomes around if their sounds play. -/
def Settings.wanted? (s : Settings) (sounds : Repertoire) (w : World) (o : Observer)
    (a : AcousticId) : Option Float32 :=
  let e := s.surroundings w o
  let heard (tier : Tier) (layer : Layer) :=
    (AreaLaw.ofFloor s.floor).demand? sounds e (tier.census w layer o.position) a
  if a ∈ sounds.alwaysOn e then some 1
  else
    (if s.blocks.enabled then (heard s.blocks.near .blocks).or (heard s.farTier .blocks) else none).or
      (if Session.playsBiomes s (w.realm o.realm) e then heard s.biome.scan .biome else none)

theorem Settings.wanted?_audible (given : Settings) (number : given.floor.isNaN = false)
    {sounds : Repertoire} {w : World} {o : Observer} {a : AcousticId} {v : Float32}
    (wants : given.sanitized.wanted? sounds w o a = some v) : Single.Audible v := by
  have sane := AreaLaw.ofFloor_sane (given.floor_number number)
  have heard {tier : Tier} {layer : Layer} {e : Environment} (small : tier.volume ≤ mostCells)
      (asked : (AreaLaw.ofFloor given.sanitized.floor).demand? sounds e
        (tier.census w layer o.position) a = some v) : Single.Audible v := by
    rw [mostCells] at small
    obtain ⟨consistent, total⟩ := tier.census_sound w layer o.position (by omega)
    exact AreaLaw.demand?_audible sane consistent (by omega) asked
  simp only [wanted?] at wants
  by_cases always : a ∈ sounds.alwaysOn (given.sanitized.surroundings w o)
  · rw [if_pos always] at wants
    obtain rfl := Option.some.inj wants
    exact Single.one_audible
  · rw [if_neg always] at wants
    rcases Option.or_eq_some_iff.mp wants with blocks | ⟨-, biome⟩
    · split at blocks
      · rcases Option.or_eq_some_iff.mp blocks with near | ⟨-, far⟩
        · exact heard given.volume_near_le near
        · exact heard given.volume_far_le far
      · cases blocks
    · split at biome
      · exact heard given.volume_biome_le biome
      · cases biome

namespace Session

def mixAround (s : Session) (w : World) (o : Observer) : Option Mix :=
  let s := s.observe w o
  s.desired (playsBiomes s.settings (w.realm o.realm) s.environment) s.environment

/-- A tick from `s` to `t` brought the emitters in line with the mix `m` in its cycle `c`, before
each of them took its step. -/
structure Follows (s : Session) (m : Mix) (c : Cycle) (t : Session) : Prop where
  emitters : (t.roster, t.output) =
    (s.reconciled m c).roster.tickAll s.settings.scale (s.reconciled m c).output
  newcomers : c.newcomers = (s.reconciled m c).newcomers
  summary : c.report.summary = (s.reconciled m c).summary
  desired : c.report.desired = m.wanted

section Mixes

variable {given : Settings} {sounds : Repertoire} {s : Session}

theorem Built.law_sane (h : Built given sounds s) (number : given.floor.isNaN = false) :
    s.law.Sane := by
  rw [law, h.settings]
  exact AreaLaw.ofFloor_sane (given.floor_number number)

theorem Reached.consistent {layer : Layer} {tier : Tier} {sweep : Sweep}
    (h : Reached layer tier sweep) (small : tier.volume ≤ Settings.mostCells) :
    sweep.published.Consistent ∧ sweep.published.total ≤ 2 ^ 32 := by
  obtain ⟨steps, rfl⟩ := h
  rw [Settings.mostCells] at small
  obtain ⟨consistent, total⟩ := Sweep.run_consistent layer tier steps (by omega)
  exact ⟨consistent, by omega⟩

theorem Built.sources_consistent (h : Built given sounds s) (biomes : Bool) :
    ∀ t ∈ s.sourcesOf biomes, t.Consistent ∧ t.total ≤ 2 ^ 32 := by
  have biome := h.biome.consistent given.volume_biome_le
  have near := h.near.consistent given.volume_near_le
  have far := h.far.consistent given.volume_far_le
  intro t mem
  simp only [sourcesOf, List.mem_append] at mem
  rcases mem with mem | mem
  · split at mem
    · rwa [List.mem_singleton.mp mem]
    · exact absurd mem List.not_mem_nil
  · split at mem
    · rcases List.mem_cons.mp mem with rfl | mem
      · exact far
      · rwa [List.mem_singleton.mp mem]
    · exact absurd mem List.not_mem_nil

/-- A mix always exists, and of its tallies the latest that speaks for an acoustic decides. -/
theorem Built.desired_get? (h : Built given sounds s) (number : given.floor.isNaN = false)
    (biomes : Bool) (e : Environment) :
    ∃ m, s.desired biomes e = some m ∧ ∀ a, m.get? a =
      if a ∈ sounds.alwaysOn e then some 1
      else (s.sourcesOf biomes).reverse.findSome? fun t => s.law.demand? sounds e t a := by
  obtain ⟨m, run, holds⟩ := AreaLaw.aggregate_get? sounds e
    (h.law_sane number) (s.sourcesOf biomes) (h.sources_consistent biomes)
  refine ⟨m.putAlways (sounds.alwaysOn e), ?_, ?_⟩
  · rw [desired, h.repertoire, run]
    rfl
  · intro a
    rw [Mix.get?_putAlways, holds a]

theorem Built.environment_eq (h : Built given sounds s) (w : World) (o : Observer) :
    (s.observe w o).environment = given.sanitized.surroundings w o := by
  have roof : s.roof.update w (some o.position) =
      (Roof.start given.sanitized.roofRadius).update w (some o.position) := by
    rw [Roof.update, h.radius]
    rfl
  simp only [Session.observe, Settings.surroundings, roof, h.settings]

theorem Built.observe (h : Built given sounds s) (w : World) (o : Observer) :
    Built given sounds (s.observe w o) :=
  h.congr rfl rfl rfl rfl

theorem Built.cycle_follows (h : Built given sounds s) (number : given.floor.isNaN = false)
    (w : World) (o : Observer) :
    ∃ m u c, s.mixAround w o = some m ∧ s.cycle w (some o) = some (u, c) ∧ u.tick = s.tick ∧
      Follows s m c { u with lastCycle := some c.report }.finishTick := by
  obtain ⟨m, mixed, -⟩ := (h.observe w o).desired_get? number
    (playsBiomes (s.observe w o).settings (w.realm o.realm) (s.observe w o).environment)
    (s.observe w o).environment
  exact ⟨m, _, _, mixed, Option.bind_eq_some_iff.mpr ⟨m, mixed, rfl⟩, rfl, rfl, rfl, rfl, rfl⟩

/-- A tick around a living observer always has an outcome. If a cycle is due the tick follows its
mix, and else the emitters only take their steps. -/
theorem Built.step_follows (h : Built given sounds s) (number : given.floor.isNaN = false)
    (on : s.connected = true) (w : World) {o : Observer} (alive : o.alive = true) :
    ∃ t r, s.step w (some o) = some (t, r) ∧ (s.swept w (some o)).Keeps t ∧ t.tick = s.tick + 1 ∧
      (s.isDue = false → (t.roster, t.output) = s.roster.tickAll s.settings.scale s.output) ∧
      (s.isDue = true → ∃ m c, (s.swept w (some o)).mixAround w o = some m ∧ r.cycle = some c ∧
        Follows s m c t) := by
  have present : (some o).filter (·.alive) = some o := by simp [alive]
  have due : (s.swept w (some o)).isDue = s.isDue := rfl
  rw [step_connected on, present]
  unfold cycleIfDue
  rw [due]
  cases s.isDue with
  | false =>
    refine ⟨_, _, rfl, ⟨rfl, rfl, rfl, rfl, rfl⟩, rfl, fun _ => rfl, ?_⟩
    intro never
    cases never
  | true =>
    obtain ⟨m, u, c, mixed, cycled, time, follows⟩ :=
      (h.swept w (some o)).cycle_follows number w o
    obtain ⟨-, -, -, -, kept⟩ := cycle_cases cycled
    rw [if_pos rfl, cycled]
    refine ⟨_, _, rfl, ⟨kept.settings, kept.repertoire, kept.sweeps, kept.radius, kept.connected⟩,
      congrArg (· + 1) time, ?_, ?_⟩
    · intro never
      cases never
    · intro _
      exact ⟨m, c, mixed, rfl, follows.emitters, follows.newcomers, follows.summary,
        follows.desired⟩

theorem step_unattended (on : s.connected = true) (w : World) {o : Option Observer}
    (alone : o.filter (·.alive) = none) :
    ∃ t r, s.step w o = some (t, r) ∧ (s.swept w none).Keeps t ∧ t.tick = s.tick + 1 ∧
      (s.isDue = false → (t.roster, t.output) = s.roster.tickAll s.settings.scale s.output) ∧
      (s.isDue = true → ∃ c, r.cycle = some c ∧ c.report.spots = [] ∧ Follows s .empty c t) := by
  have due : (s.swept w none).isDue = s.isDue := rfl
  rw [step_connected on, alone]
  unfold cycleIfDue
  rw [due]
  cases s.isDue with
  | false =>
    refine ⟨_, _, rfl, ⟨rfl, rfl, rfl, rfl, rfl⟩, rfl, fun _ => rfl, ?_⟩
    intro never
    cases never
  | true =>
    refine ⟨_, _, rfl, ⟨rfl, rfl, rfl, rfl, rfl⟩, rfl, ?_, ?_⟩
    · intro never
      cases never
    · intro _
      exact ⟨_, rfl, rfl, rfl, rfl, rfl, rfl⟩

end Mixes

structure Settling (s : Session) (w : World) (p : Position) (n : Nat) : Prop where
  biome : s.settings.biome.enabled = true → s.sweeps.biome.Settling w p n
  near : s.settings.blocks.enabled = true → s.sweeps.near.Settling w p n
  far : s.settings.blocks.enabled = true → s.sweeps.far.Settling w p n

section Countdown

variable {given : Settings} {sounds : Repertoire} {s : Session} {w : World} {p : Position}
  {n : Nat}

theorem Reached.settling {layer : Layer} {tier : Tier} {sweep : Sweep}
    (h : Reached layer tier sweep) (long : 2 * tier.slices ≤ n + 1) : sweep.Settling w p n := by
  obtain ⟨steps, rfl⟩ := h
  exact Sweep.run_settling layer tier steps w p long

theorem Reached.tier_eq {layer : Layer} {tier : Tier} {sweep : Sweep}
    (h : Reached layer tier sweep) : sweep.tier = tier ∧ sweep.layer = layer := by
  obtain ⟨steps, rfl⟩ := h
  exact ⟨Sweep.run_tier _ steps, Sweep.run_layer _ steps⟩

theorem Built.settling (h : Built given sounds s)
    (long : 2 * given.sanitized.longestPass ≤ n + 1) : s.Settling w p n := by
  have slices {t : Tier} (mem : t ∈ given.sanitized.tiers) : 2 * t.slices ≤ n + 1 := by
    have := given.sanitized.slices_le_longestPass mem
    omega
  constructor
  · intro enabled
    rw [h.settings] at enabled
    exact h.biome.settling (slices (by simp [Settings.tiers, enabled]))
  · intro enabled
    rw [h.settings] at enabled
    exact h.near.settling (slices (by simp [Settings.tiers, enabled]))
  · intro enabled
    rw [h.settings] at enabled
    exact h.far.settling (slices (by simp [Settings.tiers, enabled]))

theorem Reached.tick_settling {layer : Layer} {tier : Tier} {sweep : Sweep}
    (h : Reached layer tier sweep) (small : tier.volume ≤ Settings.mostCells)
    (settling : sweep.Settling w p (n + 1)) :
    (Sweeps.tickIf true w (some p) sweep).1.Settling w p n := by
  refine settling.tick ?_
  rw [h.tier_eq.1]
  rw [Settings.mostCells] at small
  omega

theorem Built.settling_swept (h : Built given sounds s) {o : Observer}
    (settling : s.Settling w o.position (n + 1)) :
    (s.swept w (some o)).Settling w o.position n := by
  constructor
  · intro enabled
    have ticked := h.biome.tick_settling given.volume_biome_le (settling.biome enabled)
    rwa [← enabled] at ticked
  · intro enabled
    have ticked := h.near.tick_settling given.volume_near_le (settling.near enabled)
    rwa [← enabled] at ticked
  · intro enabled
    have ticked := h.far.tick_settling given.volume_far_le (settling.far enabled)
    rwa [← enabled] at ticked

theorem Settling.mono {m : Nat} (le : n ≤ m) (h : s.Settling w p n) : s.Settling w p m :=
  ⟨fun enabled => (h.biome enabled).mono le, fun enabled => (h.near enabled).mono le,
    fun enabled => (h.far enabled).mono le⟩

theorem Reached.published_eq {layer : Layer} {tier : Tier} {sweep : Sweep}
    (h : Reached layer tier sweep) (settled : sweep.Settling w p 0) :
    sweep.published = tier.census w layer p := by
  rw [settled.published, h.tier_eq.1, h.tier_eq.2]

theorem Built.settled_mix (h : Built given sounds s) (number : given.floor.isNaN = false)
    {o : Observer} (settled : s.Settling w o.position 0) {m : Mix}
    (mixed : s.mixAround w o = some m) (a : AcousticId) :
    m.get? a = given.sanitized.wanted? sounds w o a := by
  have environment := h.environment_eq w o
  obtain ⟨m', mixed', holds⟩ := (h.observe w o).desired_get? number
    (playsBiomes (s.observe w o).settings (w.realm o.realm) (s.observe w o).environment)
    (s.observe w o).environment
  obtain rfl : m' = m := Option.some.inj (mixed'.symm.trans mixed)
  rw [holds a, environment, (h.observe w o).settings, Settings.wanted?]
  have law : (s.observe w o).law = .ofFloor given.sanitized.floor := by
    rw [Session.law, (h.observe w o).settings]
  have near (enabled : given.sanitized.blocks.enabled = true) :
      s.sweeps.near.published = given.sanitized.blocks.near.census w .blocks o.position :=
    h.near.published_eq (settled.near (by rw [h.settings, enabled]))
  have far (enabled : given.sanitized.blocks.enabled = true) :
      s.sweeps.far.published = given.sanitized.farTier.census w .blocks o.position :=
    h.far.published_eq (settled.far (by rw [h.settings, enabled]))
  have biome (plays : playsBiomes given.sanitized (w.realm o.realm)
      (given.sanitized.surroundings w o) = true) :
      s.sweeps.biome.published = given.sanitized.biome.scan.census w .biome o.position := by
    simp only [playsBiomes, Bool.and_eq_true] at plays
    exact h.biome.published_eq (settled.biome (by rw [h.settings, plays.1.1.1]))
  have sources (biomes : Bool) : (s.observe w o).sourcesOf biomes =
      (if biomes then [s.sweeps.biome.published] else []) ++
        (if given.sanitized.blocks.enabled then
          [s.sweeps.far.published, s.sweeps.near.published] else []) := by
    rw [sourcesOf, (h.observe w o).settings]
    rfl
  have first (f : Tally → Option Float32) (t : Tally) (rest : List Tally) :
      (t :: rest).findSome? f = (f t).or (rest.findSome? f) := by
    rw [List.findSome?_cons]
    cases f t <;> rfl
  refine if_congr Iff.rfl rfl ?_
  rw [law, sources]
  cases plays : playsBiomes given.sanitized (w.realm o.realm)
      (given.sanitized.surroundings w o) <;>
    cases enabled : given.sanitized.blocks.enabled <;>
      simp [near, far, biome, plays, enabled, first, Option.or_assoc]

theorem Settling.keeps {t : Session} (h : s.Settling w p n) (kept : s.Keeps t) :
    t.Settling w p n := by
  constructor
  · rw [kept.settings, kept.sweeps]
    exact h.biome
  · rw [kept.settings, kept.sweeps]
    exact h.near
  · rw [kept.settings, kept.sweeps]
    exact h.far

end Countdown

end Session

/-- A tick with the given world and observer, or something that befalls the output. -/
def Deed.Steady (w : World) (o : Observer) : Deed → Prop
  | .tick v p => v = w ∧ p = some o
  | .fail _ => True
  | .heal _ => True
  | .finish _ => True
  | _ => False

def Deed.isTick : Deed → Bool
  | .tick _ _ => true
  | _ => false

namespace Session

def ticks (ds : List Deed) : Nat := ds.countP Deed.isTick

theorem ticks_cons (d : Deed) (ds : List Deed) : ticks (d :: ds) = ticks [d] + ticks ds := by
  simp only [ticks, List.countP_cons, List.countP_nil]
  omega

section Steady

variable {given : Settings} {sounds : Repertoire} {s : Session} {w : World} {o : Observer}
  {n : Nat}

/-- A steady deed has an outcome, and a tick brings the censuses a tick closer. -/
theorem Built.steady_act (h : Built given sounds s) (number : given.floor.isNaN = false)
    (on : s.connected = true) (alive : o.alive = true) {d : Deed} (steady : d.Steady w o)
    (settling : s.Settling w o.position n) :
    ∃ t r, s.act d = some (t, r) ∧ t.connected = true ∧
      t.Settling w o.position (n - ticks [d]) := by
  cases d with
  | tick v p =>
    obtain ⟨rfl, rfl⟩ := steady
    obtain ⟨t, r, stepped, kept, -⟩ := h.step_follows number on v alive
    have closer := h.settling_swept (n := n - 1) (settling.mono (by omega))
    exact ⟨t, r, stepped, kept.connected.trans on, closer.keeps kept⟩
  | connect => exact steady.elim
  | disconnect => exact steady.elim
  | reset => exact steady.elim
  | fail a => exact ⟨_, _, rfl, on, settling.keeps ⟨rfl, rfl, rfl, rfl, rfl⟩⟩
  | heal a => exact ⟨_, _, rfl, on, settling.keeps ⟨rfl, rfl, rfl, rfl, rfl⟩⟩
  | finish v => exact ⟨_, _, rfl, on, settling.keeps ⟨rfl, rfl, rfl, rfl, rfl⟩⟩

theorem Built.steady_run (h : Built given sounds s) (number : given.floor.isNaN = false)
    (on : s.connected = true) (alive : o.alive = true) {es : List Deed}
    (steady : ∀ d ∈ es, d.Steady w o) (settling : s.Settling w o.position n) :
    ∃ t, s.after es = some t ∧ Built given sounds t ∧ t.connected = true ∧
      t.Settling w o.position (n - ticks es) := by
  induction es generalizing s n with
  | nil => exact ⟨s, rfl, h, on, settling⟩
  | cons d rest ih =>
    obtain ⟨u, r, acted, on', closer⟩ :=
      h.steady_act number on alive (steady d (by simp)) settling
    obtain ⟨t, run, built, on'', settled⟩ := ih (h.act acted) on'
      (fun e mem => steady e (List.mem_cons_of_mem d mem)) closer
    refine ⟨t, ?_, built, on'', ?_⟩
    · rw [Session.after, acted]
      exact run
    · rw [ticks_cons]
      exact settled.mono (by omega)

end Steady

end Session

end AmbientSound
