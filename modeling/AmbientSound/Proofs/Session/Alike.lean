import AmbientSound.Proofs.Playback.Alike
import AmbientSound.Proofs.Session.Deeds
/-!
Two sessions that go on alike, a gap between them: every deed that befalls both leaves them alike and
returns reports that agree. If the gap is not tight, their seeds and mixers differ, and with them the
spot sounds.
-/
namespace AmbientSound

def Settings.unmixed (s : Settings) : Settings := { s with master := 0, ambient := 0, muted := false }

def CycleReport.unspotted (r : CycleReport) : CycleReport :=
  { r with regionSpot := none, observerSpot := none }

structure CycleReport.Alike (g : Gap) (r q : CycleReport) : Prop where
  unspotted : r.unspotted = q.unspotted
  tight : g.tight → r = q

def Deed.shift (n : Nat) : Deed → Deed
  | .finish v => .finish (v.shift n)
  | d => d

theorem Deed.map_shift_of_free {ds : List Deed} (free : ∀ d ∈ ds, d.isFinish = false) (n : Nat) :
    ds.map (Deed.shift n) = ds := by
  have kept : ds.map (Deed.shift n) = ds.map id := by
    apply List.map_congr_left
    intro d mem
    have quiet := free d mem
    cases d <;> simp_all [Deed.shift, Deed.isFinish]
  rw [kept, List.map_id]

section Options

variable {α β γ δ : Type} {R : α → β → Prop} {S : γ → δ → Prop} {x : Option α} {y : Option β}

theorem rel_map {f : α → γ} {g : β → δ} (h : Option.Rel R x y)
    (carries : ∀ a b, R a b → S (f a) (g b)) : Option.Rel S (x.map f) (y.map g) := by
  cases h with
  | none => exact .none
  | some related => exact .some (carries _ _ related)

theorem rel_bind {f : α → Option γ} {g : β → Option δ} (h : Option.Rel R x y)
    (carries : ∀ a b, R a b → Option.Rel S (f a) (g b)) :
    Option.Rel S (x.bind f) (y.bind g) := by
  cases h with
  | none => exact .none
  | some related => exact carries _ _ related

theorem rel_mono {Q : α → β → Prop} (h : Option.Rel R x y) (weaker : ∀ a b, R a b → Q a b) :
    Option.Rel Q x y := by
  cases h with
  | none => exact .none
  | some related => exact .some (weaker _ _ related)

end Options

structure Sweep.Alike (s t : Sweep) : Prop where
  layer : s.layer = t.layer
  tier : s.tier = t.tier
  pass : s.pass = t.pass
  published : s.published = t.published

theorem Sweep.Alike.reset {s t : Sweep} (h : s.Alike t) : s.reset.Alike t.reset :=
  ⟨h.layer, h.tier, rfl, rfl⟩

theorem Sweep.Alike.tick {s t : Sweep} (h : s.Alike t) (w : World) (p : Option Position) :
    (s.tick w p).1.Alike (t.tick w p).1 := by
  cases p with
  | none => exact h.reset
  | some p =>
    have slice : s.slice w (s.currentPass p) = t.slice w (t.currentPass p) := by
      simp only [Sweep.slice, Sweep.sliceSize, Sweep.currentPass, h.layer, h.tier, h.pass]
    simp only [Sweep.tick, slice, h.tier]
    split
    · exact ⟨h.layer, rfl, rfl, h.published⟩
    · exact ⟨h.layer, rfl, rfl, rfl⟩

theorem Sweep.Alike.tickIf {s t : Sweep} (h : s.Alike t) (enabled : Bool) (w : World)
    (p : Option Position) :
    (Sweeps.tickIf enabled w p s).1.Alike (Sweeps.tickIf enabled w p t).1 := by
  cases enabled with
  | false => exact h
  | true => exact h.tick w p

structure Sweeps.Alike (s t : Sweeps) : Prop where
  biome : s.biome.Alike t.biome
  near : s.near.Alike t.near
  far : s.far.Alike t.far

theorem Sweeps.Alike.reset {s t : Sweeps} (h : s.Alike t) : s.reset.Alike t.reset :=
  ⟨h.biome.reset, h.near.reset, h.far.reset⟩

namespace Session

/-- The reports of a run, one for each deed of which there was one, up to a deed without an
outcome. -/
def reports (s : Session) : List Deed → List (Option CycleReport)
  | [] => []
  | d :: ds =>
    match s.act d with
    | none => []
    | some (t, r) => r.report? :: t.reports ds

structure Alike (g : Gap) (s t : Session) : Prop where
  settings : s.settings.unmixed = t.settings.unmixed
  mixer : g.tight → s.settings = t.settings
  seed : g.tight → s.seed = t.seed
  repertoire : s.repertoire = t.repertoire
  sweeps : s.sweeps.Alike t.sweeps
  roof : s.roof = t.roof
  tick : s.tick = t.tick
  connected : s.connected = t.connected
  environment : s.environment = t.environment
  lastCycle : Option.Rel (CycleReport.Alike g) s.lastCycle t.lastCycle
  roster : s.roster.Alike g t.roster
  output : s.output.Alike g t.output

namespace Alike

variable {g : Gap} {s t : Session}

theorem biome (h : s.Alike g t) : s.settings.biome = t.settings.biome := by
  have same := congrArg Settings.biome h.settings
  exact same

theorem blocks (h : s.Alike g t) : s.settings.blocks = t.settings.blocks := by
  have same := congrArg Settings.blocks h.settings
  exact same

theorem interval (h : s.Alike g t) : s.settings.interval = t.settings.interval := by
  have same := congrArg Settings.interval h.settings
  exact same

theorem floor (h : s.Alike g t) : s.settings.floor = t.settings.floor := by
  have same := congrArg Settings.floor h.settings
  exact same

theorem scale (h : s.Alike g t) (tight : g.tight) : s.settings.scale = t.settings.scale := by
  rw [h.mixer tight]

theorem clear (h : s.Alike g t) : s.clear.Alike g t.clear := by
  obtain ⟨roster, output⟩ := h.roster.clear h.output
  exact { h with roster := roster, output := output }

theorem forget (h : s.Alike g t) : s.forget.Alike g t.forget :=
  { h with
    sweeps := h.sweeps.reset
    roof := congrArg Roof.reset h.roof
    environment := rfl
    lastCycle := .none }

theorem reset (h : s.Alike g t) : s.reset.Alike g t.reset := h.clear.forget

theorem connect (h : s.Alike g t) : s.connect.Alike g t.connect :=
  { h.reset with connected := rfl }

theorem disconnect (h : s.Alike g t) : s.disconnect.Alike g t.disconnect := by
  have silenced : Session.Alike g { s.clear with output := s.clear.output.stopAll }
      { t.clear with output := t.clear.output.stopAll } :=
    { h.clear with output := h.clear.output.stopAll }
  exact { silenced.forget with connected := rfl }

theorem swept (h : s.Alike g t) (w : World) (o : Option Observer) :
    (s.swept w o).Alike g (t.swept w o) := by
  have biome := h.sweeps.biome.tickIf s.settings.biome.enabled w (o.map (·.position))
  have near := h.sweeps.near.tickIf s.settings.blocks.enabled w (o.map (·.position))
  have far := h.sweeps.far.tickIf s.settings.blocks.enabled w (o.map (·.position))
  rw [h.biome] at biome
  rw [h.blocks] at near far
  refine { h with sweeps := ⟨?_, ?_, ?_⟩ }
  · simpa only [Session.swept, Sweeps.tick, h.biome] using biome
  · simpa only [Session.swept, Sweeps.tick, h.blocks] using near
  · simpa only [Session.swept, Sweeps.tick, h.blocks] using far

theorem observe (h : s.Alike g t) (w : World) (o : Observer) :
    (s.observe w o).Alike g (t.observe w o) := by
  refine { h with roof := ?_, environment := ?_ }
  · simp only [Session.observe, h.roof]
  · simp only [Session.observe, h.roof, h.biome]

theorem desired_eq (h : s.Alike g t) (biomes : Bool) (e : Environment) :
    s.desired biomes e = t.desired biomes e := by
  simp only [desired, law, sourcesOf, h.floor, h.repertoire, h.blocks, h.sweeps.biome.published,
    h.sweeps.near.published, h.sweeps.far.published]

theorem playsBiomes_eq (h : s.Alike g t) (r : Realm) (e : Environment) :
    playsBiomes s.settings r e = playsBiomes t.settings r e := by
  simp only [playsBiomes, Settings.isBlacklisted, h.biome]

theorem drawRegionSpot_eq (h : s.Alike g t) (tight : g.tight) (biomes : Bool) (e : Environment) :
    s.drawRegionSpot biomes e = t.drawRegionSpot biomes e := by
  simp only [drawRegionSpot, h.repertoire, h.sweeps.biome.published, h.seed tight, h.tick]

theorem drawObserverSpot_eq (h : s.Alike g t) (tight : g.tight) (e : Environment) :
    s.drawObserverSpot e = t.drawObserverSpot e := by
  simp only [drawObserverSpot, h.repertoire, h.seed tight, h.tick]

def Cycled (g : Gap) (a b : Session × Cycle) : Prop :=
  a.1.Alike g b.1 ∧ a.2.report.Alike g b.2.report

theorem apply (h : s.Alike g t) (m : Mix) :
    (s.apply m).1.Alike g (t.apply m).1 ∧ (s.apply m).2.Alike g (t.apply m).2 := by
  have reconciled := h.roster.reconcile m h.output
  exact ⟨{ h with
    roster := ⟨reconciled.emitters, reconciled.fadeTicks⟩, output := reconciled.output }, reconciled⟩

theorem cycleAlone (h : s.Alike g t) : Cycled g s.cycleAlone t.cycleAlone := by
  have cleared : Session.Alike g { s with roof := s.roof.reset, environment := .calm }
      { t with roof := t.roof.reset, environment := .calm } :=
    { h with roof := congrArg Roof.reset h.roof, environment := rfl }
  obtain ⟨sessions, reconciled⟩ := cleared.apply .empty
  have reports : s.cycleAlone.2.report = t.cycleAlone.2.report := by
    simp only [Session.cycleAlone, sessions.tick, reconciled.summary, Roster.size,
      reconciled.emitters.size]
  refine ⟨sessions, ?_, fun _ => reports⟩
  rw [reports]

theorem perform (h : s.Alike g t) (biomes : Bool) (m : Mix) {a b x y : Option AcousticId}
    (region : g.tight → a = x) (observer : g.tight → b = y) :
    Cycled g (s.perform biomes m a b) (t.perform biomes m x y) := by
  have played : Session.Alike g (s.played a b) (t.played x y) := by
    refine { h with output := h.output.playAll ?_ }
    intro tight
    rw [region tight, observer tight]
    exact ⟨rfl, h.scale tight⟩
  obtain ⟨sessions, reconciled⟩ := played.apply m
  have tick : (s.played a b).tick = (t.played x y).tick := played.tick
  have environment : (s.played a b).environment = (t.played x y).environment := played.environment
  have summary : ((s.played a b).roster.reconcile m (s.played a b).output).summary =
      ((t.played x y).roster.reconcile m (t.played x y).output).summary := reconciled.summary
  have emitters : ((s.played a b).roster.reconcile m (s.played a b).output).roster.size =
      ((t.played x y).roster.reconcile m (t.played x y).output).roster.size :=
    reconciled.emitters.size
  refine ⟨sessions, ?_, ?_⟩
  · simp only [Session.perform, concluded, CycleReport.unspotted, tick, environment, summary,
      emitters]
  · intro tight
    obtain rfl := region tight
    obtain rfl := observer tight
    simp only [Session.perform, concluded, tick, environment, summary, emitters]

theorem cycleAround (h : s.Alike g t) (w : World) (o : Observer) :
    Option.Rel (Cycled g) (s.cycleAround w o) (t.cycleAround w o) := by
  have seen := h.observe w o
  rw [cycleAround_eq, cycleAround_eq]
  simp only [seen.environment, seen.desired_eq, seen.playsBiomes_eq]
  generalize playsBiomes (t.observe w o).settings _ _ = biomes
  cases (t.observe w o).desired biomes (t.observe w o).environment with
  | none => exact .none
  | some m =>
    apply Option.Rel.some
    apply seen.perform
    · intro tight
      exact seen.drawRegionSpot_eq tight biomes _
    · intro tight
      exact seen.drawObserverSpot_eq tight _

theorem cycle (h : s.Alike g t) (w : World) (o : Option Observer) :
    Option.Rel (Cycled g) (s.cycle w o) (t.cycle w o) := by
  cases o with
  | none => exact .some h.cycleAlone
  | some o => exact h.cycleAround w o

theorem cycleIfDue (h : s.Alike g t) (w : World) (o : Option Observer) :
    Option.Rel (fun a b => a.1.Alike g b.1 ∧
      Option.Rel (CycleReport.Alike g) (a.2.map (·.report)) (b.2.map (·.report)))
      (s.cycleIfDue w o) (t.cycleIfDue w o) := by
  have due : s.isDue = t.isDue := by rw [isDue, isDue, h.tick, h.interval]
  unfold Session.cycleIfDue
  rw [due]
  split
  · apply rel_map (h.cycle w o)
    rintro ⟨u, c⟩ ⟨v, d⟩ ⟨sessions, reports⟩
    exact ⟨{ sessions with lastCycle := .some reports }, .some reports⟩
  · exact .some ⟨h, .none⟩

theorem finishTick (h : s.Alike g t) : s.finishTick.Alike g t.finishTick := by
  obtain ⟨rosters, outputs⟩ := h.roster.tickAll h.output h.scale
  exact { h with
    roster := rosters
    output := outputs
    tick := congrArg (· + 1) h.tick }

def Done (g : Gap) (a b : Session × TickRecord) : Prop :=
  a.1.Alike g b.1 ∧ Option.Rel (CycleReport.Alike g) a.2.report? b.2.report?

theorem step (h : s.Alike g t) (w : World) (o : Option Observer) :
    Option.Rel (Done g) (s.step w o) (t.step w o) := by
  cases on : t.connected with
  | false =>
    rw [step_disconnected on, step_disconnected (h.connected.trans on)]
    exact .some ⟨h, .none⟩
  | true =>
    rw [step_connected on, step_connected (h.connected.trans on)]
    apply rel_map ((h.swept w (o.filter (·.alive))).cycleIfDue w (o.filter (·.alive)))
    rintro ⟨u, k⟩ ⟨v, l⟩ ⟨sessions, reports⟩
    exact ⟨sessions.finishTick, reports⟩

/-- What ends by itself in both is the same voice by another number. -/
theorem act (h : s.Alike g t) (d : Deed) :
    Option.Rel (Done g) (s.act (d.shift g.voices)) (t.act d) := by
  cases d with
  | connect => exact .some ⟨h.connect, .none⟩
  | disconnect => exact .some ⟨h.disconnect, .none⟩
  | reset => exact .some ⟨h.reset, .none⟩
  | tick w o => exact h.step w o
  | fail a => exact .some ⟨{ h with output := h.output.fail a }, .none⟩
  | heal a => exact .some ⟨{ h with output := h.output.heal a }, .none⟩
  | finish v => exact .some ⟨{ h with output := h.output.finish v }, .none⟩

theorem after (h : s.Alike g t) (ds : List Deed) :
    Option.Rel (Session.Alike g) (s.after (ds.map (Deed.shift g.voices))) (t.after ds) := by
  induction ds generalizing s t with
  | nil => exact .some h
  | cons d rest ih =>
    apply rel_bind (h.act d)
    intro a b done
    exact ih done.1

theorem reports (h : s.Alike g t) (ds : List Deed) :
    List.Forall₂ (Option.Rel (CycleReport.Alike g)) (s.reports (ds.map (Deed.shift g.voices)))
      (t.reports ds) := by
  induction ds generalizing s t with
  | nil => exact .nil
  | cons d rest ih =>
    have both := h.act d
    simp only [List.map_cons, Session.reports]
    -- The match is on terms that `both` relates, so they have to be variables first.
    generalize s.act (d.shift g.voices) = here at both
    generalize t.act d = there at both
    cases both with
    | none => exact .nil
    | some done => exact .cons done.2 (ih done.1)

end Alike

end Session

end AmbientSound
