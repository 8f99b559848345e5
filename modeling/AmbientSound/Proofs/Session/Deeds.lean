import AmbientSound.Session.Tick
import AmbientSound.Proofs.Playback.Moves
/-!
What can befall a session from outside, and runs of such deeds. Each deed moves the emitters and
the output by a chain of moves, and so does each run.
-/
namespace AmbientSound

/-- A call of the host, or something that happens to the output behind the session's back. -/
inductive Deed where
  | connect
  | disconnect
  | reset
  | tick (w : World) (o : Option Observer)
  | fail (a : AcousticId)
  | heal (a : AcousticId)
  | finish (v : VoiceId)

def Deed.isFinish : Deed → Bool
  | .finish _ => true
  | _ => false

def Session.TickRecord.started (r : TickRecord) : List AcousticId :=
  (r.cycle.map fun c => c.newcomers.map (·.1)).getD []

namespace Session

/-- A session after a deed. Only a tick may have no outcome. -/
def act (s : Session) : Deed → Option (Session × TickRecord)
  | .connect => some (s.connect, .idle)
  | .disconnect => some (s.disconnect, .idle)
  | .reset => some (s.reset, .idle)
  | .tick w o => s.step w o
  | .fail a => some ({ s with output := s.output.fail a }, .idle)
  | .heal a => some ({ s with output := s.output.heal a }, .idle)
  | .finish v => some ({ s with output := s.output.finish v }, .idle)

def after (s : Session) : List Deed → Option Session
  | [] => some s
  | d :: ds => (s.act d).bind fun done => done.1.after ds

/-- No voice ends by itself in the deed, and whatever it starts does not fail. -/
def Gentle (s : Session) (d : Deed) : Prop :=
  (∀ v, d ≠ .finish v) ∧
    ∀ t r, s.act d = some (t, r) → ∀ a ∈ r.started, s.output.failing.contains a = false

def Undisturbed : Session → List Deed → Prop
  | _, [] => True
  | s, d :: ds => s.Gentle d ∧ ∀ t r, s.act d = some (t, r) → t.Undisturbed ds

theorem gentle_iff (s : Session) (d : Deed) : s.Gentle d ↔ d.isFinish = false ∧
    ((s.act d).all fun done => done.2.started.all fun a => !s.output.failing.contains a) = true := by
  refine and_congr ?_ ?_
  · cases d <;> simp [Deed.isFinish]
  · simp [Option.all_eq_true]

instance (s : Session) (d : Deed) : Decidable (s.Gentle d) := decidable_of_iff' _ (s.gentle_iff d)

instance decidableUndisturbed : (s : Session) → (ds : List Deed) → Decidable (s.Undisturbed ds)
  | _, [] => isTrue trivial
  | s, d :: ds =>
    have : Decidable (∀ t r, s.act d = some (t, r) → t.Undisturbed ds) :=
      match s.act d with
      | none => isTrue (by simp)
      | some (t, _) =>
        have := decidableUndisturbed t ds
        decidable_of_iff (t.Undisturbed ds) (by simp)
    inferInstanceAs (Decidable (_ ∧ _))

theorem after_invariant {P : Session → Prop}
    (step : ∀ s d t r, P s → s.act d = some (t, r) → P t) {s t : Session} {ds : List Deed}
    (run : s.after ds = some t) (start : P s) : P t := by
  induction ds generalizing s with
  | nil =>
    obtain rfl := Option.some.inj run
    exact start
  | cons d ds ih =>
    obtain ⟨⟨u, r⟩, first, rest⟩ := Option.bind_eq_some_iff.mp run
    exact ih rest (step s d u r start first)

theorem after_append (s : Session) (ds es : List Deed) :
    s.after (ds ++ es) = (s.after ds).bind fun t => t.after es := by
  induction ds generalizing s with
  | nil => rfl
  | cons d ds ih =>
    simp only [List.cons_append, after, ih]
    cases s.act d <;> rfl

def swept (s : Session) (w : World) (o : Option Observer) : Session :=
  { s with sweeps := (s.sweeps.tick s.settings w (o.map (·.position))).1 }

theorem step_disconnected {s : Session} (off : s.connected = false) (w : World)
    (o : Option Observer) : s.step w o = some (s, .idle) := by
  simp [step, off]

/-- The tick of a connected session is its cycle, if one is due, between a step of the censuses
and a step of the emitters. -/
theorem step_connected {s : Session} (on : s.connected = true) (w : World) (o : Option Observer) :
    s.step w o = ((s.swept w (o.filter (·.alive))).cycleIfDue w (o.filter (·.alive))).map fun done =>
      (done.1.finishTick,
        ⟨(s.sweeps.tick s.settings w ((o.filter (·.alive)).map (·.position))).2, done.2⟩) := by
  simp only [step, on, if_true, tickConnected, swept]
  generalize cycleIfDue _ w (o.filter (·.alive)) = due
  cases due <;> rfl

theorem step_cases {s t : Session} {w : World} {o : Option Observer} {r : TickRecord}
    (h : s.step w o = some (t, r)) : (t = s ∧ r = .idle) ∨
      ∃ u, (s.swept w (o.filter (·.alive))).cycleIfDue w (o.filter (·.alive)) = some (u, r.cycle) ∧
        t = u.finishTick := by
  cases on : s.connected with
  | false =>
    rw [step_disconnected on] at h
    obtain ⟨rfl, rfl⟩ := Prod.mk.inj (Option.some.inj h)
    exact .inl ⟨rfl, rfl⟩
  | true =>
    rw [step_connected on] at h
    obtain ⟨⟨u, k⟩, due, same⟩ := Option.map_eq_some_iff.mp h
    obtain ⟨rfl, rfl⟩ := Prod.mk.inj same
    exact .inr ⟨u, due, rfl⟩

def played (s : Session) (regionSpot observerSpot : Option AcousticId) : Session :=
  let spots := regionSpot.toList ++ observerSpot.toList
  { s with output := spots.foldl (fun output a => output.playOnce a s.settings.scale) s.output }

def concluded (s : Session) (biomes : Bool) (m : Mix) (regionSpot observerSpot : Option AcousticId)
    (r : Reconciliation) : Session × Cycle :=
  ({ s with roster := r.roster, output := r.output },
    { report :=
        { tick := s.tick, present := true, environment := s.environment, biomeSounds := biomes
          desired := m.wanted, summary := r.summary, regionSpot := regionSpot
          observerSpot := observerSpot, emitters := r.roster.size }
      newcomers := r.newcomers })

def perform (s : Session) (biomes : Bool) (m : Mix) (regionSpot observerSpot : Option AcousticId) :
    Session × Cycle :=
  let t := s.played regionSpot observerSpot
  t.concluded biomes m regionSpot observerSpot (t.roster.reconcile m t.output)

theorem cycleAround_eq (s : Session) (w : World) (o : Observer) : s.cycleAround w o =
    let t := s.observe w o
    let biomes := playsBiomes t.settings (w.realm o.realm) t.environment
    (t.desired biomes t.environment).map fun m =>
      t.perform biomes m (t.drawRegionSpot biomes t.environment)
        (t.drawObserverSpot t.environment) := by
  simp only [cycleAround]
  cases (s.observe w o).desired _ _ <;> rfl

def reconciled (s : Session) (m : Mix) (c : Cycle) : Reconciliation :=
  s.roster.reconcile m
    (c.report.spots.foldl (fun output a => output.playOnce a s.settings.scale) s.output)

structure Keeps (s t : Session) : Prop where
  settings : t.settings = s.settings
  repertoire : t.repertoire = s.repertoire
  sweeps : t.sweeps = s.sweeps
  radius : t.roof.radius = s.roof.radius
  connected : t.connected = s.connected

structure Cycles (s : Session) (m : Mix) (c : Cycle) (t : Session) : Prop where
  roster : t.roster = (s.reconciled m c).roster
  output : t.output = (s.reconciled m c).output
  newcomers : c.newcomers = (s.reconciled m c).newcomers
  keeps : s.Keeps t

theorem cycle_cases {s t : Session} {w : World} {o : Option Observer} {c : Cycle}
    (h : s.cycle w o = some (t, c)) : ∃ m, s.Cycles m c t := by
  cases o with
  | none =>
    obtain ⟨rfl, rfl⟩ := Prod.mk.inj (Option.some.inj h)
    exact ⟨.empty, rfl, rfl, rfl, rfl, rfl, rfl, rfl, rfl⟩
  | some o =>
    simp only [cycle, cycleAround, Option.bind_eq_bind, Option.bind_eq_some_iff] at h
    obtain ⟨m, -, h⟩ := h
    obtain ⟨rfl, rfl⟩ := Prod.mk.inj (Option.some.inj h)
    exact ⟨m, rfl, rfl, rfl, rfl, rfl, rfl, rfl, rfl⟩

theorem cycleIfDue_cases {s t : Session} {w : World} {o : Option Observer} {k : Option Cycle}
    (h : s.cycleIfDue w o = some (t, k)) :
    (t = s ∧ k = none) ∨ ∃ m c, k = some c ∧ s.Cycles m c t := by
  unfold cycleIfDue at h
  split at h
  · obtain ⟨⟨u, c⟩, mixed, same⟩ := Option.map_eq_some_iff.mp h
    obtain ⟨rfl, rfl⟩ := Prod.mk.inj same
    obtain ⟨m, cycles⟩ := cycle_cases mixed
    obtain ⟨settings, repertoire, sweeps, radius, connected⟩ := cycles.keeps
    exact .inr ⟨m, c, rfl, cycles.roster, cycles.output, cycles.newcomers, settings, repertoire,
      sweeps, radius, connected⟩
  · obtain ⟨rfl, rfl⟩ := Prod.mk.inj (Option.some.inj h)
    exact .inl ⟨rfl, rfl⟩

def stage (s : Session) : Stage := ⟨s.roster.emitters.entries, s.output⟩

section Moves

variable {calm : Prop} {s t : Session}

theorem clear_moves (s : Session) : Moves calm s.stage s.clear.stage :=
  s.roster.clear_moves s.output

theorem disconnect_moves (s : Session) : Moves calm s.stage s.disconnect.stage :=
  .tail s.clear_moves (.stopAll s.clear.output)

theorem playOnce_moves (es : List (AcousticId × Emitter)) (spots : List AcousticId)
    (volume : Float32) (o : Output) :
    Moves calm ⟨es, o⟩ ⟨es, spots.foldl (fun output a => output.playOnce a volume) o⟩ := by
  induction spots generalizing o with
  | nil => exact .refl
  | cons a rest ih => exact .head (.once es o a volume) (ih (o.playOnce a volume))

theorem playOnce_keeps (spots : List AcousticId) (volume : Float32) (o : Output) :
    (spots.foldl (fun output a => output.playOnce a volume) o).next = o.next ∧
      (spots.foldl (fun output a => output.playOnce a volume) o).playing = o.playing ∧
      (spots.foldl (fun output a => output.playOnce a volume) o).failing = o.failing := by
  induction spots generalizing o with
  | nil => exact ⟨rfl, rfl, rfl⟩
  | cons a rest ih => simpa using ih (o.playOnce a volume)

theorem Cycles.moves {m : Mix} {c : Cycle} (h : s.Cycles m c t)
    (works : calm → ∀ n ∈ c.newcomers, s.output.failing.contains n.1 = false) :
    Moves calm s.stage t.stage := by
  rw [stage, stage, h.roster, h.output]
  refine (playOnce_moves s.roster.emitters.entries _ _ s.output).trans
    (s.roster.reconcile_moves m _ ?_)
  intro quiet n mem
  rw [(playOnce_keeps _ _ s.output).2.2]
  refine works quiet n ?_
  rw [h.newcomers]
  exact mem

theorem cycleIfDue_moves {w : World} {o : Option Observer} {k : Option Cycle}
    (h : s.cycleIfDue w o = some (t, k))
    (works : calm → ∀ c, k = some c → ∀ n ∈ c.newcomers, s.output.failing.contains n.1 = false) :
    Moves calm s.stage t.stage := by
  rcases cycleIfDue_cases h with ⟨rfl, -⟩ | ⟨m, c, rfl, cycles⟩
  · exact .refl
  · exact cycles.moves fun quiet => works quiet c rfl

theorem finishTick_moves (s : Session) : Moves calm s.stage s.finishTick.stage :=
  s.roster.tickAll_moves s.settings.scale s.output

theorem step_moves {w : World} {o : Option Observer} {r : TickRecord}
    (h : s.step w o = some (t, r))
    (works : calm → ∀ a ∈ r.started, s.output.failing.contains a = false) :
    Moves calm s.stage t.stage := by
  rcases step_cases h with ⟨rfl, -⟩ | ⟨u, due, rfl⟩
  · exact .refl
  · have mixed : Moves calm (s.swept w (o.filter (·.alive))).stage u.stage := by
      refine cycleIfDue_moves due ?_
      intro quiet c found n mem
      refine works quiet n.1 ?_
      simp only [TickRecord.started, found]
      exact List.mem_map_of_mem mem
    exact mixed.trans u.finishTick_moves

theorem act_moves {d : Deed} {r : TickRecord} (h : s.act d = some (t, r))
    (gentle : calm → s.Gentle d) : Moves calm s.stage t.stage := by
  cases d with
  | connect =>
    obtain ⟨rfl, -⟩ := Prod.mk.inj (Option.some.inj h)
    exact s.clear_moves
  | disconnect =>
    obtain ⟨rfl, -⟩ := Prod.mk.inj (Option.some.inj h)
    exact s.disconnect_moves
  | reset =>
    obtain ⟨rfl, -⟩ := Prod.mk.inj (Option.some.inj h)
    exact s.clear_moves
  | tick w o => exact step_moves h fun quiet => (gentle quiet).2 t r h
  | fail a =>
    obtain ⟨rfl, -⟩ := Prod.mk.inj (Option.some.inj h)
    exact .single (.fail _ s.output a)
  | heal a =>
    obtain ⟨rfl, -⟩ := Prod.mk.inj (Option.some.inj h)
    exact .single (.heal _ s.output a)
  | finish v =>
    obtain ⟨rfl, -⟩ := Prod.mk.inj (Option.some.inj h)
    refine .single (.ended _ s.output v ?_)
    intro quiet
    exact (gentle quiet).1 v rfl

theorem after_moves {ds : List Deed} (run : s.after ds = some t)
    (undisturbed : calm → s.Undisturbed ds) : Moves calm s.stage t.stage := by
  induction ds generalizing s with
  | nil =>
    obtain rfl := Option.some.inj run
    exact .refl
  | cons d ds ih =>
    obtain ⟨⟨u, r⟩, first, rest⟩ := Option.bind_eq_some_iff.mp run
    have one := act_moves first fun quiet => (undisturbed quiet).1
    exact one.trans (ih rest fun quiet => (undisturbed quiet).2 u r first)

end Moves

/-! A small session to try statements on: censuses of one cell, a cycle every tick, and a sound for
every region, for night and for rain. -/

def smallSettings : Settings :=
  { Settings.standard with
    fadeTicks := 2, interval := 1, roofRadius := 0
    biome := ⟨true, ⟨0, 0, 1⟩, 0, []⟩
    blocks := ⟨false, ⟨0, 0, 1⟩, 0, 1⟩ }

def smallSounds : Repertoire where
  candidates r _ := [⟨r.index⟩]
  regionSpot _ _ source := (none, source)
  alwaysOn e := if e.night then [⟨7⟩] else []
  observerSpot e source := (if e.raining then some ⟨9⟩ else none, source)
  name? _ := none

def plain (r : Nat) : World := ⟨fun _ _ => .region ⟨r⟩, fun _ _ => some 63, .standard⟩

def smallDeeds : List Deed :=
  let here := Observer.standing ⟨0, 64, 0⟩
  [.connect, .tick (plain 1) (some here), .fail ⟨2⟩,
    .tick (plain 2) (some { here with raining := true, night := true }), .finish ⟨0⟩,
    .tick (plain 2) none, .disconnect]

end Session

end AmbientSound
