import AmbientSound.Proofs.Session.Countdown
import AmbientSound.Proofs.Session.Settled
import AmbientSound.Proofs.Session.Voices
/-!
A session in front of one world converges. First its mix settles on what the world alone asks for,
then its emitters fall in line with the mix, and from then on they stay there.
-/
namespace AmbientSound

namespace Session

section Tidiness

variable {s t : Session} {n : Nat}

theorem cycleIfDue_fades {w : World} {o : Option Observer} {k : Option Cycle}
    (h : s.cycleIfDue w o = some (t, k)) (fades : s.roster.Fades n) : t.roster.Fades n := by
  rcases cycleIfDue_cases h with ⟨rfl, -⟩ | ⟨m, c, -, cycles⟩
  · exact fades
  · rw [cycles.roster]
    exact fades.reconcile

theorem step_fades {w : World} {o : Option Observer} {r : TickRecord}
    (h : s.step w o = some (t, r)) (fades : s.roster.Fades n) : t.roster.Fades n := by
  rcases step_cases h with ⟨rfl, -⟩ | ⟨u, due, rfl⟩
  · exact fades
  · exact (cycleIfDue_fades due fades).tickAll

theorem act_fades {d : Deed} {r : TickRecord} (h : s.act d = some (t, r))
    (fades : s.roster.Fades n) : t.roster.Fades n := by
  have vacated : s.clear.roster.Fades n := fades.roster ▸ Roster.vacant_fades s.roster.fadeTicks
  cases d with
  | connect =>
    obtain ⟨rfl, -⟩ := Prod.mk.inj (Option.some.inj h)
    exact vacated
  | disconnect =>
    obtain ⟨rfl, -⟩ := Prod.mk.inj (Option.some.inj h)
    exact vacated
  | reset =>
    obtain ⟨rfl, -⟩ := Prod.mk.inj (Option.some.inj h)
    exact vacated
  | tick w o => exact step_fades h fades
  | fail a =>
    obtain ⟨rfl, -⟩ := Prod.mk.inj (Option.some.inj h)
    exact fades
  | heal a =>
    obtain ⟨rfl, -⟩ := Prod.mk.inj (Option.some.inj h)
    exact fades
  | finish v =>
    obtain ⟨rfl, -⟩ := Prod.mk.inj (Option.some.inj h)
    exact fades

theorem Tidy.act {given : Settings} {sounds : Repertoire} {d : Deed} {r : TickRecord}
    (h : s.Tidy) (built : Built given sounds s) (done : s.act d = some (t, r)) : t.Tidy := by
  refine ⟨h.numbered.moves (act_moves done False.elim), ?_⟩
  rw [(built.act done).settings, ← built.settings]
  exact act_fades done h.fades

end Tidiness

theorem Stepped.of_tickAll {r : Roster} {out : Output} {scale : Float32} {t : Session}
    (numbered : Numbered ⟨r.emitters.entries, out⟩)
    (stepped : (t.roster, t.output) = r.tickAll scale out) : Stepped r out scale t := by
  have roster : t.roster = (r.tickAll scale out).1 := congrArg Prod.fst stepped
  have output : t.output = (r.tickAll scale out).2 := congrArg Prod.snd stepped
  constructor
  · intro a absent
    rw [roster]
    exact Roster.tickAll_get?_none absent
  · intro a e found
    rw [roster, output]
    exact r.tickAll_get?_some scale out numbered.apart found

structure Ready (given : Settings) (sounds : Repertoire) (w : World) (o : Observer) (s : Session) :
    Prop where
  built : Built given sounds s
  on : s.connected = true
  tidy : s.Tidy
  settling : s.Settling w o.position 1

/-- What is wanted is on its way to be heard, and the rest on its way out. -/
structure Nearing (wanted : AcousticId → Option Float32) (s : Session) (n : Nat) : Prop where
  leaving : ∀ a, wanted a = none → s.Leaving a n
  joining : ∀ a v, wanted a = some v → s.Joining a v n

section Convergence

variable {given : Settings} {sounds : Repertoire} {w : World} {o : Observer} {s t : Session}
  {n m : Nat}

theorem Ready.paced (h : Ready given sounds w o s) : 0 < s.settings.interval := by
  rw [h.built.settings]
  exact Nat.lt_of_lt_of_le Nat.zero_lt_one (Nat.le_max_right given.interval 1)

theorem Ready.mix (h : Ready given sounds w o s) (number : given.floor.isNaN = false) {m : Mix}
    (mixed : (s.swept w (some o)).mixAround w o = some m) (a : AcousticId) :
    m.get? a = given.sanitized.wanted? sounds w o a :=
  (h.built.swept w (some o)).settled_mix number (h.built.settling_swept h.settling) mixed a

theorem Ready.tick (h : Ready given sounds w o s) (number : given.floor.isNaN = false)
    (alive : o.alive = true) :
    ∃ t r, s.step w (some o) = some (t, r) ∧ Ready given sounds w o t ∧
      Turn (given.sanitized.wanted? sounds w o) s r.started t := by
  obtain ⟨t, r, stepped, kept, time, idle, due⟩ := h.built.step_follows number h.on w alive
  have acted : s.act (.tick w (some o)) = some (t, r) := stepped
  have closer := (h.built.settling_swept h.settling).keeps kept
  refine ⟨t, r, stepped, ⟨h.built.act acted, kept.connected.trans h.on, h.tidy.act h.built acted,
    closer.mono (by omega)⟩, kept.settings, time, ?_⟩
  cases now : s.isDue with
  | false => exact ⟨_, _, .idle now, .of_tickAll h.tidy.numbered (idle now)⟩
  | true =>
    obtain ⟨m, c, mixed, cycled, follows⟩ := due now
    obtain ⟨next, playing, failing⟩ := playOnce_keeps c.report.spots s.settings.scale s.output
    have started : r.started = c.newcomers.map (·.1) := by rw [TickRecord.started, cycled]; rfl
    refine ⟨_, _, .mixed m _ now (h.mix number mixed) next playing failing ?_, .of_tickAll ?_
      follows.emitters⟩
    · intro fresh mem
      rw [started, follows.newcomers]
      exact List.mem_map_of_mem mem
    · exact (h.tidy.numbered.sameEmitters next).moves (s.roster.reconcile_moves m _ False.elim)

theorem Leaving.mono {a : AcousticId} (le : n ≤ m) (h : s.Leaving a n) : s.Leaving a m := by
  cases h with
  | gone absent => exact .gone absent
  | finished e d found ended due soon => exact .finished e d found ended due (by omega)
  | fading e k found phase soon => exact .fading e k found phase (by omega)
  | active e d found phase due soon => exact .active e d found phase due (by omega)

theorem Joining.mono {a : AcousticId} {v : Float32} (le : n ≤ m) (h : s.Joining a v n) :
    s.Joining a v m := by
  cases h with
  | heard voice sounds found => exact .heard voice sounds found
  | waiting d ready due soon => exact .waiting d ready due (by omega)
  | unsure soon => exact .unsure (by omega)

variable {wanted : AcousticId → Option Float32}

theorem Nearing.mono (le : n ≤ m) (h : Nearing wanted s n) : Nearing wanted s m :=
  ⟨fun a unwanted => (h.leaving a unwanted).mono le, fun a v wants => (h.joining a v wants).mono le⟩

theorem Nearing.congr {output : Output} (h : Nearing wanted s n)
    (playing : output.playing = s.output.playing) :
    Nearing wanted { s with output := output } n := by
  constructor
  · intro a unwanted
    exact (h.leaving a unwanted).congr
  · intro a v wants
    cases h.joining a v wants with
    | heard voice sounds found =>
      refine .heard voice ?_ found
      rwa [Output.isDone, playing]
    | waiting d ready due soon =>
      refine .waiting d ?_ due soon
      intro e found
      rw [Output.isDone, playing]
      exact ready e found
    | unsure soon => exact .unsure soon

theorem Nearing.inLine (h : Nearing wanted s 0) : InLine wanted s := by
  constructor
  · intro a v wants
    cases h.joining a v wants with
    | heard voice sounds found => exact ⟨voice, sounds, found⟩
    | waiting d ready due soon => exact absurd soon (Nat.not_lt_zero d)
    | unsure soon => exact absurd soon (Nat.not_lt_zero _)
  · intro a unwanted
    cases h.leaving a unwanted with
    | gone absent => exact absent
    | finished e d found ended due soon => exact absurd soon (Nat.not_lt_zero d)
    | fading e k found phase soon => exact absurd soon (Nat.not_lt_zero _)
    | active e d found phase due soon => omega

/-- From wherever the emitters stand, two intervals and a fade less a tick are enough. -/
theorem Ready.nearing (h : Ready given sounds w o s)
    (long : 2 * s.settings.interval + max s.settings.fadeTicks 1 ≤ n + 1) :
    Nearing wanted s n := by
  have pos := h.paced
  constructor
  · intro a unwanted
    exact h.tidy.leaving pos a long
  · intro a v wants
    exact .unsure (by omega)

theorem Ready.act (h : Ready given sounds w o s) (number : given.floor.isNaN = false)
    (alive : o.alive = true) {d : Deed} (steady : d.Steady w o) (gentle : s.Gentle d)
    (nearing : Nearing (given.sanitized.wanted? sounds w o) s n) :
    ∃ t r, s.act d = some (t, r) ∧ Ready given sounds w o t ∧
      Nearing (given.sanitized.wanted? sounds w o) t (n - ticks [d]) := by
  have befall {output : Output} (next : output.next = s.output.next)
      (playing : output.playing = s.output.playing) :
      Ready given sounds w o { s with output := output } ∧
        Nearing (given.sanitized.wanted? sounds w o) { s with output := output } n :=
    ⟨⟨h.built.congr rfl rfl rfl rfl, h.on, ⟨h.tidy.numbered.sameEmitters next, h.tidy.fades⟩,
      h.settling.keeps ⟨rfl, rfl, rfl, rfl, rfl⟩⟩, nearing.congr playing⟩
  cases d with
  | tick v p =>
    obtain ⟨rfl, rfl⟩ := steady
    obtain ⟨t, r, stepped, ready, turn⟩ := h.tick number alive
    have works := gentle.2 t r stepped
    have later : Nearing (given.sanitized.wanted? sounds v o) s (n - 1 + 1) :=
      nearing.mono (by omega)
    refine ⟨t, r, stepped, ready, ?_, ?_⟩
    · intro a unwanted
      exact (later.leaving a unwanted).tick turn h.paced unwanted
    · intro a x wants
      exact (later.joining a x wants).tick turn h.paced h.tidy wants
        (given.wanted?_audible number wants) works
  | connect => exact steady.elim
  | disconnect => exact steady.elim
  | reset => exact steady.elim
  | fail a => exact ⟨_, _, rfl, befall rfl rfl⟩
  | heal a => exact ⟨_, _, rfl, befall rfl rfl⟩
  | finish v => exact absurd rfl (gentle.1 v)

theorem Ready.run (h : Ready given sounds w o s) (number : given.floor.isNaN = false)
    (alive : o.alive = true) {ds : List Deed} (steady : ∀ d ∈ ds, d.Steady w o)
    (undisturbed : s.Undisturbed ds) (nearing : Nearing (given.sanitized.wanted? sounds w o) s n) :
    ∃ t, s.after ds = some t ∧ Ready given sounds w o t ∧
      Nearing (given.sanitized.wanted? sounds w o) t (n - ticks ds) := by
  induction ds generalizing s n with
  | nil => exact ⟨s, rfl, h, nearing⟩
  | cons d rest ih =>
    obtain ⟨u, r, acted, ready, closer⟩ :=
      h.act number alive (steady d (by simp)) undisturbed.1 nearing
    obtain ⟨t, run, ready', there⟩ := ih ready
      (fun e mem => steady e (List.mem_cons_of_mem d mem)) (undisturbed.2 u r acted) closer
    refine ⟨t, ?_, ready', ?_⟩
    · rw [Session.after, acted]
      exact run
    · rw [ticks_cons]
      exact there.mono (by omega)

theorem Ready.inLine (h : Ready given sounds w o s) (number : given.floor.isNaN = false)
    (alive : o.alive = true) {ds : List Deed} (steady : ∀ d ∈ ds, d.Steady w o)
    (undisturbed : s.Undisturbed ds)
    (long : 2 * given.sanitized.interval + max given.fadeTicks 1 ≤ ticks ds + 1) :
    ∃ t, s.after ds = some t ∧ InLine (given.sanitized.wanted? sounds w o) t := by
  have nearing : Nearing (given.sanitized.wanted? sounds w o) s (ticks ds) := by
    refine h.nearing ?_
    rw [h.built.settings]
    exact long
  obtain ⟨t, run, -, there⟩ := h.run number alive steady undisturbed nearing
  rw [Nat.sub_self] at there
  exact ⟨t, run, there.inLine⟩

end Convergence

theorem start_ready {given : Settings} {sounds : Repertoire} {recording : Bool} {seed : UInt64}
    {ds es : List Deed} {w : World} {o : Observer} {s : Session}
    (number : given.floor.isNaN = false)
    (reached : (start given sounds (.silent recording) seed).after ds = some s)
    (on : s.connected = true) (alive : o.alive = true) (steady : ∀ d ∈ es, d.Steady w o)
    (long : 2 * given.sanitized.longestPass ≤ ticks es + 2) :
    ∃ t, s.after es = some t ∧ Ready given sounds w o t := by
  have built : Built given sounds s := (Built.of_start _ _).after reached
  obtain ⟨t, run, built', on', settling⟩ :=
    built.steady_run number on alive steady (built.settling (n := ticks es + 1) long)
  have whole : (start given sounds (.silent recording) seed).after (ds ++ es) = some t := by
    rw [after_append, reached]
    exact run
  have tidy : Built given sounds t ∧ t.Tidy := by
    refine after_invariant (P := fun u => Built given sounds u ∧ u.Tidy) ?_ whole
      ⟨.of_start _ _, start_numbered, Roster.vacant_fades _⟩
    rintro u d v r ⟨built, tidy⟩ done
    exact ⟨built.act done, tidy.act built done⟩
  exact ⟨t, run, built', on', tidy.2, settling.mono (by omega)⟩

/-- A living observer who stays where they are, in front of a world that stays as it is. From the
tick on at which two of the longest passes less a tick have gone by, every cycle follows the mix
that the world alone asks for. And if from there on no start fails and no voice ends by itself, two
intervals and a fade less a tick later the emitters are those of that mix and no others. -/
theorem settles_on_wanted {given : Settings} {sounds : Repertoire} {recording : Bool}
    {seed : UInt64} {ds es : List Deed} {w : World} {o : Observer} {s : Session}
    (number : given.floor.isNaN = false)
    (reached : (start given sounds (.silent recording) seed).after ds = some s)
    (on : s.connected = true) (alive : o.alive = true) (steady : ∀ d ∈ es, d.Steady w o)
    (long : 2 * given.sanitized.longestPass - 1 ≤ ticks es + 1) :
    ∃ t, s.after es = some t ∧
      (∃ u r, t.step w (some o) = some (u, r) ∧ (t.isDue = true → ∃ m c, r.cycle = some c ∧
        Follows t m c u ∧ ∀ a, m.get? a = given.sanitized.wanted? sounds w o a)) ∧
      ∀ late, (∀ d ∈ late, d.Steady w o) → t.Undisturbed late →
        2 * given.sanitized.interval + max given.fadeTicks 1 - 1 ≤ ticks late →
        ∃ u, t.after late = some u ∧ InLine (given.sanitized.wanted? sounds w o) u := by
  obtain ⟨t, run, ready⟩ := start_ready number reached on alive steady (by omega)
  refine ⟨t, run, ?_, ?_⟩
  · obtain ⟨u, r, stepped, -, -, -, due⟩ := ready.built.step_follows number ready.on w alive
    refine ⟨u, r, stepped, ?_⟩
    intro now
    obtain ⟨m, c, mixed, cycled, follows⟩ := due now
    exact ⟨m, c, cycled, follows, ready.mix number mixed⟩
  · intro late steady' undisturbed enough
    exact ready.inLine number alive steady' undisturbed (by omega)

def slowSettings : Settings := { smallSettings with biome := ⟨true, ⟨1, 0, 3⟩, 0, []⟩ }

/-- The world becomes another in the middle of a pass. Four ticks later the mix stands, and three
more ticks later only the sound of the new region is left. -/
theorem slow_settles_on_wanted :
    let here := Observer.standing ⟨0, 64, 0⟩
    let wanted := slowSettings.sanitized.wanted? smallSounds (plain 2) here
    let stay := Deed.tick (plain 2) (some here)
    ∃ s t u, (start slowSettings smallSounds (.silent false) 0).after
        [.connect, .tick (plain 1) (some here)] = some s ∧
      s.after [stay, stay, stay, stay] = some t ∧ t.after [stay, stay, stay] = some u ∧
      InLine wanted u ∧ wanted ⟨2⟩ = some 1 ∧ wanted ⟨1⟩ = none := by
  intro here wanted stay
  have before : ((start slowSettings smallSounds (.silent false) 0).after
      [.connect, .tick (plain 1) (some here)]).map (fun s => (s.connected,
        (s.after [stay, stay, stay, stay]).map fun t => decide (t.Undisturbed [stay, stay, stay]))) =
      some (true, some true) := by decide +kernel
  obtain ⟨s, reached, same⟩ := Option.map_eq_some_iff.mp before
  obtain ⟨on, quiet⟩ := Prod.mk.inj same
  have steady {n : Nat} : ∀ d ∈ List.replicate n stay, d.Steady (plain 2) here := by
    intro d mem
    rw [(List.mem_replicate.mp mem).2]
    exact ⟨rfl, rfl⟩
  obtain ⟨t, run, -, line⟩ := settles_on_wanted (by decide +kernel) reached on rfl
    (steady (n := 4)) (by decide)
  obtain ⟨t', run', undisturbed⟩ := Option.map_eq_some_iff.mp quiet
  obtain rfl : t' = t := Option.some.inj (run'.symm.trans run)
  obtain ⟨u, late, inLine⟩ := line [stay, stay, stay] (steady (n := 3))
    (of_decide_eq_true undisturbed) (by decide)
  exact ⟨s, t', u, reached, run, late, inLine, by decide +kernel, by decide +kernel⟩

end Session

end AmbientSound
