import AmbientSound.Proofs.Playback.Additions
import AmbientSound.Proofs.Session.Reachable
/-!
A session that nobody alive attends. It starts nothing; what was heard fades, and what has faded is
removed. A countdown for each acoustic says how many ticks its silence still takes.
-/
namespace AmbientSound

def Call.begins : Call → Bool
  | .start _ _ => true
  | .once _ _ => true
  | _ => false

/-- A tick without a living observer, or something that happens to the output. -/
def Deed.Lonely : Deed → Prop
  | .tick _ o => o.filter (·.alive) = none
  | .fail _ => True
  | .heal _ => True
  | .finish _ => True
  | _ => False

instance (d : Deed) : Decidable d.Lonely := by
  cases d <;> unfold Deed.Lonely <;> infer_instance

namespace Session

/-- After at most `n` ticks without an observer the emitter of an acoustic is done. -/
inductive Hushing (s : Session) (a : AcousticId) (n : Nat) : Prop where
  | finished (ended : ∀ e, s.roster.get? a = some e → e.isDone = true)
  | fading (e : Emitter) (k : Nat) (found : s.roster.get? a = some e) (phase : e.phase = .fading k)
      (soon : e.fadeTicks - (k + 1) < n)
  | active (e : Emitter) (d : Nat) (found : s.roster.get? a = some e) (phase : e.phase = .active)
      (due : s.DueIn d) (soon : d + max e.fadeTicks 1 ≤ n)

structure Stills (s : Session) (k : Nat) (t : Session) : Prop where
  connected : t.connected = s.connected
  next : t.output.next = s.output.next
  calls : s.output.Adds (fun c => c.begins = false) t.output
  hushing : ∀ a n, s.Hushing a (n + k) → t.Hushing a n
  leaving : ∀ a n, s.Leaving a (n + k) → t.Leaving a n

section Countdowns

variable {wanted : AcousticId → Option Float32} {s t : Session} {started : List AcousticId}
  {a : AcousticId} {n : Nat}

theorem Hushing.of_done {e : Emitter} (found : s.roster.get? a = some e) (ended : e.isDone = true) :
    s.Hushing a n := by
  apply Hushing.finished
  intro f found'
  obtain rfl := Option.some.inj (found.symm.trans found')
  exact ended

theorem Hushing.tick (h : s.Hushing a (n + 1)) (turn : Turn wanted s started t)
    (unwanted : wanted a = none) : t.Hushing a n := by
  cases h with
  | finished ended =>
    cases before : s.roster.get? a with
    | none =>
      apply Hushing.finished
      rw [turn.of_absent unwanted before]
      intro e never
      cases never
    | some e =>
      rcases turn.of_done unwanted before (ended e before) with ⟨-, there⟩ | absent
      · exact .of_done there (ended e before)
      · apply Hushing.finished
        rw [absent]
        intro f never
        cases never
  | fading e k found phase soon =>
    obtain ⟨f, there, length, ended | ⟨longer, short⟩⟩ := turn.of_fading unwanted found phase
    · exact .of_done there ended
    · exact .fading f (k + 1) there longer (by omega)
  | active e d found phase due soon =>
    obtain ⟨f, there, length, ended | ⟨idle, active⟩ | ⟨begun, short⟩⟩ :=
      turn.of_active unwanted found phase
    · exact .of_done there ended
    · obtain ⟨c, rfl, later⟩ := due.next idle turn.time turn.settings
      exact .active f c there active later (by omega)
    · exact .fading f 1 there begun (by omega)

theorem Hushing.congr {output : Output} (h : s.Hushing a n) :
    Hushing { s with output := output } a n := by
  cases h with
  | finished ended => exact .finished ended
  | fading e k found phase soon => exact .fading e k found phase soon
  | active e d found phase due soon => exact .active e d found phase due soon

/-- From wherever an emitter stands, an interval and a fade less a tick are enough. -/
theorem Tidy.hushing (h : s.Tidy) (pos : 0 < s.settings.interval) (a : AcousticId)
    (long : s.settings.interval + max s.settings.fadeTicks 1 ≤ n + 1) : s.Hushing a n := by
  obtain ⟨d, less, due⟩ := s.exists_dueIn pos
  cases found : s.roster.get? a with
  | none => exact .finished (by simp [found])
  | some e =>
    have same := h.fades.emitters a e found
    cases phase : e.phase with
    | active => exact .active e d found phase due (by omega)
    | fading k => exact .fading e k found phase (by omega)
    | done => exact .of_done found (by simp [Emitter.isDone, phase])

theorem Hushing.done {e : Emitter} (h : s.Hushing a 0) (found : s.roster.get? a = some e) :
    e.isDone = true := by
  cases h with
  | finished ended => exact ended e found
  | fading f k found' phase soon => exact absurd soon (Nat.not_lt_zero _)
  | active f d found' phase due soon => omega

theorem Leaving.absent (h : s.Leaving a 0) : s.roster.get? a = none := by
  cases h with
  | gone absent => exact absent
  | finished e d found ended due soon => exact absurd soon (Nat.not_lt_zero _)
  | fading e k found phase soon => exact absurd soon (Nat.not_lt_zero _)
  | active e d found phase due soon => omega

end Countdowns

namespace Stills

variable {s t u : Session} {j k : Nat}

theorem refl (s : Session) : s.Stills 0 s :=
  ⟨rfl, rfl, .of_calls_eq rfl, fun _ _ h => h, fun _ _ h => h⟩

theorem trans (first : s.Stills j t) (second : t.Stills k u) : s.Stills (j + k) u where
  connected := second.connected.trans first.connected
  next := second.next.trans first.next
  calls := first.calls.trans second.calls
  hushing := by
    intro a n h
    apply second.hushing
    apply first.hushing
    rwa [Nat.add_assoc, Nat.add_comm k j]
  leaving := by
    intro a n h
    apply second.leaving
    apply first.leaving
    rwa [Nat.add_assoc, Nat.add_comm k j]

theorem of_output {output : Output} (next : output.next = s.output.next)
    (calls : output.calls = s.output.calls) : s.Stills 0 { s with output := output } :=
  ⟨rfl, next, .of_calls_eq calls, fun _ _ h => h.congr, fun _ _ h => h.congr⟩

end Stills

section Alone

variable {given : Settings} {sounds : Repertoire} {recording : Bool} {seed : UInt64}
  {s : Session} {o : Option Observer}

theorem tickAll_adds_no_sound (r : Roster) (scale : Float32) (o : Output) :
    o.Adds (fun c => c.begins = false) (r.tickAll scale o).2 :=
  r.tickAll_adds scale (fun _ => rfl) fun _ _ => rfl

theorem step_alone (on : s.connected = true) (w : World) (alone : o.filter (·.alive) = none)
    (numbered : Numbered s.stage) :
    ∃ t r, s.step w o = some (t, r) ∧ Turn (fun _ => none) s r.started t ∧
      t.connected = s.connected ∧ t.output.next = s.output.next ∧
      s.output.Adds (fun c => c.begins = false) t.output := by
  obtain ⟨t, r, stepped, kept, time, idle, due⟩ := step_unattended on w alone
  have still {x : Roster} (emitters : (t.roster, t.output) = x.tickAll s.settings.scale s.output) :
      t.output.next = s.output.next ∧ s.output.Adds (fun c => c.begins = false) t.output := by
    have output : t.output = (x.tickAll s.settings.scale s.output).2 := congrArg Prod.snd emitters
    rw [output]
    exact ⟨x.tickAll_next _ _, tickAll_adds_no_sound x _ _⟩
  cases now : s.isDue with
  | false =>
    -- Without a cycle the emitters only take their steps.
    refine ⟨t, r, stepped, ⟨kept.settings, time, _, _, .idle now, .of_tickAll numbered (idle now)⟩,
      kept.connected, still (idle now)⟩
  | true =>
    -- A cycle mixes nothing, so there are no newcomers and all that is active begins to fade.
    obtain ⟨c, -, spotless, follows⟩ := due now
    have same : s.reconciled .empty c = s.roster.reconcile .empty s.output := by
      rw [reconciled, spotless]
      rfl
    obtain ⟨nobody, untouched⟩ := s.roster.reconcile_empty s.output
    have emitters := follows.emitters
    have moved : Moves False s.stage ⟨_, (s.roster.reconcile .empty s.output).output⟩ :=
      s.roster.reconcile_moves .empty s.output False.elim
    rw [same, untouched] at emitters
    rw [untouched] at moved
    have mixed : Prepared (fun _ => none) s r.started (s.roster.reconcile .empty s.output).roster
        (s.roster.reconcile .empty s.output).output := by
      refine .mixed .empty s.output now (fun _ => rfl) rfl rfl rfl ?_
      intro n mem
      rw [nobody] at mem
      exact absurd mem List.not_mem_nil
    rw [untouched] at mixed
    exact ⟨t, r, stepped, ⟨kept.settings, time, _, _, mixed,
      .of_tickAll (numbered.moves moved) emitters⟩, kept.connected, still emitters⟩

theorem Reachable.paced (h : Reachable given sounds recording seed s) :
    0 < s.settings.interval := by
  rw [h.built.settings]
  exact Nat.lt_of_lt_of_le Nat.zero_lt_one (Nat.le_max_right given.interval 1)

theorem Reachable.act_alone (h : Reachable given sounds recording seed s)
    (on : s.connected = true) {d : Deed} (lonely : d.Lonely) :
    ∃ t r, s.act d = some (t, r) ∧ s.Stills (ticks [d]) t := by
  cases d with
  | tick w o =>
    obtain ⟨t, r, stepped, turn, connected, next, calls⟩ :=
      step_alone on w lonely h.tidy.numbered
    refine ⟨t, r, stepped, connected, next, calls, ?_, ?_⟩
    · intro a n hushing
      exact hushing.tick turn rfl
    · intro a n leaving
      exact leaving.tick turn h.paced rfl
  | fail a => exact ⟨_, _, rfl, .of_output rfl rfl⟩
  | heal a => exact ⟨_, _, rfl, .of_output rfl rfl⟩
  | finish v => exact ⟨_, _, rfl, .of_output rfl rfl⟩
  | connect => exact lonely.elim
  | disconnect => exact lonely.elim
  | reset => exact lonely.elim

theorem Reachable.after_alone (h : Reachable given sounds recording seed s)
    (on : s.connected = true) {ds : List Deed} (lonely : ∀ d ∈ ds, d.Lonely) :
    ∃ t, s.after ds = some t ∧ Reachable given sounds recording seed t ∧ s.Stills (ticks ds) t := by
  induction ds generalizing s with
  | nil => exact ⟨s, rfl, h, .refl s⟩
  | cons d rest ih =>
    obtain ⟨u, r, acted, stills⟩ := h.act_alone on (lonely d (by simp))
    obtain ⟨t, run, reachable, later⟩ := ih (h.act acted) (stills.connected.trans on)
      fun e mem => lonely e (List.mem_cons_of_mem d mem)
    refine ⟨t, ?_, reachable, ?_⟩
    · rw [Session.after, acted]
      exact run
    · rw [ticks_cons]
      exact stills.trans later

/-- As long as nobody alive is there nothing starts. After an interval and a fade, less a tick,
nothing is heard any more, and after another interval no emitter is left. -/
theorem alone_falls_silent {ds es : List Deed}
    (reached : (start given sounds (.silent recording) seed).after ds = some s)
    (on : s.connected = true) (lonely : ∀ d ∈ es, d.Lonely) :
    ∃ t, s.after es = some t ∧ t.output.next = s.output.next ∧
      (∃ new, t.output.calls.toList = s.output.calls.toList ++ new ∧ ∀ c ∈ new, c.begins = false) ∧
      (given.sanitized.interval + max given.fadeTicks 1 - 1 ≤ ticks es →
        t.output.playing = .empty) ∧
      (2 * given.sanitized.interval + max given.fadeTicks 1 - 1 ≤ ticks es →
        t.roster.emitters = .empty) := by
  have reachable : Reachable given sounds recording seed s := Reachable.of_start.after reached
  have interval : s.settings.interval = given.sanitized.interval := by rw [reachable.built.settings]
  have fadeTicks : s.settings.fadeTicks = given.fadeTicks := by
    rw [reachable.built.settings]
    rfl
  obtain ⟨t, run, later, stills⟩ := reachable.after_alone on lonely
  refine ⟨t, run, stills.next, stills.calls, ?_, ?_⟩
  -- Both countdowns begin as long as the run and so are at zero when it ends.
  · intro long
    apply later.silent
    intro a e found
    have hushing : s.Hushing a (0 + ticks es) := by
      apply reachable.tidy.hushing reachable.paced a
      omega
    exact (stills.hushing a 0 hushing).done found
  · intro long
    apply IdentMap.eq_empty
    intro a
    have leaving : s.Leaving a (0 + ticks es) := by
      apply reachable.tidy.leaving reachable.paced a
      omega
    exact (stills.leaving a 0 leaving).absent

theorem small_alone_falls_silent :
    let settings := { smallSettings with interval := 3 }
    let here := Observer.standing ⟨0, 64, 0⟩
    let gone := Deed.tick (plain 2) (some { here with alive := false })
    let es := [gone, .finish ⟨1⟩, gone, .fail ⟨1⟩, .tick (plain 2) none, gone, gone, gone, gone]
    ∃ s t, (start settings smallSounds (.silent true) 0).after
        [.connect, .tick (plain 1) (some { here with raining := true, night := true })] = some s ∧
      s.output.playing.size = 2 ∧ s.after es = some t ∧ t.output.next = s.output.next ∧
      (∃ new, t.output.calls.toList = s.output.calls.toList ++ new ∧ ∀ c ∈ new, c.begins = false) ∧
      t.output.playing = .empty ∧ t.roster.emitters = .empty := by
  intro settings here gone es
  have before : ((start settings smallSounds (.silent true) 0).after
      [.connect, .tick (plain 1) (some { here with raining := true, night := true })]).map
        (fun s => (s.connected, s.output.playing.size)) = some (true, 2) := by decide +kernel
  obtain ⟨s, reached, same⟩ := Option.map_eq_some_iff.mp before
  obtain ⟨on, size⟩ := Prod.mk.inj same
  have lonely : ∀ d ∈ es, d.Lonely := by decide
  obtain ⟨t, run, next, calls, silent, empty⟩ := alone_falls_silent reached on lonely
  exact ⟨s, t, reached, size, run, next, calls, silent (by decide), empty (by decide)⟩

end Alone

end Session

end AmbientSound
