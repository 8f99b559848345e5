import AmbientSound.Proofs.Playback.Bookkeeping
import AmbientSound.Proofs.Session.Absence
import AmbientSound.Proofs.Session.Alike
/-!
The books of a session. Each report accounts for what its cycle did, and over a connected session the
reports add up to the starts that were issued and to the emitters that are there.
-/
namespace AmbientSound

def Call.isStart : Call → Bool
  | .start _ _ => true
  | _ => false

/-- Between two outputs so many starts were issued. -/
structure Output.Issued (n : Nat) (o p : Output) : Prop where
  next : p.next = o.next + n
  recording : p.recording = o.recording
  calls : o.recording = true → ∃ new, p.calls.toList = o.calls.toList ++ new ∧
    new.countP Call.isStart = n

section Outputs

variable {o p q : Output} {j k : Nat}

theorem Output.Issued.trans (first : o.Issued j p) (second : p.Issued k q) :
    o.Issued (j + k) q := by
  refine ⟨by rw [second.next, first.next, Nat.add_assoc],
    second.recording.trans first.recording, ?_⟩
  intro on
  obtain ⟨early, calls, few⟩ := first.calls on
  obtain ⟨late, calls', few'⟩ := second.calls (first.recording.trans on)
  refine ⟨early ++ late, ?_, ?_⟩
  · rw [calls', calls, List.append_assoc]
  · rw [List.countP_append, few, few']

theorem Output.Issued.of_adds (next : p.next = o.next) (recording : p.recording = o.recording)
    (adds : o.Adds (fun c => c.isStart = false) p) : o.Issued 0 p := by
  refine ⟨next, recording, ?_⟩
  intro _
  obtain ⟨new, calls, good⟩ := adds
  refine ⟨new, calls, List.countP_eq_zero.mpr ?_⟩
  intro c mem
  simp [good c mem]

theorem Starts.issued {starts : List (AcousticId × VoiceId)} (h : Starts Output.start o starts p) :
    o.Issued starts.length p := by
  have recording : p.recording = o.recording := by
    induction h with
    | nil o => rfl
    | cons o a later ih => exact ih.trans (o.start_recording a)
  refine ⟨h.next, recording, ?_⟩
  intro on
  refine ⟨_, h.calls on, ?_⟩
  rw [List.countP_map]
  apply List.countP_eq_length.mpr
  intro e _
  rfl

theorem Roster.reconcile_issued (r : Roster) (m : Mix) (o : Output) :
    o.Issued (r.summary m).started (r.reconcile m o).output := by
  obtain ⟨starts, keys, told, -⟩ := reconcileOn_starts Output.start r m o
  have length : starts.length = (newcomers r.live m).length := by
    simpa using congrArg List.length keys
  rw [summary_counts, reconcile_output]
  simp only
  rw [← length]
  exact told.issued

theorem Roster.tickAll_issued (r : Roster) (scale : Float32) (o : Output) :
    o.Issued 0 (r.tickAll scale o).2 := by
  have moves : Moves False _ ⟨_, (r.tickAll scale o).2⟩ := r.tickAll_moves scale o
  apply Output.Issued.of_adds (r.tickAll_next scale o) moves.recording
  exact r.tickAll_adds scale (fun _ => rfl) fun _ _ => rfl

theorem playAll_issued (as : List AcousticId) (x : Float32) (o : Output) :
    o.Issued 0 (as.foldl (fun output a => output.playOnce a x) o) := by
  have moves : Moves False _ ⟨[], as.foldl (fun output a => output.playOnce a x) o⟩ :=
    Session.playOnce_moves [] as x o
  apply Output.Issued.of_adds (Session.playOnce_keeps as x o).1 moves.recording
  exact Output.playAll_adds as x fun _ => rfl

theorem Roster.tickAll_size (r : Roster) (scale : Float32) (o : Output) :
    (r.tickAll scale o).1.size = r.size := by
  have keys := keys_eachEmitter (fun e => e.tick scale) r.emitters.entries o
  have lengths := congrArg List.length keys
  rwa [List.length_map, List.length_map] at lengths

end Outputs

def Summary.total (count : Summary → Nat) (reports : List (Option CycleReport)) : Nat :=
  (reports.map fun r => (r.map fun r => count r.summary).getD 0).sum

def Deed.interrupts : Deed → Bool
  | .connect => true
  | .disconnect => true
  | .reset => true
  | _ => false

namespace Session

structure Accounts (s : Session) (m : Mix) (c : Cycle) (t : Session) : Prop where
  made : m.Made
  cycles : s.Cycles m c t
  summary : c.report.summary = s.roster.summary m
  desired : c.report.desired = m.wanted
  emitters : c.report.emitters = t.roster.size

structure Accrues (s : Session) (started reaped : Nat) (t : Session) : Prop where
  size : t.roster.size + reaped = s.roster.size + started
  issued : s.output.Issued started t.output

section Books

variable {s t u : Session} {w : World} {r : TickRecord} {c : Cycle} {m : Mix}

theorem desired_made {biomes : Bool} {e : Environment} (mixed : s.desired biomes e = some m) :
    m.Made := by
  obtain ⟨n, tallied, rfl⟩ := Option.map_eq_some_iff.mp mixed
  exact (Mix.Made.aggregate tallied).putAll 1 _

theorem cycle_accounts {o : Option Observer} (h : s.cycle w o = some (t, c)) :
    ∃ m, s.Accounts m c t := by
  cases o with
  | none =>
    obtain ⟨rfl, rfl⟩ := Prod.mk.inj (Option.some.inj h)
    exact ⟨.empty, .empty, ⟨rfl, rfl, rfl, rfl, rfl, rfl, rfl, rfl⟩,
      s.roster.summary_eq .empty _, rfl, rfl⟩
  | some o =>
    simp only [cycle, cycleAround, Option.bind_eq_bind, Option.bind_eq_some_iff] at h
    obtain ⟨m, mixed, h⟩ := h
    obtain ⟨rfl, rfl⟩ := Prod.mk.inj (Option.some.inj h)
    exact ⟨m, desired_made mixed, ⟨rfl, rfl, rfl, rfl, rfl, rfl, rfl, rfl⟩, s.roster.summary_eq m _, rfl,
      rfl⟩

namespace Accounts

theorem balanced (h : s.Accounts m c t) : Roster.Balanced m s.roster t.roster c.report.summary := by
  rw [h.summary, h.cycles.roster, reconciled, Roster.reconcile_roster]
  exact Roster.reconcileOn_balanced h.made Output.start s.roster _

theorem accrues (h : s.Accounts m c t) :
    s.Accrues c.report.summary.started c.report.summary.reaped t := by
  refine ⟨h.balanced.size, ?_⟩
  have issued : s.output.Issued (0 + c.report.summary.started) t.output := by
    rw [h.summary, h.cycles.output]
    exact (playAll_issued _ _ s.output).trans (s.roster.reconcile_issued m _)
  rwa [Nat.zero_add] at issued

end Accounts

namespace Accrues

variable {a b j k : Nat}

theorem trans (first : s.Accrues a b t) (second : t.Accrues j k u) :
    s.Accrues (a + j) (b + k) u := by
  refine ⟨?_, first.issued.trans second.issued⟩
  have before := first.size
  have after := second.size
  omega

theorem of_output {p : Output} (next : p.next = s.output.next)
    (recording : p.recording = s.output.recording) (calls : p.calls = s.output.calls) :
    s.Accrues 0 0 { s with output := p } :=
  ⟨rfl, .of_adds next recording (.of_calls_eq calls)⟩

theorem refl (s : Session) : s.Accrues 0 0 s := .of_output rfl rfl rfl

theorem finishTick (s : Session) : s.Accrues 0 0 s.finishTick :=
  ⟨s.roster.tickAll_size s.settings.scale s.output,
    s.roster.tickAll_issued s.settings.scale s.output⟩

end Accrues

/-- What a report says of the mix and of the emitters in the session afterwards, and what its cycle
added to the books. -/
structure Reported (s : Session) (report : CycleReport) (t : Session) : Prop where
  desired : report.desired = report.summary.started + report.summary.continued
  emitters : report.emitters = t.roster.size
  accrues : s.Accrues report.summary.started report.summary.reaped t

theorem cycleIfDue_accrues {o : Option Observer} {k : Option Cycle}
    (h : s.cycleIfDue w o = some (t, k)) :
    k = none ∧ s.Accrues 0 0 t ∨ ∃ c, k = some c ∧ s.Reported c.report t := by
  unfold cycleIfDue at h
  split at h
  · obtain ⟨⟨u, c⟩, cycled, same⟩ := Option.map_eq_some_iff.mp h
    obtain ⟨rfl, rfl⟩ := Prod.mk.inj same
    obtain ⟨m, accounts⟩ := cycle_accounts cycled
    have accrues := accounts.accrues
    exact .inr ⟨c, rfl, accounts.desired.trans accounts.balanced.wanted.symm, accounts.emitters,
      accrues.size, accrues.issued⟩
  · obtain ⟨rfl, rfl⟩ := Prod.mk.inj (Option.some.inj h)
    exact .inl ⟨rfl, .refl s⟩

theorem step_accrues {o : Option Observer} (h : s.step w o = some (t, r)) :
    r.report? = none ∧ s.Accrues 0 0 t ∨
      ∃ report, r.report? = some report ∧ s.Reported report t := by
  rcases step_cases h with ⟨rfl, rfl⟩ | ⟨u, due, rfl⟩
  · exact .inl ⟨rfl, .refl t⟩
  · have last := Accrues.finishTick u
    rcases cycleIfDue_accrues due with ⟨none, accrues⟩ | ⟨c, some, reported⟩
    · refine .inl ⟨by rw [TickRecord.report?, none, Option.map_none], ?_⟩
      have swept : s.Accrues 0 0 u := ⟨accrues.size, accrues.issued⟩
      exact swept.trans last
    · refine .inr ⟨c.report, by rw [TickRecord.report?, some, Option.map_some], reported.desired,
        reported.emitters.trans (u.roster.tickAll_size _ _).symm, ?_⟩
      have swept : s.Accrues c.report.summary.started c.report.summary.reaped u :=
        ⟨reported.accrues.size, reported.accrues.issued⟩
      exact swept.trans last

theorem act_accrues {d : Deed} (h : s.act d = some (t, r)) (goesOn : d.interrupts = false) :
    s.Accrues (Summary.total Summary.started [r.report?]) (Summary.total Summary.reaped [r.report?])
      t := by
  cases d with
  | tick w o =>
    rcases step_accrues h with ⟨none, accrues⟩ | ⟨report, some, reported⟩
    · rw [none]
      exact accrues
    · rw [some]
      exact reported.accrues
  | connect => cases goesOn
  | disconnect => cases goesOn
  | reset => cases goesOn
  | fail a =>
    obtain ⟨rfl, rfl⟩ := Prod.mk.inj (Option.some.inj h)
    exact .of_output rfl rfl rfl
  | heal a =>
    obtain ⟨rfl, rfl⟩ := Prod.mk.inj (Option.some.inj h)
    exact .of_output rfl rfl rfl
  | finish v =>
    obtain ⟨rfl, rfl⟩ := Prod.mk.inj (Option.some.inj h)
    exact .of_output rfl rfl rfl

theorem after_accrues {ds : List Deed} (run : s.after ds = some t)
    (goesOn : ∀ d ∈ ds, d.interrupts = false) :
    s.Accrues (Summary.total Summary.started (s.reports ds))
      (Summary.total Summary.reaped (s.reports ds)) t := by
  induction ds generalizing s with
  | nil =>
    obtain rfl := Option.some.inj run
    exact .refl s
  | cons d rest ih =>
    obtain ⟨⟨u, r⟩, first, later⟩ := Option.bind_eq_some_iff.mp run
    have one := act_accrues first (goesOn d (by simp))
    have others := ih later fun e mem => goesOn e (List.mem_cons_of_mem d mem)
    have both := one.trans others
    simp only [reports, first, Summary.total, List.map_cons, List.map_nil, List.sum_cons,
      List.sum_nil, Nat.add_zero] at both ⊢
    exact both

/-- Every reconciliation balances its books, every report of every session is true of them, and over
a connected session the starts add up to those that were issued, and without what was removed to the
emitters that are there. -/
theorem books_balance :
    (∀ {m : Mix}, m.Made → ∀ r : Roster,
      (∀ {σ : Type} (start : σ → AcousticId → VoiceId × σ) (d : σ),
        Roster.Balanced m r (r.reconcileOn start m d).1 (r.summary m)) ∧
      ∀ o : Output, Roster.Balanced m r (r.reconcile m o).roster (r.reconcile m o).summary) ∧
    (∀ (s t : Session) (d : Deed) (r : TickRecord) (report : CycleReport),
      s.act d = some (t, r) → r.report? = some report →
        report.desired = report.summary.started + report.summary.continued ∧
        report.emitters = t.roster.size) ∧
    ∀ (s t : Session) (ds : List Deed), (∀ d ∈ ds, d.interrupts = false) →
      s.connect.after ds = some t →
        let started := Summary.total Summary.started (s.connect.reports ds)
        t.output.next = s.connect.output.next + started ∧
        (s.output.recording = true → ∃ new,
          t.output.calls.toList = s.connect.output.calls.toList ++ new ∧
          new.countP Call.isStart = started) ∧
        started = Summary.total Summary.reaped (s.connect.reports ds) + t.roster.size := by
  refine ⟨?_, ?_, ?_⟩
  · intro m made r
    constructor
    · intro σ start d
      exact Roster.reconcileOn_balanced made start r d
    · intro o
      rw [r.summary_eq m o, Roster.reconcile_roster]
      exact Roster.reconcileOn_balanced made Output.start r o
  · intro s t d r report done some
    cases d with
    | tick w o =>
      rcases step_accrues done with ⟨none, -⟩ | ⟨report', same, reported⟩
      · rw [none] at some
        cases some
      · obtain rfl := Option.some.inj (same.symm.trans some)
        exact ⟨reported.desired, reported.emitters⟩
    | _ =>
      obtain ⟨-, rfl⟩ := Prod.mk.inj (Option.some.inj done)
      cases some
  · intro s t ds goesOn run started
    have accrues := after_accrues run goesOn
    have cleared : Moves False s.stage s.clear.stage := s.clear_moves
    have recording : s.connect.output.recording = s.output.recording := cleared.recording
    refine ⟨accrues.issued.next, ?_, ?_⟩
    · rw [← recording]
      exact accrues.issued.calls
    · have size := accrues.size
      have none : s.connect.roster.size = 0 := rfl
      omega

theorem small_books_balance :
    let s := start smallSettings smallSounds (.silent true) 0
    let first := Deed.tick (plain 1) (some (Observer.standing ⟨0, 64, 0⟩))
    let run := smallDeeds.tail.dropLast
    Roster.Balanced Roster.smallMix Roster.smallRoster
      (Roster.smallRoster.reconcile Roster.smallMix (.silent false)).roster
      (Roster.smallRoster.reconcile Roster.smallMix (.silent false)).summary ∧
    (∃ t r report, s.connect.act first = some (t, r) ∧ r.report? = some report ∧
      report.desired = report.summary.started + report.summary.continued ∧
      report.emitters = t.roster.size) ∧
    (∀ d ∈ run, d.interrupts = false) ∧ ∃ t, s.connect.after run = some t ∧
      t.roster.size = 2 ∧ Summary.total Summary.reaped (s.connect.reports run) = 1 ∧
      t.output.next = 3 ∧ ∃ new, t.output.calls.toList = s.connect.output.calls.toList ++ new ∧
        new.countP Call.isStart = 3 := by
  intro s first run
  obtain ⟨reconciliations, reports, runs⟩ := books_balance
  refine ⟨(reconciliations (.ofList _) Roster.smallRoster).2 _, ?_, by decide, ?_⟩
  · have reported : ((s.connect.act first).bind fun done => done.2.report?).isSome = true := by
      decide +kernel
    obtain ⟨report, found⟩ := Option.isSome_iff_exists.mp reported
    obtain ⟨⟨t, r⟩, done, some⟩ := Option.bind_eq_some_iff.mp found
    exact ⟨t, r, report, done, some, reports s.connect t first r report done some⟩
  · have counted : ((s.connect.after run).map fun t => (t.roster.size,
        Summary.total Summary.started (s.connect.reports run),
        Summary.total Summary.reaped (s.connect.reports run))) = some (2, 3, 1) := by decide +kernel
    obtain ⟨t, after, same⟩ := Option.map_eq_some_iff.mp counted
    obtain ⟨size, rest⟩ := Prod.mk.inj same
    obtain ⟨started, reaped⟩ := Prod.mk.inj rest
    obtain ⟨next, calls, -⟩ := runs s t run (by decide) after
    rw [started] at next calls
    exact ⟨t, after, size, reaped, next, calls rfl⟩

end Books

end Session

end AmbientSound
