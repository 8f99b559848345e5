import AmbientSound.Proofs.Session.Alike
import AmbientSound.Proofs.Session.Reachable
/-!
To connect again is a clean slate. Whatever a session went through before, from then on it goes on
as a new one would, and only its voices have other numbers.
-/
namespace AmbientSound

def Diagnostic.shown (d : Diagnostic) : Datum × String := (d.toDatum, d.text)

theorem Emitter.Alike.shown {g : Gap} {e f : Emitter} (h : e.Alike g f) (tight : g.tight)
    (name : Option String) : Diagnostic.shown ⟨name, e⟩ = Diagnostic.shown ⟨name, f⟩ := by
  simp only [Diagnostic.shown, Diagnostic.toDatum, Diagnostic.text, Emitter.stateText, h.acoustic,
    h.throttle, h.phase, h.volume tight]

theorem CycleReport.Alike.eq_of_tight {g : Gap} (tight : g.tight) {r q : Option CycleReport}
    (h : Option.Rel (CycleReport.Alike g) r q) : r = q := by
  cases h with
  | none => rfl
  | some alike => rw [alike.tight tight]

namespace Session

/-- A new session, connected, at the time of another and with its failing starts. -/
def anew (given : Settings) (sounds : Repertoire) (seed : UInt64) (s : Session) : Session :=
  let output := { Output.silent s.output.recording with failing := s.output.failing }
  { (start given sounds output seed).connect with tick := s.tick }

/-- What `t` shows is what `u` shows; and the calls recorded since they were `s` and `f` are the
same, the voices of `s` counted on from its next. -/
structure Echoes (s f t u : Session) : Prop where
  diagnostics : t.diagnostics.map Diagnostic.shown = u.diagnostics.map Diagnostic.shown
  environment : t.environment = u.environment
  lastCycle : t.lastCycle = u.lastCycle
  calls : ∃ new, u.output.calls.toList = f.output.calls.toList ++ new ∧
    t.output.calls.toList = s.output.calls.toList ++ new.map (Call.shift s.output.next)

section Tight

variable {g : Gap} {s t : Session}

theorem Alike.diagnostics_eq (h : s.Alike g t) (tight : g.tight) :
    s.diagnostics.map Diagnostic.shown = t.diagnostics.map Diagnostic.shown := by
  have entries := h.roster.emitters
  simp only [diagnostics, Roster.diagnostics, List.map_map, h.repertoire]
  unfold IdentMap.Matches at entries
  generalize s.roster.emitters.entries = es at entries
  generalize t.roster.emitters.entries = fs at entries
  induction entries with
  | nil => rfl
  | cons first rest ih =>
    simp only [List.map_cons, Function.comp_apply, ih, first.2.acoustic, first.2.shown tight]

theorem Alike.reports_eq (h : s.Alike g t) (tight : g.tight) {ds : List Deed}
    (free : ∀ d ∈ ds, d.isFinish = false) : s.reports ds = t.reports ds := by
  have agree := h.reports ds
  rw [Deed.map_shift_of_free free] at agree
  have equal := agree.imp fun r q related => CycleReport.Alike.eq_of_tight tight related
  rwa [List.forall₂_eq_eq_eq] at equal

theorem Alike.echoes {s f t u : Session} (fresh : f.output.calls.toList = [])
    (h : t.Alike ⟨s.output.next, s.output.calls.toList, True⟩ u) : Echoes s f t u where
  diagnostics := h.diagnostics_eq trivial
  environment := h.environment
  lastCycle := CycleReport.Alike.eq_of_tight trivial h.lastCycle
  calls := by
    refine ⟨u.output.calls.toList, ?_, h.output.calls trivial⟩
    rw [fresh, List.nil_append]

end Tight

variable {given : Settings} {sounds : Repertoire} {recording : Bool} {seed : UInt64}
  {s : Session} {ds es : List Deed}

theorem Reachable.silent_connect (h : Reachable given sounds recording seed s) :
    s.connect.output.playing = .empty := by
  have connected : Reachable given sounds recording seed s.connect := h.act (d := .connect) rfl
  apply connected.silent
  intro a e found
  cases found

theorem Reachable.connect_alike (h : Reachable given sounds recording seed s) :
    s.connect.Alike ⟨s.connect.output.next, s.connect.output.calls.toList, True⟩
      (s.connect.anew given sounds seed) where
  settings := congrArg Settings.unmixed h.built.settings
  mixer _ := h.built.settings
  seed _ := h.seed
  repertoire := h.built.repertoire
  sweeps :=
    ⟨⟨h.built.biome.tier_eq.2, h.built.biome.tier_eq.1, rfl, rfl⟩,
      ⟨h.built.near.tier_eq.2, h.built.near.tier_eq.1, rfl, rfl⟩,
      ⟨h.built.far.tier_eq.2, h.built.far.tier_eq.1, rfl, rfl⟩⟩
  roof := congrArg (fun radius => Roof.mk radius 0) h.built.radius
  tick := rfl
  connected := rfl
  environment := rfl
  lastCycle := .none
  roster := by
    refine ⟨IdentMap.matches_empty, ?_⟩
    have fades := h.tidy.fades.roster
    rw [h.built.settings] at fades
    exact fades
  output := by
    -- The new output has handed out no voice and recorded no call: all there was is in the gap.
    constructor
    · exact (Nat.zero_add _).symm
    · rw [h.silent_connect]
      exact IdentMap.matches_empty
    · rfl
    · rfl
    · intro _
      exact (List.append_nil _).symm
    · exact (List.append_nil _).symm

/-- After connecting again a session reports, shows and plays what a new one does. -/
theorem reconnected_as_new
    (reached : (start given sounds (.silent recording) seed).after ds = some s)
    (free : ∀ d ∈ es, d.isFinish = false) :
    s.connect.reports es = (s.connect.anew given sounds seed).reports es ∧
      Option.Rel (Echoes s.connect (s.connect.anew given sounds seed)) (s.connect.after es)
        ((s.connect.anew given sounds seed).after es) := by
  have alike := (Reachable.of_start.after reached).connect_alike
  have runs := alike.after es
  rw [Deed.map_shift_of_free free] at runs
  refine ⟨alike.reports_eq trivial free, rel_mono runs ?_⟩
  intro t u same
  exact same.echoes rfl

theorem small_reconnected_as_new :
    let here := Observer.standing ⟨0, 64, 0⟩
    let es := [Deed.tick (plain 2) (some { here with raining := true, night := true }),
      .heal ⟨2⟩, .tick (plain 1) (some here), .tick (plain 1) none]
    ∃ s t u, (start smallSettings smallSounds (.silent true) 0).after (smallDeeds.take 4) = some s ∧
      s.connect.after es = some t ∧ (s.connect.anew smallSettings smallSounds 0).after es = some u ∧
      s.connect.output.next = 3 ∧ u.output.calls.size = 10 ∧
      s.connect.reports es = (s.connect.anew smallSettings smallSounds 0).reports es ∧
      Echoes s.connect (s.connect.anew smallSettings smallSounds 0) t u := by
  intro here es
  have sized : ((start smallSettings smallSounds (.silent true) 0).after (smallDeeds.take 4)).map
      (fun s => (s.connect.output.next, ((s.connect.anew smallSettings smallSounds 0).after es).map
        (·.output.calls.size))) = some (3, some 10) := by decide +kernel
  obtain ⟨s, reached, same⟩ := Option.map_eq_some_iff.mp sized
  obtain ⟨next, counted⟩ := Prod.mk.inj same
  obtain ⟨u, fresh, size⟩ := Option.map_eq_some_iff.mp counted
  have free : ∀ d ∈ es, d.isFinish = false := by decide
  obtain ⟨reports, echo⟩ := reconnected_as_new reached free
  rw [fresh] at echo
  generalize run : s.connect.after es = after at echo
  cases echo with
  | some echoes => exact ⟨s, _, u, reached, run, fresh, next, size, reports, echoes⟩

end Session

end AmbientSound
