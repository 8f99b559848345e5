import AmbientSound.Proofs.Session.Alike
/-!
Neither the mixer nor chance has a say in which emitters there are. Two sessions that differ only
in those start, fade and stop the same voices at the same time.
-/
namespace AmbientSound

def Emitter.muffled (e : Emitter) : Emitter := { e with volume := 0 }

theorem Call.shift_zero (c : Call) : c.shift 0 = c := by
  cases c <;> rfl

theorem Deed.shift_zero (d : Deed) : d.shift 0 = d := by
  cases d <;> rfl

theorem map_eq_of_forall₂ {α β γ : Type} {R : α → β → Prop} {f : α → γ} {g : β → γ} {xs : List α}
    {ys : List β} (h : List.Forall₂ R xs ys) (same : ∀ x y, R x y → f x = g y) :
    xs.map f = ys.map g := by
  have mapped : List.Forall₂ (· = ·) (xs.map f) (ys.map g) := List.rel_map same h
  rwa [List.forall₂_eq_eq_eq] at mapped

def Gap.loose : Gap := ⟨0, [], False⟩

theorem Emitter.Alike.muffled_eq {e f : Emitter} (h : e.Alike .loose f) : e.muffled = f.muffled := by
  have voice : e.voice = f.voice := h.voice
  simp only [muffled, h.acoustic, voice, h.throttle, h.phase, h.fadeTicks]

theorem CycleReport.map_unspotted_eq {g : Gap} {r q : Option CycleReport}
    (h : Option.Rel (CycleReport.Alike g) r q) : r.map unspotted = q.map unspotted := by
  cases h with
  | none => rfl
  | some alike => exact congrArg some alike.unspotted

namespace Session

/-- The same emitters in the same phases, with the same voices, brought about by the same calls.
Only volumes may differ, and spot sounds. -/
structure SameLifecycle (s t : Session) : Prop where
  fadeTicks : s.roster.fadeTicks = t.roster.fadeTicks
  emitters : s.roster.emitters.entries.map (fun e => (e.1, e.2.muffled)) =
    t.roster.emitters.entries.map (fun e => (e.1, e.2.muffled))
  playing : s.output.playing.entries.map (fun v => (v.1, v.2.acoustic)) =
    t.output.playing.entries.map (fun v => (v.1, v.2.acoustic))
  calls : s.output.calls.toList.filterMap Call.hushed? = t.output.calls.toList.filterMap Call.hushed?

theorem Alike.sameLifecycle {s t : Session} (h : s.Alike .loose t) : SameLifecycle s t where
  fadeTicks := h.roster.fadeTicks
  emitters := by
    apply map_eq_of_forall₂ h.roster.emitters
    rintro ⟨a, e⟩ ⟨b, f⟩ ⟨key, alike⟩
    exact Prod.ext key alike.muffled_eq
  playing := by
    apply map_eq_of_forall₂ h.output.playing
    rintro ⟨v, y⟩ ⟨w, z⟩ ⟨key, alike⟩
    exact Prod.ext key alike.acoustic
  calls := by
    have hushed := h.output.hushed
    have level : Call.shift Gap.loose.voices = id := funext Call.shift_zero
    rwa [level, List.map_id] at hushed

theorem start_alike (given : Settings) (master ambient : Float32) (muted : Bool)
    (sounds : Repertoire) (recording : Bool) (seed seed' : UInt64) :
    (start given sounds (.silent recording) seed).Alike .loose
      (start { given with master, ambient, muted } sounds (.silent recording) seed') where
  settings := rfl
  mixer := False.elim
  seed := False.elim
  repertoire := rfl
  sweeps := ⟨⟨rfl, rfl, rfl, rfl⟩, ⟨rfl, rfl, rfl, rfl⟩, ⟨rfl, rfl, rfl, rfl⟩⟩
  roof := rfl
  tick := rfl
  connected := rfl
  environment := rfl
  lastCycle := .none
  roster := ⟨IdentMap.matches_empty, rfl⟩
  output := ⟨rfl, IdentMap.matches_empty, rfl, rfl, False.elim, rfl⟩

/-- Sessions whose settings differ only in the mixer, and with seeds of their own, lead the same
life; and but for the spot sounds they report the same. -/
theorem lifecycle_independent (given : Settings) (master ambient : Float32) (muted : Bool)
    (sounds : Repertoire) (recording : Bool) (seed seed' : UInt64) (ds : List Deed) :
    let s := start given sounds (.silent recording) seed
    let t := start { given with master, ambient, muted } sounds (.silent recording) seed'
    Option.Rel SameLifecycle (s.after ds) (t.after ds) ∧
      (s.reports ds).map (Option.map CycleReport.unspotted) =
        (t.reports ds).map (Option.map CycleReport.unspotted) := by
  intro s t
  have alike : s.Alike .loose t :=
    start_alike given master ambient muted sounds recording seed seed'
  have runs := alike.after ds
  have reports := alike.reports ds
  have level : Deed.shift Gap.loose.voices = id := funext Deed.shift_zero
  rw [level, List.map_id] at runs reports
  refine ⟨rel_mono runs fun u v same => same.sameLifecycle, ?_⟩
  exact map_eq_of_forall₂ reports fun r q related => CycleReport.map_unspotted_eq related

end Session

end AmbientSound
