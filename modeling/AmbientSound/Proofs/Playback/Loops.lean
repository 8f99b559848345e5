import AmbientSound.Playback.Roster
import AmbientSound.Proofs.Lookup
/-!
The two loops of a reconciliation at a glance. The first one takes from the mix what is wanted of the
emitters there are, so that the second finds the newcomers, and no emitter is met twice.
-/
namespace AmbientSound

namespace Roster

def adjust (m : Mix) (a : AcousticId) (e : Emitter) : Emitter :=
  match m.get? a with
  | some v => if 0 < v then (e.setThrottle v).unfade else e.fade
  | none => e.fade

def newcomers (live : IdentMap .acoustic Emitter) (m : Mix) : List (AcousticId × Float32) :=
  m.toList.filter fun e => !live.contains e.1 && decide (¬ e.2 ≤ 0)

def enter (fadeTicks : Nat) (state : IdentMap .acoustic Emitter × Output)
    (e : AcousticId × Float32) : IdentMap .acoustic Emitter × Output :=
  let (emitter, output) := Emitter.start e.1 e.2 fadeTicks state.2
  (state.1.insert e.1 emitter, output)

section Tending

variable {a : AcousticId} {e : Emitter} {m : Mix} {done : Summary}

theorem unfade_of_not_fading (still : e.isFading = false) : e.unfade = e := by
  unfold Emitter.unfade
  cases phase : e.phase <;> simp_all [Emitter.isFading]

theorem fade_of_fading (fading : e.isFading = true) : e.fade = e := by
  unfold Emitter.fade
  cases phase : e.phase <;> simp_all [Emitter.isFading]

theorem tend_eq (a : AcousticId) (e : Emitter) (m : Mix) (done : Summary) :
    tend a e m done = (adjust m a e, m.erase a,
      { done with
        continued := done.continued + (m.wants a).toNat
        unfaded := done.unfaded + (m.wants a && e.isFading).toNat
        faded := done.faded + (!m.wants a && !e.isFading).toNat }) := by
  have same (v : Float32) : (e.setThrottle v).isFading = e.isFading := rfl
  unfold tend adjust Mix.wants
  cases found : m.get? a with
  | none => cases fading : e.isFading <;> simp [fading, fade_of_fading]
  | some v =>
    by_cases loud : 0 < v
    · cases fading : e.isFading with
      | false =>
        have still := unfade_of_not_fading ((same v).trans fading)
        simp [Option.filter_some, loud, same, fading, still]
      | true => simp [Option.filter_some, loud, same, fading]
    · cases fading : e.isFading <;> simp [Option.filter_some, loud, fading, fade_of_fading]

/-- As the keys differ, what is taken for one emitter leaves all others theirs. -/
theorem tendAll_eq (es : List (AcousticId × Emitter)) (m : Mix) (done : Summary)
    (distinct : es.Pairwise fun a b => a.1 ≠ b.1) :
    tendAll es m done = (es.map fun e => (e.1, adjust m e.1 e.2), es.foldl (fun m e => m.erase e.1) m,
      { done with
        continued := done.continued + es.countP fun e => m.wants e.1
        unfaded := done.unfaded + es.countP fun e => m.wants e.1 && e.2.isFading
        faded := done.faded + es.countP fun e => !m.wants e.1 && !e.2.isFading }) := by
  induction es generalizing m done with
  | nil => rfl
  | cons first rest ih =>
    obtain ⟨others, tail⟩ := List.pairwise_cons.mp distinct
    have kept {e : AcousticId × Emitter} (mem : e ∈ rest) :
        (m.erase first.1).get? e.1 = m.get? e.1 := by
      have other : (e.1 != first.1) = true := by simpa using (others e mem).symm
      change (m.volumes.filter fun b _ => b != first.1).get? e.1 = m.volumes.get? e.1
      rw [IdentMap.get?_filter]
      simp only [other]
      cases m.volumes.get? e.1 <;> rfl
    have adjusted : (rest.map fun e => (e.1, adjust (m.erase first.1) e.1 e.2)) =
        rest.map fun e => (e.1, adjust m e.1 e.2) := by
      apply List.map_congr_left
      intro e mem
      rw [adjust, adjust, kept mem]
    have wants {e : AcousticId × Emitter} (mem : e ∈ rest) :
        (m.erase first.1).wants e.1 = m.wants e.1 := by
      rw [Mix.wants, Mix.wants, kept mem]
    have counted (p : Bool → Emitter → Bool) :
        (rest.countP fun e => p ((m.erase first.1).wants e.1) e.2) =
          rest.countP fun e => p (m.wants e.1) e.2 := by
      apply List.countP_congr
      intro e mem
      rw [wants mem]
    have continued := counted fun wanted _ => wanted
    have unfaded := counted fun wanted e => wanted && e.isFading
    have faded := counted fun wanted e => !wanted && !e.isFading
    have sum (b : Bool) (n k : Nat) : n + b.toNat + k = n + (k + if b = true then 1 else 0) := by
      cases b <;> simp [Nat.add_comm, Nat.add_left_comm]
    simp only [tendAll, tend_eq, ih _ _ tail, adjusted, continued, unfaded, faded, sum,
      List.map_cons, List.foldl_cons, List.countP_cons]

theorem toList_eraseAll (es : List (AcousticId × Emitter)) (m : Mix) :
    (es.foldl (fun m e => m.erase e.1) m).toList =
      m.toList.filter fun n => !es.any fun e => e.1 == n.1 := by
  induction es generalizing m with
  | nil => exact (List.filter_eq_self.mpr fun _ _ => rfl).symm
  | cons first rest ih =>
    rw [List.foldl_cons, ih]
    have erased : (m.erase first.1).toList = m.toList.filter fun n => n.1 != first.1 := rfl
    rw [erased, List.filter_filter]
    apply List.filter_congr
    intro n _
    rw [List.any_cons, Bool.not_or, Bool.and_comm, bne, Bool.beq_comm]

end Tending

theorem foldl_startLeft_eq (left : List (AcousticId × Float32)) (r : Reconciliation) :
    left.foldl startLeft r =
      let fresh := left.filter fun n => decide (¬ n.2 ≤ 0)
      let entered := fresh.foldl (enter r.roster.fadeTicks) (r.roster.emitters, r.output)
      { roster := ⟨entered.1, r.roster.fadeTicks⟩
        output := entered.2
        summary := { r.summary with started := r.summary.started + fresh.length }
        newcomers := r.newcomers ++ fresh } := by
  induction left generalizing r with
  | nil => simp
  | cons n left ih =>
    rw [List.foldl_cons, ih]
    by_cases silent : n.2 ≤ 0
    · simp [startLeft, silent]
    · simp [startLeft, silent, enter]
      omega

/-- A reconciliation in one go. The two loops come to this. -/
def reconciled (r : Roster) (m : Mix) (o : Output) : Reconciliation :=
  let live := r.live
  let fresh := newcomers live m
  let (emitters, output) := fresh.foldl (enter r.fadeTicks) (live.map (adjust m), o)
  { roster := ⟨emitters, r.fadeTicks⟩
    output := output
    summary :=
      { started := fresh.length
        continued := live.entries.countP fun e => m.wants e.1
        unfaded := live.entries.countP fun e => m.wants e.1 && e.2.isFading
        faded := live.entries.countP fun e => !m.wants e.1 && !e.2.isFading
        reaped := r.size - live.size }
    newcomers := fresh }

theorem live_distinct (r : Roster) : r.live.entries.Pairwise fun a b => a.1 ≠ b.1 := by
  refine r.live.ascending.imp ?_
  intro a b before same
  rw [same] at before
  exact Nat.lt_irrefl _ before

theorem tendLive_roster (r : Roster) (m : Mix) (o : Output) :
    (r.tendLive m o).1.roster = ⟨r.live.map (adjust m), r.fadeTicks⟩ := by
  simp only [tendLive, tendAll_eq _ _ _ r.live_distinct]
  rfl

theorem tendLive_left (r : Roster) (m : Mix) (o : Output) :
    (r.tendLive m o).2.toList = m.toList.filter fun n => !r.live.contains n.1 := by
  simp only [tendLive, tendAll_eq _ _ _ r.live_distinct, toList_eraseAll]
  apply List.filter_congr
  intro n _
  have there : (r.live.entries.any fun e => e.1 == n.1) = r.live.contains n.1 := by
    rw [Bool.eq_iff_iff, List.any_eq_true, IdentMap.contains_iff]
    constructor
    · rintro ⟨e, mem, same⟩
      rw [← eq_of_beq same]
      exact ⟨e.2, mem⟩
    · rintro ⟨v, mem⟩
      exact ⟨(n.1, v), mem, beq_self_eq_true n.1⟩
  rw [there]

theorem reconcile_eq (r : Roster) (m : Mix) (o : Output) :
    r.reconcile m o = r.reconciled m o := by
  have fresh : ((r.tendLive m o).2.toList.filter fun n => decide (¬ n.2 ≤ 0)) =
      newcomers r.live m := by
    rw [tendLive_left, List.filter_filter, newcomers]
    apply List.filter_congr
    intro n _
    rw [Bool.and_comm]
  simp only [reconcile, foldl_startLeft_eq, fresh, tendLive_roster]
  simp only [tendLive, tendAll_eq _ _ _ r.live_distinct]
  simp [reconciled, Summary.nothing]

theorem reconcile_empty (r : Roster) (o : Output) :
    (r.reconcile .empty o).newcomers = [] ∧ (r.reconcile .empty o).output = o := by
  rw [reconcile_eq]
  exact ⟨rfl, rfl⟩

theorem reconcile_newcomers (r : Roster) (m : Mix) (o : Output) :
    (r.reconcile m o).newcomers = newcomers r.live m := by
  rw [reconcile_eq]
  rfl

end Roster

end AmbientSound
