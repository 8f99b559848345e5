import AmbientSound.Mix.AreaLaw
import AmbientSound.Proofs.Number.Shares
/-!
What mixes are made of. A mix is made by setting and removing volumes, and whatever volumes those
were, the ones that it holds are numbers from zero to one.
-/
namespace AmbientSound

open Single (Share)

inductive Mix.Made : Mix → Prop where
  | empty : Made .empty
  | put {m : Mix} (a : AcousticId) (v : Float32) (made : Made m) : Made (m.put a v)
  | erase {m : Mix} (a : AcousticId) (made : Made m) : Made (m.erase a)

theorem Single.isNaN_of_isFinite {x : Float32} (finite : x.isFinite = true) : x.isNaN = false := by
  change x.toModel.unpack.isFinite = true at finite
  change x.toModel.unpack.isNaN = false
  revert finite
  cases x.toModel.unpack <;>
    simp [Float.Model.UnpackedFloat.isFinite, Float.Model.UnpackedFloat.isNaN]

theorem Mix.stored_share (v : Float32) : Share (stored v) := by
  unfold stored
  split
  · rename_i finite
    exact Single.clampUnit_share (Single.isNaN_of_isFinite finite)
  · exact Single.zero_share

namespace Mix.Made

variable {m m' : Mix} {sounds : Repertoire} {env : Environment} {law : AreaLaw}

theorem entries_share (h : m.Made) : ∀ e ∈ m.volumes.entries, Share e.2 := by
  induction h with
  | empty =>
    intro e mem
    cases mem
  | put a v made ih =>
    intro e mem
    rcases IdentMap.mem_insertEntry mem with rfl | old
    · exact stored_share v
    · exact ih e old
  | erase a made ih =>
    intro e mem
    exact ih e (List.mem_filter.mp mem).1

theorem ofList (es : List (AcousticId × Float32)) : (Mix.ofList es).Made := by
  have all (m : Mix) (h : m.Made) : (es.foldl (fun m e => m.put e.1 e.2) m).Made := by
    induction es generalizing m with
    | nil => exact h
    | cons e rest ih => exact ih _ (h.put e.1 e.2)
  exact all .empty .empty

theorem putAll (v : Float32) (as : List AcousticId) (h : m.Made) : (m.putAll v as).Made := by
  induction as generalizing m with
  | nil => exact h
  | cons a rest ih => exact ih (h.put a v)

theorem addRegion {total : Nat} {e : RegionId × Nat} (h : m.Made)
    (added : law.addRegion sounds env total m e = some m') : m'.Made := by
  obtain ⟨v, -, rest⟩ := Option.bind_eq_some_iff.mp added
  split at rest
  · obtain rfl := Option.some.inj rest
    exact h
  · obtain rfl := Option.some.inj rest
    exact h.putAll v _

theorem foldlM {α : Type} {f : Mix → α → Option Mix}
    (one : ∀ m x m', m.Made → f m x = some m' → m'.Made) {xs : List α} (h : m.Made) (run : xs.foldlM f m = some m') : m'.Made := by
  induction xs generalizing m with
  | nil =>
    obtain rfl := Option.some.inj run
    exact h
  | cons x rest ih =>
    rw [List.foldlM_cons] at run
    obtain ⟨next, first, later⟩ := Option.bind_eq_some_iff.mp run
    exact ih (one m x next h first) later

theorem accumulate {t : Tally} (h : m.Made) (run : law.accumulate sounds env m t = some m') :
    m'.Made := by
  unfold AreaLaw.accumulate at run
  split at run
  · obtain rfl := Option.some.inj run
    exact h
  · exact foldlM (fun _ _ _ made added => made.addRegion added) h run

theorem aggregate {ts : List Tally} (run : law.aggregate sounds env ts = some m) : m.Made :=
  foldlM (fun _ _ _ made added => made.accumulate added) .empty run

end Mix.Made

end AmbientSound
