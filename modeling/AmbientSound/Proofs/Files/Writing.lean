import Mathlib
import AmbientSound.Files.Disk
/-!
What is written to a path is read from it again. A file put where no directory is does not stand in
the way of any path that led somewhere before, so the path still leads to it.
-/
namespace AmbientSound

namespace FileTree

section Writing

variable {t u : FileTree} {path content : String} {here p q : List String} {e : FileEntry}

theorem find?_put (t : FileTree) (e : FileEntry) (some_ : p ≠ []) : (t.put p e).find? p = some e := by
  cases p with
  | nil => exact absurd rfl some_
  | cons name rest => simp [find?, put]

theorem look_put_ne (other : q ≠ p) : (t.put p e).look q = t.look q := by
  have found : (t.put p e).find? q = t.find? q := by
    cases q with
    | nil => rfl
    | cons name rest =>
      have differs : (name :: rest == p) = false := beq_eq_false_iff_ne.mpr other
      simp only [find?, put, List.lookup_cons, differs]
  simp only [look, found]

theorem descend_eq_ok_iff {name : String} : t.descend here name = .ok q ↔
    t.look (toward here name) = .ok .directory ∧ q = toward here name := by
  unfold descend
  split
  · rename_i found
    simp [found, eq_comm]
  · rename_i e other found
    simp only [found, reduceCtorEq, Except.ok.injEq, false_iff, not_and]
    exact fun same => absurd same other
  · rename_i fault found
    simp [found]

theorem locate_put (free : t.look p ≠ .ok .directory) {names : List String}
    (h : t.locate here names = .ok q) : (t.put p e).locate here names = .ok q := by
  induction names generalizing here with
  | nil => exact h
  | cons name rest ih =>
    cases rest with
    | nil => exact h
    | cons next rest =>
      obtain ⟨below, down, later⟩ : ∃ below, t.descend here name = .ok below ∧
          t.locate below (next :: rest) = .ok q := by
        change (t.descend here name >>= fun below => t.locate below (next :: rest)) = .ok q at h
        cases down : t.descend here name with
        | error fault =>
          rw [down] at h
          cases h
        | ok below =>
          rw [down] at h
          exact ⟨below, rfl, h⟩
      obtain ⟨directory, rfl⟩ := descend_eq_ok_iff.mp down
      have other : toward here name ≠ p := by
        rintro rfl
        exact free directory
      have still : (t.put p e).descend here name = .ok (toward here name) :=
        descend_eq_ok_iff.mpr ⟨(look_put_ne other).trans directory, rfl⟩
      change ((t.put p e).descend here name >>= fun below =>
        (t.put p e).locate below (next :: rest)) = .ok q
      rw [still]
      exact ih later

theorem resolve_put (free : t.look p ≠ .ok .directory) (h : t.resolve path = .ok q) :
    (t.put p e).resolve path = .ok q := by
  unfold resolve at h ⊢
  split_ifs at h ⊢
  all_goals exact locate_put free h

/-- Whether a path leads to a file that keeps nothing of what is written to it. -/
def Discards (t : FileTree) (path : String) : Prop :=
  ∃ place, t.resolve path = .ok place ∧ t.look place = .ok .void

theorem names_short (found : t.look p ≠ .error .nameTooLong) :
    ∀ name ∈ p, name.utf8ByteSize ≤ nameLimit := by
  intro name mem
  by_contra long
  have any : (p.any fun name => nameLimit < name.utf8ByteSize) = true :=
    List.any_eq_true.mpr ⟨name, mem, by simpa using long⟩
  rw [look, if_pos any] at found
  exact found rfl

theorem write_cases (h : t.write path content = .ok u) :
    PathText.endsInSlash path = false ∧ ∃ place, t.resolve path = .ok place ∧
      (t.look place = .ok .void ∧ u = t ∨ t.look place ≠ .ok .directory ∧
        t.look place ≠ .error .nameTooLong ∧ place ≠ [] ∧ u = t.put place (.text content)) := by
  unfold write at h
  cases resolved : t.resolve path with
  | error fault =>
    rw [resolved] at h
    cases h
  | ok place =>
    simp only [resolved, bind, Except.bind] at h
    cases slash : PathText.endsInSlash path with
    | true =>
      rw [slash] at h
      cases h
    | false =>
      rw [slash] at h
      have below (other : t.look place ≠ .ok .directory) : place ≠ [] := by
        rintro rfl
        exact other rfl
      refine ⟨rfl, place, rfl, ?_⟩
      cases found : t.look place with
      | ok e =>
        rw [found] at h below
        cases e with
        | directory => cases h
        | void =>
          obtain rfl := Except.ok.inj h
          exact .inl ⟨rfl, rfl⟩
        | _ =>
          obtain rfl := Except.ok.inj h
          exact .inr ⟨by simp, by simp, below (by simp), rfl⟩
      | error fault =>
        rw [found] at h below
        cases fault with
        | missing =>
          obtain rfl := Except.ok.inj h
          exact .inr ⟨by simp, by simp, below (by simp), rfl⟩
        | _ => cases h

theorem look_put_self (seen : t.look p ≠ .error .nameTooLong) (some_ : p ≠ []) :
    (t.put p e).look p = .ok e := by
  have fits : (p.any fun name => nameLimit < name.utf8ByteSize) = false := by
    rw [List.any_eq_false]
    intro name mem
    simpa using names_short seen name mem
  rw [look, fits, find?_put t e some_]
  rfl

/-- A path that was written to has what was written, unless it leads to a file that keeps nothing: then
nothing has changed. -/
theorem read_write (h : t.write path content = .ok u) :
    u.read path = .ok content ∨ t.Discards path ∧ u = t := by
  obtain ⟨slash, place, resolved, ⟨void, rfl⟩ | ⟨free, seen, some_, rfl⟩⟩ := write_cases h
  · exact .inr ⟨⟨place, resolved, void⟩, rfl⟩
  · left
    rw [read, resolve_put free resolved]
    change ((t.put place (.text content)).look place >>= _) = _
    rw [look_put_self seen some_, slash]
    rfl

theorem write_again (h : t.write path content = .ok u) (other : String) :
    ∃ v, u.write path other = .ok v := by
  obtain ⟨slash, place, resolved, ⟨void, rfl⟩ | ⟨free, seen, some_, rfl⟩⟩ := write_cases h
  · refine ⟨u, ?_⟩
    simp only [write, resolved, slash, void, bind, Except.bind]
    rfl
  · refine ⟨(t.put place (.text content)).put place (.text other), ?_⟩
    simp only [write, resolve_put free resolved, slash, look_put_self seen some_, bind, Except.bind]
    rfl

end Writing

section Directories

variable {t u v : FileTree} {path content : String} {here place : List String}
  {name : String} {names : List String} {made : Bool}

def Within (t u : FileTree) : Prop := ∀ p, t.look p = .ok .directory → u.look p = .ok .directory

theorem within_put_directory (t : FileTree) (place : List String) :
    t.Within (t.put place .directory) := by
  intro p found
  by_cases same : p = place
  · subst same
    by_cases top : p = []
    · subst top
      rfl
    · exact look_put_self (by simp [found]) top
  · rw [look_put_ne same, found]

theorem within_put_free {e : FileEntry} (free : t.look place ≠ .ok .directory) :
    t.Within (t.put place e) := by
  intro p found
  have other : p ≠ place := by
    rintro rfl
    exact free found
  rw [look_put_ne other, found]

theorem within_write (h : t.write path content = .ok u) : t.Within u := by
  obtain ⟨-, place, -, ⟨-, rfl⟩ | ⟨free, -, -, rfl⟩⟩ := write_cases h
  · exact fun _ found => found
  · exact within_put_free free

theorem makeDirectories_cons (h : t.makeDirectories made here (name :: names) = .ok u) :
    ∃ t' made', t'.makeDirectories made' (toward here name) names = .ok u ∧ t.Within t' ∧
      t'.look (toward here name) = .ok .directory := by
  rw [makeDirectories] at h
  split at h
  · rename_i next down
    obtain ⟨directory, rfl⟩ := descend_eq_ok_iff.mp down
    exact ⟨t, made, h, fun _ found => found, directory⟩
  · rename_i missing
    have absent : t.look (toward here name) = .error .missing := by
      unfold descend at missing
      split at missing
      · cases missing
      · cases missing
      · rename_i fault found
        obtain rfl := Except.error.inj missing
        exact found
    have some_ : toward here name ≠ [] := by
      intro top
      rw [top] at absent
      cases absent
    exact ⟨_, _, h, within_put_directory t _, look_put_self (by simp [absent]) some_⟩
  · cases h
  · cases h

theorem within_makeDirectories (h : t.makeDirectories made here names = .ok u) : t.Within u := by
  induction names generalizing t made here with
  | nil =>
    obtain rfl := Except.ok.inj h
    exact fun _ found => found
  | cons name names ih =>
    obtain ⟨t', made', later, more, -⟩ := makeDirectories_cons h
    exact fun p found => ih later p (more p found)

/-- Directories that were made are found again, also in a larger tree. -/
theorem makeDirectories_again (h : t.makeDirectories made here names = .ok u) (larger : u.Within v)
    (again : Bool) : v.makeDirectories again here names = .ok v := by
  induction names generalizing t made here again with
  | nil => rfl
  | cons name names ih =>
    obtain ⟨t', made', later, -, directory⟩ := makeDirectories_cons h
    have down : v.descend here name = .ok (toward here name) :=
      descend_eq_ok_iff.mpr ⟨larger _ (within_makeDirectories later _ directory), rfl⟩
    rw [makeDirectories, down]
    exact ih later again

theorem makeRoom_again (h : t.makeRoom path = .ok u) (larger : u.Within v) :
    v.makeRoom path = .ok v := by
  unfold makeRoom makeDirectory at h ⊢
  split_ifs at h ⊢
  all_goals exact makeDirectories_again h larger false

end Directories

section Home

theorem makeRoom_home : bare.makeRoom "t" = .ok bare := by
  have above : PathText.above "t" = "" := by cbv
  have nowhere : PathText.steps "" = [] := by cbv
  simp only [makeRoom, above, makeDirectory, nowhere]
  rfl

theorem resolve_home (t : FileTree) : t.resolve "t" = .ok ["", "", "t"] := by
  have steps : PathText.steps "t" = ["t"] := by cbv
  simp only [resolve, steps]
  rfl

theorem write_home (content : String) :
    bare.write "t" content = .ok (bare.put ["", "", "t"] (.text content)) := by
  simp only [write, resolve_home]
  rfl

theorem kept_home (t : FileTree) (content : String) :
    ¬ (t.put ["", "", "t"] (.text content)).Discards "t" := by
  rintro ⟨place, resolved, void⟩
  obtain rfl := Except.ok.inj ((resolve_home _).symm.trans resolved)
  cases void

end Home

end FileTree

end AmbientSound
