import AmbientSound.Host.Options
import AmbientSound.Proofs.Number.Word
/-!
What a command line asks for. Its arguments fall into groups from the left, and each option is what
the groups of its own flag make of it: the last number, the last path, or whether the flag is there.
-/
namespace AmbientSound

namespace Argument

def takesValue (a : String) : Bool := (ValueFlag.ofText? a).isSome

def groups : List String → List (List String)
  | [] => []
  | [last] => [[last]]
  | first :: second :: rest =>
    if takesValue first then [first, second] :: groups rest else [first] :: groups (second :: rest)

inductive Complete : List String → Prop where
  | valued (flag : ValueFlag) (value : String) : Complete [flag.text, value]
  | lone (a : String) (alone : takesValue a = false) : Complete [a]

/-- Groups as they can come out of arguments: only the last may lack its value. -/
inductive Grouped : List (List String) → Prop where
  | nil : Grouped []
  | short (flag : ValueFlag) : Grouped [[flag.text]]
  | cons {g : List String} {gs : List (List String)} (complete : Complete g) (later : Grouped gs) :
      Grouped (g :: gs)

section Grouping

theorem flag_text_inj {f k : ValueFlag} (same : f.text = k.text) : f = k := by
  revert same
  cases f <;> cases k <;> decide

theorem ofText?_text (f : ValueFlag) : ValueFlag.ofText? f.text = some f := by
  cases f <;> decide

theorem text_of_ofText? {a : String} {f : ValueFlag} (found : ValueFlag.ofText? a = some f) :
    a = f.text := by
  have same := List.find?_some found
  exact (beq_iff_eq.mp same).symm

theorem takesValue_text (f : ValueFlag) : takesValue f.text = true := by
  rw [takesValue, ofText?_text]
  rfl

theorem exists_of_takesValue {a : String} (takes : takesValue a = true) :
    ∃ f : ValueFlag, a = f.text := by
  obtain ⟨f, found⟩ := Option.isSome_iff_exists.mp takes
  exact ⟨f, text_of_ofText? found⟩

theorem flatten_groups (args : List String) : (groups args).flatten = args := by
  fun_induction groups args with
  | case1 => rfl
  | case2 last => rfl
  | case3 first second rest takes ih => simp [ih]
  | case4 first second rest alone ih => simp [ih]

theorem grouped_groups (args : List String) : Grouped (groups args) := by
  fun_induction groups args with
  | case1 => exact .nil
  | case2 last =>
    cases takes : takesValue last with
    | true =>
      obtain ⟨f, rfl⟩ := exists_of_takesValue takes
      exact .short f
    | false => exact .cons (.lone last takes) .nil
  | case3 first second rest takes ih =>
    obtain ⟨f, rfl⟩ := exists_of_takesValue takes
    exact .cons (.valued f second) ih
  | case4 first second rest alone ih => exact .cons (.lone first (by simpa using alone)) ih

theorem Complete.groups_append {g : List String} (h : Complete g) (rest : List String) :
    groups (g ++ rest) = g :: groups rest := by
  cases h with
  | valued f value => simp [groups, takesValue_text]
  | lone a alone =>
    cases rest with
    | nil => rfl
    | cons next rest => simp [groups, alone]

theorem Grouped.groups_flatten {gs : List (List String)} (h : Grouped gs) :
    groups gs.flatten = gs := by
  induction h with
  | nil => rfl
  | short f => rfl
  | cons complete later ih => rw [List.flatten_cons, complete.groups_append, ih]

theorem Grouped.uncons {gs : List (List String)} {g : List String} (h : Grouped (g :: gs)) :
    gs = [] ∧ (∃ flag : ValueFlag, g = [flag.text]) ∨ Complete g ∧ Grouped gs := by
  cases h with
  | short flag => exact .inl ⟨rfl, flag, rfl⟩
  | cons complete later => exact .inr ⟨complete, later⟩

/-- What holds in front of every ending holds behind complete groups. -/
theorem Grouped.replace {before ending ending' : List (List String)}
    (h : Grouped (before ++ ending)) (some : ending ≠ [])
    (kept : Grouped ending → Grouped ending') : Grouped (before ++ ending') := by
  induction before with
  | nil => exact kept h
  | cons first before ih =>
    rcases h.uncons with ⟨none, -⟩ | ⟨complete, later⟩
    · exact absurd (List.append_eq_nil_iff.mp none).2 some
    · exact .cons complete (ih later)

theorem Grouped.tail {gs : List (List String)} {g : List String} (h : Grouped (g :: gs)) :
    Grouped gs := by
  rcases h.uncons with ⟨rfl, -⟩ | ⟨-, later⟩
  · exact .nil
  · exact later

theorem Grouped.drop {before after : List (List String)} {g : List String}
    (h : Grouped (before ++ g :: after)) : Grouped (before ++ after) :=
  h.replace (List.cons_ne_nil g after) Grouped.tail

theorem Grouped.swap {before after : List (List String)} {g k : List String}
    (h : Grouped (before ++ g :: k :: after)) (first : Complete g) (second : Complete k) :
    Grouped (before ++ k :: g :: after) :=
  h.replace (List.cons_ne_nil g _) fun ending => .cons second (.cons first ending.tail.tail)

end Grouping

def valueIn (flag : ValueFlag) : List String → Option String
  | [f, value] => if f = flag.text then some value else none
  | _ => none

def numberIn (flag : ValueFlag) (g : List String) : Option Nat :=
  (valueIn flag g).bind fun value => (Word.ofText value).toOption

theorem head?_of_valueIn {flag : ValueFlag} {g : List String} {value : String}
    (given : valueIn flag g = some value) : g.head? = some flag.text := by
  unfold valueIn at given
  split at given
  · obtain ⟨rfl, -⟩ := Option.ite_none_right_eq_some.mp given
    rfl
  · cases given

def lastPath (flag : ValueFlag) (gs : List (List String)) : Option String :=
  (gs.filterMap (valueIn flag)).getLast?

def lastNumber (flag : ValueFlag) (gs : List (List String)) : Option Nat :=
  (gs.filterMap (numberIn flag)).getLast?

end Argument

namespace Options

open Argument

def updated (o : Options) (gs : List (List String)) : Options where
  ticks := (lastNumber .ticks gs).or o.ticks
  config := (lastPath .config gs).or o.config
  library := (lastPath .library gs).or o.library
  trace := (lastPath .trace gs).or o.trace
  seed := (lastNumber .seed gs).getD o.seed
  assets := (lastPath .assets gs).getD o.assets
  reportEvery := (lastNumber .reportEvery gs).getD o.reportEvery
  writeConfig := (lastPath .writeConfig gs).or o.writeConfig
  noAudio := decide (["--no-audio"] ∈ gs) || o.noAudio
  help := decide (["--help"] ∈ gs ∨ ["-h"] ∈ gs) || o.help

end Options

namespace Argument

open Options

def ofGroup : List String → Argument
  | [a] => match ValueFlag.ofText? a with
    | some flag => .valued flag none
    | none => lone a
  | a :: value :: _ => match ValueFlag.ofText? a with
    | some flag => .valued flag (some value)
    | none => lone a
  | [] => .unknown ""

theorem split_eq_map_groups (args : List String) : split args = (groups args).map ofGroup := by
  fun_induction split args with
  | case1 => rfl
  | case2 last flag found => simp [groups, ofGroup, found]
  | case3 last alone => simp [groups, ofGroup, alone]
  | case4 first second rest flag found ih => simp [groups, takesValue, found, ofGroup, ih]
  | case5 first second rest alone ih => simp [groups, takesValue, alone, ofGroup, ih]

theorem getLast?_filterMap_cons {α β : Type} (f : α → Option β) (a : α) (as : List α) :
    ((a :: as).filterMap f).getLast? = ((as.filterMap f).getLast?).or (f a) := by
  cases found : f a with
  | none => rw [List.filterMap_cons_none found, Option.or_none]
  | some b => rw [List.filterMap_cons_some found, List.getLast?_cons, Option.or_some]

theorem lastPath_cons (flag : ValueFlag) (g : List String) (gs : List (List String)) :
    lastPath flag (g :: gs) = (lastPath flag gs).or (valueIn flag g) :=
  getLast?_filterMap_cons (valueIn flag) g gs

theorem lastNumber_cons (flag : ValueFlag) (g : List String) (gs : List (List String)) :
    lastNumber flag (g :: gs) = (lastNumber flag gs).or (numberIn flag g) :=
  getLast?_filterMap_cons (numberIn flag) g gs

theorem updated_nil (o : Options) : o.updated [] = o := by
  simp [updated, lastPath, lastNumber]

theorem updated_cons (o : Options) (g : List String) (gs : List (List String)) :
    o.updated (g :: gs) = (o.updated [g]).updated gs := by
  have path (flag : ValueFlag) : lastPath flag [g] = valueIn flag g := by
    rw [lastPath_cons]
    rfl
  have number (flag : ValueFlag) : lastNumber flag [g] = numberIn flag g := by
    rw [lastNumber_cons]
    rfl
  simp only [updated, lastPath_cons, lastNumber_cons, path, number, Option.or_assoc,
    Option.getD_or, Options.mk.injEq, true_and, List.mem_cons]
  constructor
  · cases o.noAudio <;> grind
  · cases o.help <;> grind

theorem updated_of_valued (o : Options) (flag : ValueFlag) (value : String) :
    o.updated [[flag.text, value]] = o.take (.valued flag (some value)) := by
  have read (f : ValueFlag) : valueIn f [flag.text, value] = if flag = f then some value else none :=
    if_congr ⟨flag_text_inj, congrArg _⟩ rfl rfl
  have number (f : ValueFlag) : numberIn f [flag.text, value] =
      if flag = f then (Word.ofText value).toOption else none := by
    rw [numberIn, read]
    split <;> rfl
  simp only [updated, lastPath_cons, lastNumber_cons, read, number]
  cases parsed : Word.ofText value <;> cases flag <;>
    simp [take, parsed, ValueFlag.isNumeric, lastPath, lastNumber, Except.toOption, setNumber,
      setPath]

theorem updated_of_single (o : Options) (a : String) : o.updated [[a]] =
    { o with
      noAudio := decide (a = "--no-audio") || o.noAudio
      help := decide (a = "--help" ∨ a = "-h") || o.help } := by
  have nothing (flag : ValueFlag) : valueIn flag [a] = none := rfl
  simp only [updated, lastPath_cons, lastNumber_cons, numberIn, nothing]
  simp [lastPath, lastNumber, eq_comm]

theorem updated_of_short (o : Options) (flag : ValueFlag) : o.updated [[flag.text]] = o := by
  rw [updated_of_single]
  cases flag <;> simp [ValueFlag.text]

theorem updated_of_lone (o : Options) (a : String) : o.updated [[a]] = o.take (lone a) := by
  rw [updated_of_single, lone]
  split
  · rename_i quiet
    simp [quiet, take]
  · rename_i loud
    split
    · rename_i help
      simp [loud, help, take]
    · rename_i mute
      simp [loud, mute, take]

theorem take_ofGroup {gs : List (List String)} {g : List String} (grouped : Grouped (g :: gs))
    (o : Options) : o.take (ofGroup g) = o.updated [g] := by
  rcases grouped.uncons with ⟨-, flag, rfl⟩ | ⟨complete, -⟩
  · rw [updated_of_short, ofGroup, ofText?_text]
    rfl
  · cases complete with
    | valued flag value => rw [updated_of_valued, ofGroup, ofText?_text]
    | lone a alone =>
      have unknown : ValueFlag.ofText? a = none := by simpa [takesValue] using alone
      rw [updated_of_lone, ofGroup, unknown]

theorem foldl_take_ofGroup {gs : List (List String)} (grouped : Grouped gs) (o : Options) :
    (gs.map ofGroup).foldl take o = o.updated gs := by
  induction gs generalizing o with
  | nil => exact (updated_nil o).symm
  | cons g gs ih =>
    rw [List.map_cons, List.foldl_cons, take_ofGroup grouped, ih grouped.tail, ← updated_cons]

theorem ofArguments_eq (args : List String) :
    ofArguments args = standard.updated (groups args) := by
  rw [ofArguments, split_eq_map_groups]
  exact foldl_take_ofGroup (grouped_groups args) standard

theorem ofArguments_flatten {gs : List (List String)} (grouped : Grouped gs) :
    ofArguments gs.flatten = standard.updated gs := by
  rw [ofArguments_eq, grouped.groups_flatten]

/-- A group that asks for nothing: a flag whose value should be a number and is none, or an argument
that is no flag. -/
inductive Idle : List String → Prop where
  | unreadable (flag : ValueFlag) (value : String) (numeric : flag.isNumeric = true)
      (fault : WordFault) (unread : Word.ofText value = .error fault) : Idle [flag.text, value]
  | unknown (a : String) (alone : takesValue a = false) (switch : a ≠ "--no-audio")
      (help : a ≠ "--help") (short : a ≠ "-h") : Idle [a]

theorem updated_idle {g : List String} (idle : Idle g) (o : Options) : o.updated [g] = o := by
  cases idle with
  | unreadable flag value numeric fault unread =>
    rw [updated_of_valued, take, if_pos numeric, unread]
  | unknown a alone switch help short => simp [updated_of_single, switch, help, short]

theorem updated_append (o : Options) (gs ks : List (List String)) :
    o.updated (gs ++ ks) = (o.updated gs).updated ks := by
  induction gs generalizing o with
  | nil => rw [updated_nil, List.nil_append]
  | cons g gs ih => rw [List.cons_append, updated_cons, ih, ← updated_cons]

theorem updated_drop (o : Options) {g : List String} (idle : Idle g)
    (before after : List (List String)) :
    o.updated (before ++ g :: after) = o.updated (before ++ after) := by
  rw [updated_append, updated_append, updated_cons, updated_idle idle]

/-- Groups of different flags do not touch the same option. -/
theorem updated_swap (o : Options) {g k : List String} (different : g.head? ≠ k.head?)
    (rest : List (List String)) : o.updated (g :: k :: rest) = o.updated (k :: g :: rest) := by
  have apart (flag : ValueFlag) : valueIn flag g = none ∨ valueIn flag k = none := by
    by_contra both
    rw [not_or] at both
    obtain ⟨value, given⟩ := Option.ne_none_iff_exists'.mp both.1
    obtain ⟨value', given'⟩ := Option.ne_none_iff_exists'.mp both.2
    exact different ((head?_of_valueIn given).trans (head?_of_valueIn given').symm)
  have path (flag : ValueFlag) :
      lastPath flag (g :: k :: rest) = lastPath flag (k :: g :: rest) := by
    simp only [lastPath_cons, Option.or_assoc]
    rcases apart flag with none | none <;> simp [none]
  have number (flag : ValueFlag) :
      lastNumber flag (g :: k :: rest) = lastNumber flag (k :: g :: rest) := by
    simp only [lastNumber_cons, numberIn, Option.or_assoc]
    rcases apart flag with none | none <;> simp [none]
  have mem (a : List String) : a ∈ g :: k :: rest ↔ a ∈ k :: g :: rest := by
    simp only [List.mem_cons]
    exact or_left_comm
  simp only [updated, path, number, mem]

/-- Each option is what the groups of its own flag make of it. So a group that asks for nothing can be
left out, and groups of different flags can change places. A value is a number if it is written in
digits, behind a plus sign or none, and fits a word. -/
theorem options_by_groups (args : List String) :
    (groups args).flatten = args ∧
    ofArguments args =
      { ticks := lastNumber .ticks (groups args)
        config := lastPath .config (groups args)
        library := lastPath .library (groups args)
        trace := lastPath .trace (groups args)
        seed := (lastNumber .seed (groups args)).getD 0
        assets := (lastPath .assets (groups args)).getD "assets"
        reportEvery := (lastNumber .reportEvery (groups args)).getD 0
        writeConfig := lastPath .writeConfig (groups args)
        noAudio := decide (["--no-audio"] ∈ groups args)
        help := decide (["--help"] ∈ groups args ∨ ["-h"] ∈ groups args) } ∧
    (∀ before g after, groups args = before ++ g :: after → Idle g →
      ofArguments (before ++ after).flatten = ofArguments args) ∧
    (∀ before g k after, groups args = before ++ g :: k :: after → Complete g → Complete k →
      g.head? ≠ k.head? → ofArguments (before ++ k :: g :: after).flatten = ofArguments args) ∧
    ∀ value n, Word.ofText value = .ok n ↔
      ∃ digits : List Char, (value.toList = digits ∨ value.toList = '+' :: digits) ∧ digits ≠ [] ∧
        (∀ c ∈ digits, c.isDigit = true) ∧ Word.decimal 0 digits = n ∧ n < 2 ^ 64 := by
  have grouped := grouped_groups args
  refine ⟨flatten_groups args, ?_, ?_, ?_, Word.ofText_eq_ok_iff⟩
  · rw [ofArguments_eq]
    simp [updated, standard]
  · intro before g after split idle
    rw [split] at grouped
    rw [ofArguments_flatten grouped.drop, ofArguments_eq, split, updated_drop standard idle]
  · intro before g k after split first second different
    rw [split] at grouped
    rw [ofArguments_flatten (grouped.swap first second), ofArguments_eq, split, updated_append,
      updated_append, updated_swap _ different]

def tangledArguments : List String :=
  ["--ticks", "40", "--config", "--seed", "--no-audio", "5", "--ticks", "-3", "--seed", "+7",
    "--trace"]

def tangledGroups : List (List String) :=
  [["--ticks", "40"], ["--config", "--seed"], ["--no-audio"], ["5"], ["--ticks", "-3"],
    ["--seed", "+7"], ["--trace"]]

theorem tangled_options_by_groups :
    groups tangledArguments = tangledGroups ∧
    ofArguments tangledArguments =
      { standard with ticks := some 40, config := some "--seed", seed := 7, noAudio := true } ∧
    (Idle ["--ticks", "-3"] ∧ ofArguments (tangledGroups.eraseIdx 4).flatten =
      ofArguments tangledArguments) ∧
    (Idle ["5"] ∧ ofArguments (tangledGroups.eraseIdx 3).flatten =
      ofArguments tangledArguments) ∧
    Complete ["--ticks", "40"] ∧ Complete ["--config", "--seed"] ∧
      ofArguments (["--config", "--seed"] :: ["--ticks", "40"] :: tangledGroups.drop 2).flatten =
        ofArguments tangledArguments := by
  obtain ⟨-, options, drop, swap, -⟩ := options_by_groups tangledArguments
  have grouped : groups tangledArguments = tangledGroups := by decide +kernel
  have unread : Idle ["--ticks", "-3"] := .unreadable .ticks "-3" rfl .invalidDigit (by decide +kernel)
  have unknown : Idle ["5"] := .unknown "5" (by decide) (by decide) (by decide) (by decide)
  have first : Complete ["--ticks", "40"] := .valued .ticks "40"
  have second : Complete ["--config", "--seed"] := .valued .config "--seed"
  refine ⟨grouped, ?_, ⟨unread, drop (tangledGroups.take 4) _ (tangledGroups.drop 5) grouped unread⟩,
    ⟨unknown, drop (tangledGroups.take 3) _ (tangledGroups.drop 4) grouped unknown⟩, first, second,
    swap [] _ _ (tangledGroups.drop 2) grouped first second (by decide)⟩
  rw [options, grouped]
  decide +kernel

end Argument

end AmbientSound
