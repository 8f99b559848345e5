import AmbientSound.Document.Toml.Table
import AmbientSound.Proofs.Document.TomlScalars
/-!
Sections of TOML as they are written: headers of bare keys and assignments to them, one to a line. A
text of such sections is read as the statements that its lines are.
-/
namespace AmbientSound.Toml

structure Bare (key : String) : Prop where
  some_ : key.toList ≠ []
  chars : ∀ c ∈ key.toList, isBareKeyChar c = true

instance (key : String) : Decidable (Bare key) :=
  decidable_of_iff (key.toList.isEmpty = false ∧ key.toList.all isBareKeyChar = true)
    ⟨fun h => ⟨List.isEmpty_eq_false_iff.mp h.1, List.all_eq_true.mp h.2⟩,
      fun h => ⟨List.isEmpty_eq_false_iff.mpr h.some_, List.all_eq_true.mpr h.chars⟩⟩

/-- Neither a blank nor the start of a comment or of the end of a line. -/
def Solid (c : Char) : Prop := isTabOrSpace c = false ∧ c ≠ '#' ∧ c ≠ '\n' ∧ c ≠ '\r'

section Keys

variable {key : String} {c : Char} {cs rest : List Char}

theorem skipSpace_solid (h : isTabOrSpace c = false) : skipSpace (c :: cs) = c :: cs :=
  List.dropWhile_cons_of_neg (by simp [h])

theorem Bare.head (h : Bare key) : ∃ c more, key.toList = c :: more ∧ isBareKeyChar c = true := by
  cases same : key.toList with
  | nil => exact absurd same h.some_
  | cons c more =>
    refine ⟨c, more, rfl, h.chars c ?_⟩
    rw [same]
    exact List.mem_cons_self

theorem bare_ne {c d : Char} (h : isBareKeyChar c = true) (other : isBareKeyChar d = false) : c ≠ d := by
  rintro rfl
  rw [h] at other
  cases other

theorem bare_solid (h : isBareKeyChar c = true) : Solid c := by
  refine ⟨?_, bare_ne h (by decide), bare_ne h (by decide), bare_ne h (by decide)⟩
  rw [isTabOrSpace, Bool.or_eq_false_iff, beq_eq_false_iff_ne, beq_eq_false_iff_ne]
  exact ⟨bare_ne h (by decide), bare_ne h (by decide)⟩

theorem scanKeyPart_bare (h : Bare key) {d : Char} (stop : isBareKeyChar d = false) :
    scanKeyPart (key.toList ++ d :: rest) = some (key, d :: rest) := by
  have front : (key.toList ++ d :: rest).takeWhile isBareKeyChar = key.toList := by
    rw [List.takeWhile_append_of_pos h.chars, List.takeWhile_cons_of_neg (by simp [stop]),
      List.append_nil]
  have back : (key.toList ++ d :: rest).dropWhile isBareKeyChar = d :: rest := by
    rw [List.dropWhile_append_of_pos h.chars, List.dropWhile_cons_of_neg (by simp [stop])]
  obtain ⟨c, more, same, bare⟩ := h.head
  unfold scanKeyPart
  split
  · rename_i quoted
    rw [same, List.cons_append] at quoted
    exact absurd (List.cons.inj quoted).1 (bare_ne bare (by decide))
  · rename_i quoted
    rw [same, List.cons_append] at quoted
    exact absurd (List.cons.inj quoted).1 (bare_ne bare (by decide))
  · rw [front, back, same]
    simp only [← same, String.ofList_toList]

theorem scanKeyFuel_path {path : List String} (some_ : path ≠ []) (bare : ∀ k ∈ path, Bare k)
    {d : Char} (stop : isBareKeyChar d = false) (solid : isTabOrSpace d = false) (point : d ≠ '.')
    {fuel : Nat} (enough : path.length ≤ fuel) :
    scanKeyFuel fuel ((".".intercalate path).toList ++ d :: rest) = some (path, d :: rest) := by
  induction path generalizing fuel with
  | nil => exact absurd rfl some_
  | cons key path ih =>
    obtain ⟨here, others⟩ := List.forall_mem_cons.mp bare
    obtain ⟨c, more, same, lead⟩ := here.head
    obtain ⟨fuel, rfl⟩ : ∃ n, fuel = n + 1 := ⟨fuel - 1, by simp at enough; omega⟩
    have skipped (e : Char) (tail : List Char) :
        skipSpace (key.toList ++ e :: tail) = key.toList ++ e :: tail := by
      rw [same, List.cons_append, skipSpace_solid (bare_solid lead).1]
    cases path with
    | nil =>
      rw [String.intercalate_singleton, scanKeyFuel, skipped, scanKeyPart_bare here stop]
      simp only [bind, Option.bind_some, skipSpace_solid solid]
      split
      · rename_i pointed
        exact absurd (List.cons.inj pointed).1 point
      · rfl
    | cons next path =>
      have split : (".".intercalate (key :: next :: path)).toList ++ d :: rest =
          key.toList ++ '.' :: ((".".intercalate (next :: path)).toList ++ d :: rest) := by
        rw [String.intercalate_cons_cons, String.toList_append, String.toList_append]
        simp
      have later : scanKeyFuel fuel ((".".intercalate (next :: path)).toList ++ d :: rest) =
          some (next :: path, d :: rest) := ih (by simp) others (by simpa using enough)
      rw [split, scanKeyFuel, skipped, scanKeyPart_bare here (by decide)]
      change (scanKeyFuel fuel ((".".intercalate (next :: path)).toList ++ d :: rest) >>= _) = _
      rw [later]
      rfl

theorem path_head {path : List String} (some_ : path ≠ []) (bare : ∀ k ∈ path, Bare k) :
    ∃ c more, (".".intercalate path).toList = c :: more ∧ isBareKeyChar c = true := by
  cases path with
  | nil => exact absurd rfl some_
  | cons key path =>
    obtain ⟨c, more, same, starts⟩ := (bare key (by simp)).head
    cases path with
    | nil => exact ⟨c, more, by rw [String.intercalate_singleton, same], starts⟩
    | cons next path =>
      refine ⟨c, more ++ ("." ++ ".".intercalate (next :: path)).toList, ?_, starts⟩
      rw [String.intercalate_cons_cons, String.append_assoc, String.toList_append, same]
      rfl

theorem scanKey_assigned (h : Bare key) :
    scanKey (key.toList ++ ' ' :: '=' :: rest) = some ([key], '=' :: rest) := by
  obtain ⟨c, more, same, bare⟩ := h.head
  have part : scanKeyPart (key.toList ++ ' ' :: '=' :: rest) = some (key, ' ' :: '=' :: rest) :=
    scanKeyPart_bare h (by decide)
  have skipped : skipSpace (key.toList ++ ' ' :: '=' :: rest) = key.toList ++ ' ' :: '=' :: rest := by
    rw [same, List.cons_append, skipSpace_solid (bare_solid bare).1]
  rw [scanKey, depthLimit, scanKeyFuel, skipped, part]
  rfl

end Keys

section Values

variable {c : Char} {cs rest : List Char} {text : String} {d : Datum} {levels : Nat}

theorem scalar_solid (h : c.isAlphanum = true ∨ c = '-') : Solid c ∧ c ≠ '[' ∧ c ≠ '\x7b' ∧ c ≠ ']' := by
  rcases h with letter | rfl
  · have ne {d : Char} (other : d.isAlphanum = false) : c ≠ d := by
      rintro rfl
      rw [letter] at other
      cases other
    refine ⟨⟨?_, ne rfl, ne rfl, ne rfl⟩, ne rfl, ne rfl, ne rfl⟩
    rw [isTabOrSpace, Bool.or_eq_false_iff, beq_eq_false_iff_ne, beq_eq_false_iff_ne]
    exact ⟨ne rfl, ne rfl⟩
  · exact ⟨⟨rfl, by decide, by decide, by decide⟩, by decide, by decide, by decide⟩

theorem lineEnd?_solid (h : Solid c) : lineEnd? (c :: cs) = none := by
  obtain ⟨-, -, line, carriage⟩ := h
  unfold lineEnd?
  split
  · rename_i same
    exact absurd (List.cons.inj same).1 line
  · rename_i same
    exact absurd (List.cons.inj same).1 carriage
  · rfl

theorem skipFiller_solid (h : Solid c) (fuel : Nat) : skipFiller fuel (c :: cs) = c :: cs := by
  cases fuel with
  | zero => rfl
  | succ fuel =>
    rw [skipFiller, skipSpace_solid h.1]
    split
    · rename_i same
      exact absurd (List.cons.inj same).1 h.2.1
    · rw [lineEnd?_solid h]

theorem Reads.value (h : Reads text d) (ended : Ended rest) :
    scanValue levels (text.toList ++ rest) = some (.scalar d, rest) := by
  obtain ⟨c, more, same, starts⟩ := h.head
  obtain ⟨-, list, brace, -⟩ := scalar_solid starts
  have scanned := h.scan rest ended
  rw [same, List.cons_append] at scanned ⊢
  unfold scanValue
  split
  · rename_i opens
    exact absurd (List.cons.inj opens).1 list
  · rename_i opens
    exact absurd (List.cons.inj opens).1 brace
  · rw [scanned]
    rfl

def kept : Datum → Datum
  | .single x => .double (Single.toDouble x)
  | d => d

theorem skipFiller_item (h : Solid c) (fuel : Nat) :
    skipFiller (fuel + 2) ('\n' :: ' ' :: ' ' :: ' ' :: ' ' :: c :: cs) = c :: cs :=
  skipFiller_solid h (fuel + 1)

theorem comma_solid : Solid ',' := ⟨rfl, by decide, by decide, by decide⟩

theorem bracket_solid : Solid ']' := ⟨rfl, by decide, by decide, by decide⟩

/-- The items of a list with a line for each are read up to the closing bracket. -/
theorem scanItems_lines {items : List Datum} (reads : ∀ d ∈ items, Reads (scalarText d) (kept d))
    (done : List Value) {fuel : Nat} (enough : items.length < fuel) :
    scanItems (scanValue levels) fuel ('\n' ::
      ((String.join (items.map fun d => "    " ++ scalarText d ++ ",\n")).toList ++ ']' :: rest)) done =
      some (done.reverse ++ items.map (.scalar <| kept ·), rest) := by
  obtain ⟨fuel, rfl⟩ : ∃ n, fuel = n + 1 := ⟨fuel - 1, by omega⟩
  induction items generalizing done fuel with
  | nil =>
    have skipped (n : Nat) : skipFiller (n + 1) ('\n' :: ']' :: rest) = ']' :: rest :=
      skipFiller_solid bracket_solid n
    change scanItems (scanValue levels) (fuel + 1) ('\n' :: ']' :: rest) done = _
    rw [scanItems, List.length_cons, skipped]
    simp
  | cons d items ih =>
    obtain ⟨here, others⟩ := List.forall_mem_cons.mp reads
    obtain ⟨c, more, same, starts⟩ := here.head
    obtain ⟨solid, -, -, closes⟩ := scalar_solid starts
    generalize behind : '\n' :: ((String.join (items.map fun d =>
      "    " ++ scalarText d ++ ",\n")).toList ++ ']' :: rest) = tail at ih
    have line : '\n' :: ((String.join ((d :: items).map fun d =>
        "    " ++ scalarText d ++ ",\n")).toList ++ ']' :: rest) =
        '\n' :: ' ' :: ' ' :: ' ' :: ' ' :: ((scalarText d).toList ++ ',' :: tail) := by
      rw [← behind]
      simp [String.join_cons]
    have item : scanValue levels ((scalarText d).toList ++ ',' :: tail) =
        some (.scalar (kept d), ',' :: tail) := here.value ⟨',', tail, rfl, .inr (.inl rfl)⟩
    obtain ⟨fuel, rfl⟩ : ∃ n, fuel = n + 1 := ⟨fuel - 1, by simp at enough; omega⟩
    rw [line, scanItems]
    rw [same, List.cons_append] at item ⊢
    simp only [List.length_cons, skipFiller_item solid]
    split
    · rename_i closed
      exact absurd (List.cons.inj closed).1 closes
    · rw [item]
      simp only [bind, Option.bind_some, List.length_cons, skipFiller_solid comma_solid]
      rw [ih others (.scalar (kept d) :: done) fuel (by simpa using enough)]
      simp

def valueOf : Datum → Value
  | .list items => .list (items.map (.scalar <| kept ·))
  | d => .scalar (kept d)

def readAs : Datum → Datum
  | .list items => .list (items.map kept)
  | d => kept d

/-- A datum whose text is read again: a scalar, or a list of them. -/
def Written : Datum → Prop
  | .list items => ∀ d ∈ items, Reads (scalarText d) (kept d)
  | d => Reads (scalarText d) (kept d)

@[simp] theorem datum?_valueOf (d : Datum) : (valueOf d).datum? = some (readAs d) := by
  cases d with
  | list items =>
    have all : itemData? (items.map (.scalar <| kept ·)) = some (items.map kept) := by
      induction items with
      | nil => rfl
      | cons d items ih =>
        rw [List.map_cons, itemData?, ih]
        rfl
    change (itemData? (items.map (.scalar <| kept ·))).map Datum.list = _
    rw [all]
    rfl
  | _ => rfl

theorem ended_line (rest : List Char) : Ended ('\n' :: rest) := ⟨'\n', rest, rfl, .inl rfl⟩

theorem length_le_lines (items : List Datum) : items.length ≤
    (String.join (items.map fun d => "    " ++ scalarText d ++ ",\n")).toList.length := by
  induction items with
  | nil => exact Nat.zero_le _
  | cons d items ih =>
    have comma : ",\n".toList.length = 2 := rfl
    rw [List.map_cons, String.join_cons]
    simp only [String.toList_append, List.length_append, List.length_cons, comma]
    omega

theorem scanValue_list {items : List Datum} (reads : ∀ d ∈ items, Reads (scalarText d) (kept d)) :
    scanValue (levels + 1) ((valueText (.list items)).toList ++ rest) =
      some (valueOf (.list items), rest) := by
  cases items with
  | nil => rfl
  | cons d items =>
    cases items with
    | nil =>
      have here := reads d (by simp)
      obtain ⟨c, more, same, starts⟩ := here.head
      obtain ⟨solid, -, -, closes⟩ := scalar_solid starts
      have item : scanValue levels ((scalarText d).toList ++ ']' :: rest) =
          some (.scalar (kept d), ']' :: rest) := here.value ⟨']', rest, rfl, .inr (.inr rfl)⟩
      have text : (valueText (.list [d])).toList ++ rest =
          '[' :: ((scalarText d).toList ++ ']' :: rest) := by simp [valueText]
      have items : scanItems (scanValue levels) (((scalarText d).toList ++ ']' :: rest).length + 1)
          ((scalarText d).toList ++ ']' :: rest) [] = some ([.scalar (kept d)], rest) := by
        rw [scanItems]
        rw [same, List.cons_append] at item ⊢
        simp only [skipFiller_solid solid]
        split
        · rename_i closed
          exact absurd (List.cons.inj closed).1 closes
        · rw [item]
          simp only [bind, Option.bind_some, skipFiller_solid bracket_solid]
          rfl
      rw [text, scanValue, items]
      rfl
    | cons e items =>
      have text : (valueText (.list (d :: e :: items))).toList ++ rest = '[' :: '\n' ::
          ((String.join ((d :: e :: items).map fun d => "    " ++ scalarText d ++ ",\n")).toList ++
            ']' :: rest) := by simp [valueText]
      have enough := length_le_lines (d :: e :: items)
      rw [text, scanValue, scanItems_lines reads []]
      · rfl
      · simp only [List.length_cons, List.length_append] at enough ⊢
        omega

theorem Written.head {d : Datum} (h : Written d) :
    ∃ c more, (valueText d).toList = c :: more ∧ isTabOrSpace c = false := by
  cases d with
  | list items =>
    cases items with
    | nil => exact ⟨'[', [']'], rfl, rfl⟩
    | cons d items =>
      refine ⟨'[', (valueText (.list (d :: items))).toList.tail, ?_, rfl⟩
      cases items <;> simp [valueText]
  | _ =>
    obtain ⟨c, more, same, starts⟩ := Reads.head h
    exact ⟨c, more, same, (scalar_solid starts).1.1⟩

theorem Written.scan {d : Datum} (h : Written d) :
    scanValue (levels + 1) ((valueText d).toList ++ '\n' :: rest) = some (valueOf d, '\n' :: rest) := by
  cases d with
  | list items => exact scanValue_list h
  | _ => exact Reads.value h (ended_line rest)

end Values

/-- A text is read as these statements, with every fuel that is enough for its length. -/
structure Yields (cs : List Char) (ss : List Statement) : Prop where
  mark : dropMark cs = cs
  scan : ∀ fuel, cs.length ≤ fuel → statementsFuel fuel cs = some ss

namespace Yields

variable {cs rest : List Char} {s : Statement} {ss : List Statement}

theorem nil : Yields [] [] := by
  refine ⟨rfl, fun fuel _ => ?_⟩
  cases fuel <;> rfl

theorem blank (h : Yields rest ss) : Yields ('\n' :: rest) ss := by
  refine ⟨rfl, fun fuel enough => ?_⟩
  obtain ⟨fuel, rfl⟩ : ∃ n, fuel = n + 1 := ⟨fuel - 1, by simp at enough; omega⟩
  exact h.scan fuel (by simpa using enough)

theorem line (h : Yields rest ss) {c : Char} {more : List Char} (same : cs = c :: more)
    (solid : Solid c) (mark : c ≠ Char.ofNat 0xFEFF)
    (scanned : scanStatement (cs ++ rest) = some (s, rest)) : Yields (cs ++ rest) (s :: ss) := by
  subst same
  rw [List.cons_append] at scanned ⊢
  have mark : c.toNat ≠ 0xFEFF := by
    intro same
    exact mark (Char.ext (UInt32.toNat_inj.mp same))
  refine ⟨if_neg mark, fun fuel enough => ?_⟩
  obtain ⟨fuel, rfl⟩ : ∃ n, fuel = n + 1 := ⟨fuel - 1, by simp at enough; omega⟩
  have later := h.scan fuel (by simp at enough; omega)
  rw [statementsFuel.eq_def]
  dsimp only
  rw [skipSpace_solid solid.1]
  split
  · rename_i none
    cases none
  · rename_i zero _
    cases zero
  · rename_i hash _
    exact absurd (List.cons.inj hash).1 solid.2.1
  · rename_i same _ _
    obtain rfl := Nat.succ.inj same
    rw [lineEnd?_solid solid, scanned]
    simp [later]

end Yields

section Statements

variable {key : String} {d : Datum} {rest : List Char} {path : List String}

theorem scanStatement_assign (bare : Bare key) (written : Written d) :
    scanStatement (key.toList ++ ' ' :: '=' :: ' ' :: ((valueText d).toList ++ '\n' :: rest)) =
      some (.assign [key] (valueOf d), rest) := by
  have keyed : scanKey (key.toList ++ ' ' :: '=' :: ' ' :: ((valueText d).toList ++ '\n' :: rest)) =
      some ([key], '=' :: ' ' :: ((valueText d).toList ++ '\n' :: rest)) := scanKey_assigned bare
  have valued : scanValue (depthLimit - 1) ((valueText d).toList ++ '\n' :: rest) =
      some (valueOf d, '\n' :: rest) := written.scan
  obtain ⟨e, others, first, clear⟩ := written.head
  have skipped : skipSpace (' ' :: ((valueText d).toList ++ '\n' :: rest)) =
      (valueText d).toList ++ '\n' :: rest := by
    rw [first, List.cons_append]
    exact skipSpace_solid clear
  obtain ⟨c, more, same, starts⟩ := bare.head
  rw [same, List.cons_append] at keyed ⊢
  unfold scanStatement
  split
  · rename_i opens
    exact absurd (List.cons.inj opens).1 (bare_ne starts (by decide))
  · rename_i opens
    exact absurd (List.cons.inj opens).1 (bare_ne starts (by decide))
  · rw [keyed]
    simp only [bind, Option.bind_some, skipped, valued]
    rfl

theorem scanStatement_header (some_ : path ≠ []) (bare : ∀ k ∈ path, Bare k)
    (short : path.length < depthLimit) :
    scanStatement ('[' :: ((".".intercalate path).toList ++ ']' :: '\n' :: rest)) =
      some (.table path, rest) := by
  have keyed : scanKey ((".".intercalate path).toList ++ ']' :: '\n' :: rest) =
      some (path, ']' :: '\n' :: rest) :=
    scanKeyFuel_path some_ bare (by decide) rfl (by decide) (by rw [depthLimit] at *; omega)
  obtain ⟨c, more, same, starts⟩ := path_head some_ bare
  unfold scanStatement
  split
  · rename_i opens
    rw [same] at opens
    exact absurd (List.cons.inj (List.cons.inj opens).2).1 (bare_ne starts (by decide))
  · rename_i opens
    obtain rfl := (List.cons.inj opens).2
    rw [keyed]
    rfl
  · rename_i other
    exact absurd rfl (other _)

end Statements

namespace Section

structure Plain (s : Section) : Prop where
  path : ∀ k ∈ s.path, Bare k
  short : s.path.length < depthLimit
  pairs : ∀ p ∈ s.pairs, Bare p.1 ∧ Written p.2

def statements (s : Section) : List Statement :=
  (if s.path = [] then [] else [.table s.path]) ++ s.pairs.map fun p => .assign [p.1] (valueOf p.2)

variable {s : Section} {rest : List Char} {ss : List Statement}

theorem yields_pairs {pairs : List (String × Datum)} (plain : ∀ p ∈ pairs, Bare p.1 ∧ Written p.2)
    (h : Yields rest ss) : Yields
      ((String.join (pairs.map fun p => p.1 ++ " = " ++ valueText p.2 ++ "\n")).toList ++ rest)
      ((pairs.map fun p => .assign [p.1] (valueOf p.2)) ++ ss) := by
  induction pairs with
  | nil => exact h
  | cons p pairs ih =>
    obtain ⟨⟨bare, written⟩, others⟩ := List.forall_mem_cons.mp plain
    obtain ⟨c, more, same, starts⟩ := bare.head
    have later := ih others
    rw [List.map_cons, String.join_cons, String.toList_append, List.append_assoc]
    generalize (String.join (pairs.map fun p => p.1 ++ " = " ++ valueText p.2 ++ "\n")).toList ++ rest
      = behind at later
    have first : (p.1 ++ " = " ++ valueText p.2 ++ "\n").toList =
        c :: (more ++ (" = " ++ valueText p.2 ++ "\n").toList) := by simp [same]
    have scanned : scanStatement ((p.1 ++ " = " ++ valueText p.2 ++ "\n").toList ++ behind) =
        some (.assign [p.1] (valueOf p.2), behind) := by
      simpa using scanStatement_assign bare written
    exact later.line first (bare_solid starts) (bare_ne starts (by decide)) scanned

theorem Plain.yields (plain : s.Plain) (h : Yields rest ss) :
    Yields (s.render.toList ++ rest) (s.statements ++ ss) := by
  have pairs := yields_pairs plain.pairs h
  unfold render statements
  rw [String.toList_append, List.append_assoc, List.append_assoc]
  generalize (String.join (s.pairs.map fun p => p.1 ++ " = " ++ valueText p.2 ++ "\n")).toList ++ rest
    = behind at pairs
  by_cases top : s.path = []
  · rw [top]
    exact pairs
  · have header : (headerText s.path).toList ++ behind =
        '\n' :: ('[' :: ((".".intercalate s.path).toList ++ [']', '\n']) ++ behind) := by
      unfold headerText
      split
      · rename_i none
        exact absurd none top
      · simp
    have scanned : scanStatement ('[' :: ((".".intercalate s.path).toList ++ [']', '\n']) ++ behind) =
        some (.table s.path, behind) := by
      simpa using scanStatement_header top plain.path plain.short
    have bracket : Solid '[' := ⟨rfl, by decide, by decide, by decide⟩
    rw [header, if_neg top]
    exact (pairs.line rfl bracket (by decide) scanned).blank

end Section

/-- A text of sections is read as their statements. -/
theorem statements?_render {sections : List Section} (plain : ∀ s ∈ sections, s.Plain) :
    statements? (render sections) = some (sections.flatMap Section.statements) := by
  have yields : Yields (render sections).toList (sections.flatMap Section.statements) := by
    induction sections with
    | nil => exact .nil
    | cons s sections ih =>
      obtain ⟨here, others⟩ := List.forall_mem_cons.mp plain
      rw [render, List.map_cons, String.join_cons, String.toList_append, List.flatMap_cons]
      exact here.yields (ih others)
  rw [statements?, yields.mark]
  exact yields.scan _ (Nat.le_refl _)

end AmbientSound.Toml
