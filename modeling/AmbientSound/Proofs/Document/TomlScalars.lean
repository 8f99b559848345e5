import Mathlib.Data.List.Basic
import AmbientSound.Document.Toml.Statement
import AmbientSound.Document.Toml.Writer
/-!
Scalars of TOML as they are written: truth values, whole numbers and reals with a point. In front of
the end of a line, a comma or a bracket each is read up to there.
-/
namespace AmbientSound.Toml

def digitValues (cs : List Char) : List Nat := cs.map fun c => c.toNat - 48

theorem digitsValue_digitValues (cs : List Char) :
    digitsValue 10 (digitValues cs) = Nat.ofDigitChars 10 cs 0 := by
  rw [digitsValue, digitValues, List.foldl_map, Nat.ofDigitChars]
  congr
  funext n c
  rw [Nat.mul_comm]
  rfl

def Ends (c : Char) : Prop := c = '\n' ∨ c = ',' ∨ c = ']'

def Ended (rest : List Char) : Prop := ∃ c more, rest = c :: more ∧ Ends c

section Digits

variable {c : Char} {cs rest : List Char}

theorem isDigit_iff_le : c.isDigit = true ↔ '0' ≤ c ∧ c ≤ '9' := by
  rw [Char.isDigit, Bool.and_eq_true, decide_eq_true_iff, decide_eq_true_iff]
  rfl

theorem digitOf?_digit (digit : c.isDigit = true) : digitOf? 10 c = some (c.toNat - 48) := by
  have bounds := isDigit_iff_le.mp digit
  have small : c.toNat - 48 < 10 := by
    have top : c.toNat ≤ '9'.toNat := bounds.2
    have nine : '9'.toNat = 57 := rfl
    omega
  rw [digitOf?, Json.hexValue?, if_pos bounds, Option.bind_some, if_pos small]

def Apart (rest : List Char) : Prop := ∀ c ∈ rest.head?, digitOf? 10 c = none ∧ c ≠ '_'

theorem scanMoreDigits_append (digits : ∀ c ∈ cs, c.isDigit = true) (apart : Apart rest) :
    scanMoreDigits 10 (cs ++ rest) = (digitValues cs, rest) := by
  induction cs with
  | nil =>
    cases rest with
    | nil => rfl
    | cons c more =>
      obtain ⟨none, bar⟩ := apart c rfl
      rw [List.nil_append, scanMoreDigits.eq_def]
      split
      · rename_i same
        exact absurd (List.cons.inj same).1 bar
      · rename_i same
        obtain ⟨rfl, rfl⟩ := List.cons.inj same
        rw [none]
        rfl
      · rename_i same
        cases same
  | cons c cs ih =>
    obtain ⟨digit, others⟩ := List.forall_mem_cons.mp digits
    rw [List.cons_append, scanMoreDigits.eq_def]
    split
    · rename_i same
      rw [(List.cons.inj same).1] at digit
      cases digit
    · rename_i same
      obtain ⟨rfl, rfl⟩ := List.cons.inj same
      rw [digitOf?_digit digit, ih others]
      rfl
    · rename_i same
      cases same

theorem scanDigits_append (digits : ∀ c ∈ cs, c.isDigit = true) (some_ : cs ≠ [])
    (apart : Apart rest) : scanDigits 10 (cs ++ rest) = (digitValues cs, rest) := by
  cases cs with
  | nil => exact absurd rfl some_
  | cons c cs =>
    obtain ⟨digit, others⟩ := List.forall_mem_cons.mp digits
    rw [List.cons_append, scanDigits, digitOf?_digit digit]
    simp only [scanMoreDigits_append others apart]
    rfl

/-- Digits of a whole number: zero, or digits without a zero in front. -/
structure Whole (cs : List Char) : Prop where
  digits : ∀ c ∈ cs, c.isDigit = true
  some_ : cs ≠ []
  lead : cs = ['0'] ∨ cs.head? ≠ some '0'

theorem Whole.head (h : Whole cs) : ∃ c more, cs = c :: more ∧ c.isDigit = true := by
  cases cs with
  | nil => exact absurd rfl h.some_
  | cons c more => exact ⟨c, more, rfl, h.digits c (by simp)⟩

theorem Whole.scan (h : Whole cs) (apart : Apart rest) :
    scanWhole (cs ++ rest) = some (digitValues cs, rest) := by
  rcases h.lead with rfl | lead
  · rfl
  · obtain ⟨c, more, rfl, digit⟩ := h.head
    unfold scanWhole
    split
    · rename_i same
      rw [List.cons_append] at same
      rw [(List.cons.inj same).1] at lead
      exact absurd rfl lead
    · rw [scanDigits_append h.digits h.some_ apart]
      rfl

theorem head?_toDigits {n : Nat} (some_ : n ≠ 0) : (Nat.toDigits 10 n).head? ≠ some '0' := by
  induction n using Nat.strongRecOn with
  | ind n ih =>
    rw [Nat.toDigits_eq_if (by decide)]
    split
    · rename_i small
      have nonzero : ∀ d < 10, d ≠ 0 → ([d.digitChar].head? ≠ some '0') := by decide
      exact nonzero n small some_
    · rename_i large
      have fewer := ih (n / 10) (Nat.div_lt_self (Nat.pos_of_ne_zero some_) (by decide)) (by omega)
      rwa [List.head?_append_of_ne_nil _ Nat.toDigits_ne_nil]

theorem isDigit_of_mem_toDigits {n : Nat} {c : Char} (mem : c ∈ Nat.toDigits 10 n) :
    c.isDigit = true :=
  Nat.isDigit_of_mem_toDigits (by decide) (Nat.le_refl 10) mem

theorem whole_toDigits (n : Nat) : Whole (Nat.toDigits 10 n) := by
  refine ⟨fun _ => isDigit_of_mem_toDigits, Nat.toDigits_ne_nil, ?_⟩
  by_cases zero : n = 0
  · subst zero
    exact .inl rfl
  · exact .inr (head?_toDigits zero)

end Digits

section Moments

variable {cs rest : List Char} {e : Char}

theorem digit_of_digit? {c : Char} {n : Nat} (h : Json.digit? c = some n) : c.isDigit = true := by
  unfold Json.digit? at h
  split at h
  · rename_i bounds
    exact isDigit_iff_le.mpr bounds
  · cases h

theorem scanTwo_digits {lo hi : Nat} {r : Nat × List Char} (h : scanTwo lo hi cs = some r) :
    ∃ a b, cs = a :: b :: r.2 ∧ a.isDigit = true ∧ b.isDigit = true := by
  unfold scanTwo at h
  split at h
  · rename_i a b rest
    obtain ⟨m, first, h⟩ := Option.bind_eq_some_iff.mp h
    obtain ⟨n, second, h⟩ := Option.bind_eq_some_iff.mp h
    refine ⟨a, b, ?_, digit_of_digit? first, digit_of_digit? second⟩
    simp only at h
    split at h
    · obtain rfl := Option.some.inj h
      rfl
    · cases h
  · cases h

theorem dateEnd?_digits {r : List Char} (h : dateEnd? cs = some r) : ∃ digits rest,
    cs = digits ++ '-' :: rest ∧ digits ≠ [] ∧ ∀ c ∈ digits, c.isDigit = true := by
  unfold dateEnd? at h
  split at h
  · rename_i a b c d rest
    obtain ⟨century, first, h⟩ := Option.bind_eq_some_iff.mp h
    obtain ⟨year, second, -⟩ := Option.bind_eq_some_iff.mp h
    obtain ⟨_, _, same, digitA, digitB⟩ := scanTwo_digits first
    obtain ⟨_, _, same', digitC, digitD⟩ := scanTwo_digits second
    simp only [List.cons.injEq] at same same'
    obtain ⟨rfl, rfl, -⟩ := same
    obtain ⟨rfl, rfl, -⟩ := same'
    exact ⟨[a, b, c, d], rest, rfl, by simp, by simp [digitA, digitB, digitC, digitD]⟩
  · cases h

theorem timeEnd?_digits {r : List Char} (h : timeEnd? cs = some r) : ∃ digits rest,
    cs = digits ++ ':' :: rest ∧ digits ≠ [] ∧ ∀ c ∈ digits, c.isDigit = true := by
  unfold timeEnd? at h
  obtain ⟨⟨hour, behind⟩, first, timed⟩ := Option.bind_eq_some_iff.mp h
  obtain ⟨a, b, rfl, digitA, digitB⟩ := scanTwo_digits first
  dsimp only at timed
  split at timed
  · rename_i rest
    exact ⟨[a, b], rest, rfl, by simp, by simp [digitA, digitB]⟩
  · cases timed

theorem moment_digits (h : scanMoment cs ≠ none) : ∃ digits e rest, cs = digits ++ e :: rest ∧
    digits ≠ [] ∧ (∀ c ∈ digits, c.isDigit = true) ∧ (e = '-' ∨ e = ':') := by
  cases date : dateEnd? cs with
  | some r =>
    obtain ⟨digits, rest, same, some_, all⟩ := dateEnd?_digits date
    exact ⟨digits, '-', rest, same, some_, all, .inl rfl⟩
  | none =>
    cases time : timeEnd? cs with
    | some r =>
      obtain ⟨digits, rest, same, some_, all⟩ := timeEnd?_digits time
      exact ⟨digits, ':', rest, same, some_, all, .inr rfl⟩
    | none =>
      rw [scanMoment, momentEnd?, date] at h
      exact absurd (by simp [time]) h

theorem takeWhile_digits (digits : ∀ c ∈ cs, c.isDigit = true) (stop : e.isDigit = false) :
    (cs ++ e :: rest).takeWhile Char.isDigit = cs := by
  rw [List.takeWhile_append_of_pos digits, List.takeWhile_cons_of_neg (by simp [stop]),
    List.append_nil]

/-- What goes on behind its digits without a dash or a colon is no moment. -/
theorem scanMoment_eq_none (digits : ∀ c ∈ cs, c.isDigit = true) (stop : e.isDigit = false)
    (other : cs = [] ∨ e ≠ '-' ∧ e ≠ ':') : scanMoment (cs ++ e :: rest) = none := by
  by_contra some_
  obtain ⟨ds, d, more, same, long, all, sign⟩ := moment_digits some_
  have stop' : d.isDigit = false := by
    rcases sign with rfl | rfl <;> rfl
  have front := congrArg (List.takeWhile Char.isDigit) same
  rw [takeWhile_digits digits stop, takeWhile_digits all stop'] at front
  obtain rfl := front
  obtain ⟨rfl, -⟩ := List.cons.inj (List.append_cancel_left same)
  rcases other with rfl | ⟨notDash, notColon⟩
  · exact long rfl
  · rcases sign with dash | colon
    · exact notDash dash
    · exact notColon colon

theorem scanMoment_letter (stop : e.isDigit = false) : scanMoment (e :: rest) = none := by
  have none : ∀ c ∈ ([] : List Char), c.isDigit = true := by simp
  exact scanMoment_eq_none none stop (.inl rfl)

end Moments

def signText (negative : Bool) : List Char := if negative then ['-'] else []

section Numbers

variable {cs whole fraction rest : List Char} {negative : Bool}

theorem not_digit_of_ends {c : Char} (h : Ends c) : c.isDigit = false := by
  rcases h with rfl | rfl | rfl <;> rfl

theorem apart_of_ended (h : Ended rest) : Apart rest := by
  obtain ⟨c, more, rfl, ends⟩ := h
  intro d mem
  obtain rfl := Option.some.inj mem
  rcases ends with rfl | rfl | rfl <;> decide

theorem apart_point : Apart ('.' :: rest) := by
  intro d mem
  obtain rfl := Option.some.inj mem
  decide

theorem scanSign_text (h : Whole whole) :
    scanSign (signText negative ++ whole ++ rest) = (negative, whole ++ rest) := by
  cases negative with
  | true => rfl
  | false =>
    obtain ⟨c, more, rfl, digit⟩ := h.head
    change scanSign (c :: (more ++ rest)) = _
    unfold scanSign
    split
    · rename_i same
      rw [(List.cons.inj same).1] at digit
      cases digit
    · rename_i same
      rw [(List.cons.inj same).1] at digit
      cases digit
    · rfl

theorem scanMoment_text (h : Whole whole) {e : Char} (stop : e.isDigit = false) (dash : e ≠ '-')
    (colon : e ≠ ':') : scanMoment (signText negative ++ whole ++ e :: rest) = none := by
  cases negative with
  | true => exact scanMoment_letter rfl
  | false => exact scanMoment_eq_none h.digits stop (.inr ⟨dash, colon⟩)

theorem scanExponent?_ended (h : Ended rest) : scanExponent? rest = none := by
  obtain ⟨c, more, rfl, ends⟩ := h
  rcases ends with rfl | rfl | rfl <;> rfl

/-- What begins with a sign or a digit is a moment, a real or an integer. -/
theorem scanScalar_number {c : Char} (h : c = '-' ∨ c.isDigit = true) :
    scanScalar (c :: rest) = (scanMoment (c :: rest)).orElse fun _ =>
      (scanReal (c :: rest)).orElse fun _ => scanInteger (c :: rest) := by
  have other : c ≠ 't' ∧ c ≠ 'f' ∧ c ≠ '"' ∧ c ≠ '\'' := by
    rcases h with rfl | digit
    · decide
    · refine ⟨?_, ?_, ?_, ?_⟩
      all_goals
        rintro rfl
        cases digit
  unfold scanScalar
  split
  all_goals
    rename_i same
    first
      | rfl
      | exact absurd (List.cons.inj same).1 (by simp [other])

theorem text_ne_based (h : Whole whole) (ended : Ended rest) {c : Char} (other : ¬ Ends c)
    (more : List Char) : signText negative ++ whole ++ rest ≠ '0' :: c :: more := by
  obtain ⟨e, behind, rfl, ends⟩ := ended
  cases negative with
  | true => exact fun same => absurd (List.cons.inj same).1 (by decide)
  | false =>
    rcases h.lead with rfl | lead
    · rintro same
      obtain ⟨rfl, -⟩ := List.cons.inj (List.cons.inj same).2
      exact other ends
    · obtain ⟨d, others, rfl, -⟩ := h.head
      rintro same
      obtain ⟨rfl, -⟩ := List.cons.inj same
      exact lead rfl

def wholeOf (negative : Bool) (whole : List Char) : Int :=
  if negative then -(Nat.ofDigitChars 10 whole 0 : Int) else Nat.ofDigitChars 10 whole 0

theorem scanInteger_text (h : Whole whole) (ended : Ended rest)
    (low : Int64.minValue.toInt ≤ wholeOf negative whole)
    (high : wholeOf negative whole ≤ Int64.maxValue.toInt) :
    scanInteger (signText negative ++ whole ++ rest) = some (.int (wholeOf negative whole), rest) := by
  have bounds := And.intro low high
  unfold scanInteger
  split
  · rename_i same
    exact absurd same (text_ne_based h ended (by simp [Ends]) _)
  · rename_i same
    exact absurd same (text_ne_based h ended (by simp [Ends]) _)
  · rename_i same
    exact absurd same (text_ne_based h ended (by simp [Ends]) _)
  · simp only [scanSign_text h, h.scan (apart_of_ended ended), digitsValue_digitValues, bind,
      Option.bind_some]
    rw [← wholeOf, if_pos bounds]
    rfl

theorem Whole.ne_letter (h : Whole whole) {c : Char} (letter : c.isDigit = false)
    (more : List Char) : whole ++ rest ≠ c :: more := by
  obtain ⟨d, others, rfl, digit⟩ := h.head
  intro same
  rw [(List.cons.inj same).1, letter] at digit
  cases digit

theorem scanReal_whole (h : Whole whole) (ended : Ended rest) :
    scanReal (signText negative ++ whole ++ rest) = none := by
  unfold scanReal
  rw [scanSign_text h]
  dsimp only
  split
  · rename_i same
    exact absurd same (h.ne_letter rfl _)
  · rename_i same
    exact absurd same (h.ne_letter rfl _)
  · rw [h.scan (apart_of_ended ended)]
    obtain ⟨c, more, rfl, ends⟩ := ended
    rcases ends with rfl | rfl | rfl <;> rfl

theorem scanReal_text (h : Whole whole) (digits : ∀ c ∈ fraction, c.isDigit = true)
    (some_ : fraction ≠ []) (ended : Ended rest)
    (finite : (Numeral.nearest ⟨negative, digitValues whole, digitValues fraction, false, []⟩ ==
      Double.infinity) = false) :
    scanReal (signText negative ++ whole ++ '.' :: (fraction ++ rest)) = some (.double
      (Numeral.nearest ⟨negative, digitValues whole, digitValues fraction, false, []⟩), rest) := by
  unfold scanReal
  rw [scanSign_text h]
  dsimp only
  split
  · rename_i same
    exact absurd same (h.ne_letter rfl _)
  · rename_i same
    exact absurd same (h.ne_letter rfl _)
  · have behind : digitValues fraction ≠ [] := by simpa [digitValues] using some_
    simp only [h.scan apart_point, scanDigits_append digits some_ (apart_of_ended ended),
      scanExponent?_ended ended, bind, Option.bind_some, finite]
    cases values : digitValues fraction with
    | nil => exact absurd values behind
    | cons d ds =>
      rw [values] at finite
      simp

theorem text_head (h : Whole whole) (negative : Bool) : ∃ c more, signText negative ++ whole = c :: more ∧
    (c = '-' ∨ c.isDigit = true) := by
  cases negative with
  | true => exact ⟨'-', whole, rfl, .inl rfl⟩
  | false =>
    obtain ⟨c, more, lead, digit⟩ := h.head
    exact ⟨c, more, lead, .inr digit⟩

/-- A number that goes on behind its whole part without a dash or a colon is a real or an integer. -/
theorem scanScalar_text (h : Whole whole) {e : Char} (stop : e.isDigit = false) (dash : e ≠ '-')
    (colon : e ≠ ':') : scanScalar (signText negative ++ whole ++ e :: rest) =
      (scanReal (signText negative ++ whole ++ e :: rest)).orElse fun _ =>
        scanInteger (signText negative ++ whole ++ e :: rest) := by
  have none : scanMoment (signText negative ++ whole ++ e :: rest) = none :=
    scanMoment_text h stop dash colon
  obtain ⟨c, more, same, starts⟩ := text_head h negative
  rw [same, List.cons_append] at none ⊢
  rw [scanScalar_number starts, none]
  rfl

end Numbers

/-- A text that is read as a datum, wherever the scalar ends behind it. -/
structure Reads (text : String) (d : Datum) : Prop where
  head : ∃ c more, text.toList = c :: more ∧ (c.isAlphanum = true ∨ c = '-')
  scan : ∀ rest, Ended rest → scanScalar (text.toList ++ rest) = some (d, rest)

theorem reads_bool (b : Bool) : Reads (scalarText (.bool b)) (.bool b) := by
  cases b with
  | true => exact ⟨⟨'t', _, rfl, .inl rfl⟩, fun _ _ => rfl⟩
  | false => exact ⟨⟨'f', _, rfl, .inl rfl⟩, fun _ _ => rfl⟩

theorem toList_toString (n : Int) : ∃ negative whole, Whole whole ∧
    (toString n).toList = signText negative ++ whole ∧ wholeOf negative whole = n := by
  cases n with
  | ofNat n =>
    refine ⟨false, Nat.toDigits 10 n, whole_toDigits n, ?_, ?_⟩
    · exact String.toList_ofList
    · rw [wholeOf, if_neg Bool.false_ne_true, Nat.ofDigitChars_ten_toDigits]
      rfl
  | negSucc n =>
    refine ⟨true, Nat.toDigits 10 (n + 1), whole_toDigits (n + 1), ?_, ?_⟩
    · change ("-" ++ Nat.repr (n + 1)).toList = _
      rw [String.toList_append, Nat.toList_repr]
      rfl
    · rw [wholeOf, if_pos rfl, Nat.ofDigitChars_ten_toDigits]
      rfl

theorem reads_int {n : Int} (low : Int64.minValue.toInt ≤ n) (high : n ≤ Int64.maxValue.toInt) :
    Reads (scalarText (.int n)) (.int n) := by
  obtain ⟨negative, whole, digits, text, rfl⟩ := toList_toString n
  change Reads (toString (wholeOf negative whole)) _
  obtain ⟨c, more, same, starts⟩ := text_head digits negative
  refine ⟨⟨c, more, text.trans same, ?_⟩, ?_⟩
  · rcases starts with rfl | digit
    · exact .inr rfl
    · exact .inl (by simp [Char.isAlphanum, digit])
  · intro rest ended
    have real : scanReal (signText negative ++ whole ++ rest) = none := scanReal_whole digits ended
    have integer := scanInteger_text digits ended low high
    obtain ⟨e, behind, rfl, ends⟩ := ended
    have dash : e ≠ '-' ∧ e ≠ ':' := by rcases ends with rfl | rfl | rfl <;> decide
    rw [text, scanScalar_text digits (not_digit_of_ends ends) dash.1 dash.2, real, integer]
    rfl

theorem reads_real {text : String} {negative : Bool} {whole fraction : List Char}
    (same : text.toList = signText negative ++ whole ++ '.' :: fraction) (h : Whole whole)
    (digits : ∀ c ∈ fraction, c.isDigit = true) (some_ : fraction ≠ [])
    (finite : (Numeral.nearest ⟨negative, digitValues whole, digitValues fraction, false, []⟩ ==
      Double.infinity) = false) :
    Reads text (.double
      (Numeral.nearest ⟨negative, digitValues whole, digitValues fraction, false, []⟩)) := by
  obtain ⟨c, more, lead, starts⟩ := text_head h negative
  refine ⟨⟨c, more ++ '.' :: fraction, ?_, ?_⟩, ?_⟩
  · rw [same, lead, List.cons_append]
  · rcases starts with rfl | digit
    · exact .inr rfl
    · exact .inl (by simp [Char.isAlphanum, digit])
  · intro rest ended
    have real := scanReal_text h digits some_ ended finite
    have point : ('.' : Char).isDigit = false := rfl
    rw [same, List.append_assoc, List.cons_append, scanScalar_text h point (by decide) (by decide),
      real]
    rfl

theorem reads_infinity (negative : Bool) : Reads (String.ofList (signText negative ++ ['i', 'n', 'f']))
    (.double (if negative then -Double.infinity else Double.infinity)) := by
  cases negative with
  | true =>
    refine ⟨⟨'-', _, rfl, .inr rfl⟩, ?_⟩
    intro rest _
    change scanScalar ('-' :: 'i' :: 'n' :: 'f' :: rest) = _
    rw [scanScalar_number (.inl rfl), scanMoment_letter rfl]
    rfl
  | false =>
    refine ⟨⟨'i', _, rfl, .inl rfl⟩, ?_⟩
    intro rest _
    have none : scanMoment ('i' :: 'n' :: 'f' :: rest) = none := scanMoment_letter rfl
    change (scanMoment ('i' :: 'n' :: 'f' :: rest)).orElse _ = _
    rw [none]
    rfl

end AmbientSound.Toml
