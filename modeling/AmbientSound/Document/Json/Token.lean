import AmbientSound.Document.Datum
import AmbientSound.Number.Numeral
/-!
The lexemes of a JSON text.
-/
namespace AmbientSound.Json

inductive Token where
  | openList
  | closeList
  | openRecord
  | closeRecord
  | comma
  | colon
  /-- A string; absent if it holds half a surrogate pair. -/
  | string (s : Option String)
  | scalar (d : Datum)

def isSpace (c : Char) : Bool := c == ' ' || c == '\n' || c == '\t' || c == '\r'

def digit? (c : Char) : Option Nat :=
  if '0' ≤ c ∧ c ≤ '9' then some (c.toNat - 48) else none

def hexValue? (c : Char) : Option Nat :=
  if '0' ≤ c ∧ c ≤ '9' then some (c.toNat - 48)
  else if 'a' ≤ c ∧ c ≤ 'f' then some (c.toNat - 87)
  else if 'A' ≤ c ∧ c ≤ 'F' then some (c.toNat - 55)
  else none

def hexFour? (a b c d : Char) : Option Nat := do
  let a ← hexValue? a
  let b ← hexValue? b
  let c ← hexValue? c
  let d ← hexValue? d
  return ((a * 16 + b) * 16 + c) * 16 + d

def isHighHalf (n : Nat) : Bool := decide (0xD800 ≤ n ∧ n ≤ 0xDBFF)

def isLowHalf (n : Nat) : Bool := decide (0xDC00 ≤ n ∧ n ≤ 0xDFFF)

def escaped? : Char → Option Char
  | '"' => some '"'
  | '\\' => some '\\'
  | '/' => some '/'
  | 'b' => some (Char.ofNat 8)
  | 'f' => some (Char.ofNat 12)
  | 'n' => some '\n'
  | 'r' => some '\r'
  | 't' => some '\t'
  | _ => none

/-- The characters of code points in which a character beyond the first plane may be given as two
halves. A half that stands alone makes no character. -/
def joinHalves : List Nat → Option (List Char)
  | [] => some []
  | h :: rest =>
    if isHighHalf h then
      match rest with
      | l :: rest' =>
        if isLowHalf l then
          (joinHalves rest').map
            (Char.ofNat (0x10000 + (h - 0xD800) * 0x400 + (l - 0xDC00)) :: ·)
        else none
      | [] => none
    else if isLowHalf h then none
    else (joinHalves rest).map (Char.ofNat h :: ·)

def scanString : List Char → List Nat → Option (List Nat × List Char)
  | '"' :: rest, done => some (done.reverse, rest)
  | '\\' :: 'u' :: a :: b :: c :: d :: rest, done =>
    match hexFour? a b c d with
    | some n => scanString rest (n :: done)
    | none => none
  | '\\' :: c :: rest, done =>
    match escaped? c with
    | some e => scanString rest (e.toNat :: done)
    | none => none
  | c :: rest, done => if c.toNat < 32 then none else scanString rest (c.toNat :: done)
  | [], _ => none

def scanDigits : List Char → List Nat × List Char
  | c :: rest =>
    match digit? c with
    | some d => let (ds, after) := scanDigits rest; (d :: ds, after)
    | none => ([], c :: rest)
  | [] => ([], [])

/-- What a numeral says: an integer if it is written as one and fits a word, else a double. -/
def numberDatum (x : Numeral) (isWhole : Bool) : Datum :=
  let n := digitsValue 10 x.whole
  if isWhole && !x.negative && decide (n ≤ Numeral.largestWord) then .int n
  else if isWhole && x.negative && decide (0 < n ∧ n ≤ UInt64.size / 2) then .int (-n)
  else
    match x.scaled? with
    | some f => .double f
    | none => .unreadable

def scanFraction : List Char → Option (Option (List Nat) × List Char)
  | '.' :: rest =>
    match scanDigits rest with
    | ([], _) => none
    | (ds, after) => some (some ds, after)
  | rest => some (none, rest)

def scanExponent : List Char → Option (Option (Bool × List Nat) × List Char)
  | c :: rest =>
    if c = 'e' ∨ c = 'E' then
      let (negative, rest) := match rest with
        | '+' :: r => (false, r)
        | '-' :: r => (true, r)
        | r => (false, r)
      match scanDigits rest with
      | ([], _) => none
      | (ds, after) => some (some (negative, ds), after)
    else some (none, c :: rest)
  | [] => some (none, [])

def scanNumber (negative : Bool) (cs : List Char) : Option (Token × List Char) := do
  let (whole, rest) := scanDigits cs
  match whole with
  | [] => none
  | 0 :: _ :: _ => none
  | _ =>
    let (fraction, rest) ← scanFraction rest
    let (exponent, rest) ← scanExponent rest
    let numeral : Numeral :=
      ⟨negative, whole, fraction.getD [], (exponent.map (·.1)).getD false,
        (exponent.map (·.2)).getD []⟩
    return (.scalar (numberDatum numeral (fraction.isNone && exponent.isNone)), rest)

def scanToken : List Char → Option (Token × List Char)
  | '[' :: rest => some (.openList, rest)
  | ']' :: rest => some (.closeList, rest)
  | '\x7b' :: rest => some (.openRecord, rest)
  | '\x7d' :: rest => some (.closeRecord, rest)
  | ',' :: rest => some (.comma, rest)
  | ':' :: rest => some (.colon, rest)
  | '"' :: rest =>
    (scanString rest []).map fun r => (.string ((joinHalves r.1).map String.ofList), r.2)
  | 't' :: 'r' :: 'u' :: 'e' :: rest => some (.scalar (.bool true), rest)
  | 'f' :: 'a' :: 'l' :: 's' :: 'e' :: rest => some (.scalar (.bool false), rest)
  | 'n' :: 'u' :: 'l' :: 'l' :: rest => some (.scalar .null, rest)
  | '-' :: rest => scanNumber true rest
  | cs => scanNumber false cs

/-- All lexemes of a text. Each takes at least one character, so the length is fuel enough. -/
def tokensFuel : Nat → List Char → Option (List Token)
  | _, [] => some []
  | 0, _ => none
  | fuel + 1, c :: cs =>
    if isSpace c then tokensFuel fuel cs
    else do
      let (t, rest) ← scanToken (c :: cs)
      return t :: (← tokensFuel fuel rest)

def tokens? (s : String) : Option (List Token) := tokensFuel s.toList.length s.toList

end AmbientSound.Json
