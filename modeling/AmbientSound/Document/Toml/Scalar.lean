import AmbientSound.Document.Toml.Lexeme
/-!
Numbers, truth values, dates and times of TOML.
-/
namespace AmbientSound.Toml

def digitOf? (base : Nat) (c : Char) : Option Nat :=
  (Json.hexValue? c).bind fun d => if d < base then some d else none

def scanMoreDigits (base : Nat) : List Char → List Nat × List Char
  | '_' :: c :: rest =>
    match digitOf? base c with
    | some d => let (ds, after) := scanMoreDigits base rest; (d :: ds, after)
    | none => ([], '_' :: c :: rest)
  | c :: rest =>
    match digitOf? base c with
    | some d => let (ds, after) := scanMoreDigits base rest; (d :: ds, after)
    | none => ([], c :: rest)
  | [] => ([], [])

/-- Digits of a base, where one underscore may stand between two digits. -/
def scanDigits (base : Nat) : List Char → List Nat × List Char
  | c :: rest =>
    match digitOf? base c with
    | some d => let (ds, after) := scanMoreDigits base rest; (d :: ds, after)
    | none => ([], c :: rest)
  | [] => ([], [])

def scanSign : List Char → Bool × List Char
  | '+' :: rest => (false, rest)
  | '-' :: rest => (true, rest)
  | cs => (false, cs)

def scanWhole (cs : List Char) : Option (List Nat × List Char) :=
  match cs with
  | '0' :: rest => some ([0], rest)
  | _ =>
    match scanDigits 10 cs with
    | ([], _) => none
    | found => some found

def scanInteger (cs : List Char) : Option (Datum × List Char) :=
  let based (base : Nat) (rest : List Char) : Option (Datum × List Char) :=
    match scanDigits base rest with
    | ([], _) => none
    | (ds, after) =>
      let n := digitsValue base ds
      if n < UInt64.size / 2 then some (.int n, after) else none
  match cs with
  | '0' :: 'x' :: rest => based 16 rest
  | '0' :: 'o' :: rest => based 8 rest
  | '0' :: 'b' :: rest => based 2 rest
  | _ => do
    let (negative, rest) := scanSign cs
    let (ds, after) ← scanWhole rest
    let n : Int := digitsValue 10 ds
    let signed := if negative then -n else n
    if Int64.minValue.toInt ≤ signed ∧ signed ≤ Int64.maxValue.toInt then return (.int signed, after)
    else none

def scanExponent? : List Char → Option ((Bool × List Nat) × List Char)
  | c :: rest =>
    if c = 'e' ∨ c = 'E' then
      let (negative, rest) := scanSign rest
      match scanDigits 10 rest with
      | ([], _) => none
      | (ds, after) => some ((negative, ds), after)
    else none
  | [] => none

/-- A real number, which has a fraction, an exponent or both. One beyond the largest double is
refused; one beyond the least is minus infinity. -/
def scanReal (cs : List Char) : Option (Datum × List Char) := do
  let (negative, rest) := scanSign cs
  match rest with
  | 'i' :: 'n' :: 'f' :: after =>
    return (.double (if negative then -Double.infinity else Double.infinity), after)
  | 'n' :: 'a' :: 'n' :: after => return (.double Double.nan, after)
  | _ =>
    let (whole, rest) ← scanWhole rest
    let finish (fraction : List Nat) (exponent : Bool × List Nat) (after : List Char) :
        Option (Datum × List Char) :=
      let x := Numeral.nearest ⟨negative, whole, fraction, exponent.1, exponent.2⟩
      if x == Double.infinity then none else some (.double x, after)
    match rest with
    | '.' :: behind =>
      match scanDigits 10 behind with
      | ([], _) => none
      | (fraction, behind) =>
        match scanExponent? behind with
        | some (exponent, after) => finish fraction exponent after
        | none => finish fraction (false, []) behind
    | _ =>
      let (exponent, after) ← scanExponent? rest
      finish [] exponent after

def scanTwo (lo hi : Nat) : List Char → Option (Nat × List Char)
  | a :: b :: rest => do
    let a ← Json.digit? a
    let b ← Json.digit? b
    let n := a * 10 + b
    if lo ≤ n ∧ n ≤ hi then return (n, rest) else none
  | _ => none

def isLeapYear (y : Nat) : Bool := (y % 4 == 0 && y % 100 != 0) || y % 400 == 0

def daysIn (year month : Nat) : Nat :=
  if month = 2 then (if isLeapYear year then 29 else 28)
  else if month = 4 ∨ month = 6 ∨ month = 9 ∨ month = 11 then 30
  else 31

def dateEnd? : List Char → Option (List Char)
  | a :: b :: c :: d :: '-' :: rest => do
    let century ← scanTwo 0 99 [a, b]
    let year ← scanTwo 0 99 [c, d]
    let (month, rest) ← scanTwo 1 12 rest
    match rest with
    | '-' :: rest =>
      let (day, rest) ← scanTwo 1 31 rest
      if day ≤ daysIn (century.1 * 100 + year.1) month then return rest else none
    | _ => none
  | _ => none

def timeEnd? (cs : List Char) : Option (List Char) := do
  let (_, rest) ← scanTwo 0 23 cs
  match rest with
  | ':' :: rest =>
    let (_, rest) ← scanTwo 0 59 rest
    match rest with
    | ':' :: rest =>
      let (_, rest) ← scanTwo 0 60 rest
      match rest with
      | '.' :: c :: more =>
        if (Json.digit? c).isSome then return more.dropWhile fun c => (Json.digit? c).isSome
        else return rest
      | _ => return rest
    | _ => none
  | _ => none

def skipOffset (cs : List Char) : List Char :=
  match cs with
  | 'Z' :: rest => rest
  | 'z' :: rest => rest
  | c :: rest =>
    if c = '+' ∨ c = '-' then
      match scanTwo 0 23 rest with
      | some (_, ':' :: rest) =>
        match scanTwo 0 59 rest with
        | some (_, rest) => rest
        | none => cs
      | _ => cs
    else cs
  | [] => []

def momentEnd? (cs : List Char) : Option (List Char) :=
  match dateEnd? cs with
  | some rest =>
    match rest with
    | c :: behind =>
      if c = 'T' ∨ c = 't' ∨ c = ' ' then
        match timeEnd? behind with
        | some after => some (skipOffset after)
        | none => some rest
      else some rest
    | [] => some []
  | none => timeEnd? cs

/-- A date or time says what a record with one unknown field says. -/
def momentDatum (written : List Char) : Datum :=
  .record [("moment of time", .text (String.ofList written))]

def scanMoment (cs : List Char) : Option (Datum × List Char) :=
  (momentEnd? cs).map fun rest => (momentDatum (cs.take (cs.length - rest.length)), rest)

def scanScalar (cs : List Char) : Option (Datum × List Char) :=
  match cs with
  | 't' :: 'r' :: 'u' :: 'e' :: rest => some (.bool true, rest)
  | 'f' :: 'a' :: 'l' :: 's' :: 'e' :: rest => some (.bool false, rest)
  | '"' :: _ | '\'' :: _ => (scanString cs).map fun r => (.text r.1, r.2)
  | _ => (scanMoment cs).orElse fun _ => (scanReal cs).orElse fun _ => scanInteger cs

end AmbientSound.Toml
