import AmbientSound.Document.Toml.Scalar
/-!
TOML statements: assignments and headers, one to a line, and the values assigned.
-/
namespace AmbientSound.Toml

inductive Value where
  | scalar (d : Datum)
  | list (items : List Value)
  | braced (pairs : List (List String × Value))

inductive Statement where
  | assign (key : List String) (value : Value)
  /-- A header in single brackets. -/
  | table (path : List String)
  /-- A header in double brackets. -/
  | element (path : List String)

def scanItems (item : List Char → Option (Value × List Char)) :
    Nat → List Char → List Value → Option (List Value × List Char)
  | 0, _, _ => none
  | fuel + 1, cs, done =>
    match skipFiller cs.length cs with
    | ']' :: rest => some (done.reverse, rest)
    | cs => do
      let (v, rest) ← item cs
      match skipFiller rest.length rest with
      | ',' :: rest => scanItems item fuel rest (v :: done)
      | ']' :: rest => return ((v :: done).reverse, rest)
      | _ => none

def scanPairs (item : List Char → Option (Value × List Char)) :
    Nat → List Char → List (List String × Value) →
      Option (List (List String × Value) × List Char)
  | 0, _, _ => none
  | fuel + 1, cs, done => do
    let (key, rest) ← scanKey cs
    match rest with
    | '=' :: rest =>
      let (v, rest) ← item (skipSpace rest)
      match skipSpace rest with
      | ',' :: rest => scanPairs item fuel rest ((key, v) :: done)
      | '\x7d' :: rest => return (((key, v) :: done).reverse, rest)
      | _ => none
    | _ => none

def scanValue : Nat → List Char → Option (Value × List Char)
  | levels + 1, '[' :: rest =>
    (scanItems (scanValue levels) (rest.length + 1) rest []).map fun r => (.list r.1, r.2)
  | levels + 1, '\x7b' :: rest =>
    match skipSpace rest with
    | '\x7d' :: rest => some (.braced [], rest)
    | rest =>
      (scanPairs (scanValue levels) (rest.length + 1) rest []).map fun r => (.braced r.1, r.2)
  | _, cs => (scanScalar cs).map fun r => (.scalar r.1, r.2)

def scanStatement (cs : List Char) : Option (Statement × List Char) :=
  match cs with
  | '[' :: '[' :: rest => do
    let (path, rest) ← scanKey rest
    match rest with
    | ']' :: ']' :: rest => return (.element path, ← finishLine? rest)
    | _ => none
  | '[' :: rest => do
    let (path, rest) ← scanKey rest
    match rest with
    | ']' :: rest => return (.table path, ← finishLine? rest)
    | _ => none
  | cs => do
    let (key, rest) ← scanKey cs
    match rest with
    | '=' :: rest =>
      let (v, rest) ← scanValue (depthLimit - 1) (skipSpace rest)
      return (.assign key v, ← finishLine? rest)
    | _ => none

/-- The statements of a text, blank and comment lines skipped. Each line takes a character. -/
def statementsFuel : Nat → List Char → Option (List Statement)
  | fuel, cs =>
    match skipSpace cs, fuel with
    | [], _ => some []
    | _, 0 => none
    | '#' :: rest, fuel + 1 => do statementsFuel fuel (← finishLine? ('#' :: rest))
    | cs, fuel + 1 =>
      match lineEnd? cs with
      | some rest => statementsFuel fuel rest
      | none => do
        let (s, rest) ← scanStatement cs
        return s :: (← statementsFuel fuel rest)

/-- The text without the mark that some editors put at its start. -/
def dropMark : List Char → List Char
  | c :: cs => if c.toNat = 0xFEFF then cs else c :: cs
  | [] => []

def statements? (s : String) : Option (List Statement) :=
  let cs := dropMark s.toList
  statementsFuel cs.length cs

end AmbientSound.Toml
