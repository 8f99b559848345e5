import AmbientSound.Document.Json.Token
/-!
Blanks, comments, strings and keys of TOML. A scanner takes the characters at the head of a text
and answers with what they mean and the characters that follow.
-/
namespace AmbientSound.Toml

def isTabOrSpace (c : Char) : Bool := c == ' ' || c == '\t'

def skipSpace (cs : List Char) : List Char := cs.dropWhile isTabOrSpace

def isPrintable (c : Char) : Bool := c == '\t' || decide (32 ≤ c.toNat ∧ c.toNat ≠ 127)

def lineEnd? : List Char → Option (List Char)
  | '\n' :: rest => some rest
  | '\r' :: '\n' :: rest => some rest
  | _ => none

def skipComment : List Char → List Char
  | '#' :: rest => rest.dropWhile isPrintable
  | cs => cs

/-- Skips blanks, line ends and comments, as between the items of a list. A comment has to end
with its line. -/
def skipFiller : Nat → List Char → List Char
  | 0, cs => cs
  | fuel + 1, cs =>
    match skipSpace cs with
    | '#' :: rest =>
      match lineEnd? (skipComment ('#' :: rest)) with
      | some next => skipFiller fuel next
      | none => '#' :: rest
    | rest =>
      match lineEnd? rest with
      | some next => skipFiller fuel next
      | none => rest

def finishLine? (cs : List Char) : Option (List Char) :=
  match skipComment (skipSpace cs) with
  | [] => some []
  | rest => lineEnd? rest

def character? (n : Nat) : Option Char :=
  if n < 0xD800 ∨ (0xDFFF < n ∧ n < 0x110000) then some (Char.ofNat n) else none

def escaped? : Char → Option Char
  | '"' => some '"'
  | '\\' => some '\\'
  | 'b' => some (Char.ofNat 8)
  | 'f' => some (Char.ofNat 12)
  | 'n' => some '\n'
  | 'r' => some '\r'
  | 't' => some '\t'
  | _ => none

def scanBasic : List Char → List Char → Option (String × List Char)
  | '"' :: rest, done => some (String.ofList done.reverse, rest)
  | '\\' :: 'u' :: a :: b :: c :: d :: rest, done =>
    match (Json.hexFour? a b c d).bind character? with
    | some x => scanBasic rest (x :: done)
    | none => none
  | '\\' :: 'U' :: a :: b :: c :: d :: e :: f :: g :: h :: rest, done =>
    match (Json.hexFour? a b c d).bind fun high =>
        (Json.hexFour? e f g h).bind fun low => character? (high * 0x10000 + low) with
    | some x => scanBasic rest (x :: done)
    | none => none
  | '\\' :: c :: rest, done =>
    match escaped? c with
    | some x => scanBasic rest (x :: done)
    | none => none
  | c :: rest, done => if isPrintable c then scanBasic rest (c :: done) else none
  | [], _ => none

def scanLiteral : List Char → List Char → Option (String × List Char)
  | '\'' :: rest, done => some (String.ofList done.reverse, rest)
  | c :: rest, done => if isPrintable c then scanLiteral rest (c :: done) else none
  | [], _ => none

/-- Whether a backslash before these characters only joins lines. -/
def joinsLines (cs : List Char) : Bool := (lineEnd? (skipSpace cs)).isSome

/-- The rest of a quoted string of several lines. Up to two quotes may stand before the closing
three; while `joining`, blanks and line ends are passed over. -/
def scanLongBasic : List Char → Bool → List Char → Option (String × List Char)
  | '\n' :: rest, joining, done =>
    scanLongBasic rest joining (if joining then done else '\n' :: done)
  | '\r' :: '\n' :: rest, joining, done =>
    scanLongBasic rest joining (if joining then done else '\n' :: done)
  | '"' :: '"' :: '"' :: '"' :: '"' :: rest, _, done =>
    some (String.ofList ('"' :: '"' :: done).reverse, rest)
  | '"' :: '"' :: '"' :: '"' :: rest, _, done => some (String.ofList ('"' :: done).reverse, rest)
  | '"' :: '"' :: '"' :: rest, _, done => some (String.ofList done.reverse, rest)
  | '\\' :: 'u' :: a :: b :: c :: d :: rest, _, done =>
    match (Json.hexFour? a b c d).bind character? with
    | some x => scanLongBasic rest false (x :: done)
    | none => none
  | '\\' :: 'U' :: a :: b :: c :: d :: e :: f :: g :: h :: rest, _, done =>
    match (Json.hexFour? a b c d).bind fun high =>
        (Json.hexFour? e f g h).bind fun low => character? (high * 0x10000 + low) with
    | some x => scanLongBasic rest false (x :: done)
    | none => none
  | '\\' :: c :: rest, _, done =>
    match escaped? c with
    | some x => scanLongBasic rest false (x :: done)
    | none => if joinsLines (c :: rest) then scanLongBasic (c :: rest) true done else none
  | c :: rest, joining, done =>
    if joining && isTabOrSpace c then scanLongBasic rest true done
    else if isPrintable c then scanLongBasic rest false (c :: done)
    else none
  | [], _, _ => none

def scanLongLiteral : List Char → List Char → Option (String × List Char)
  | '\n' :: rest, done => scanLongLiteral rest ('\n' :: done)
  | '\r' :: '\n' :: rest, done => scanLongLiteral rest ('\n' :: done)
  | '\'' :: '\'' :: '\'' :: '\'' :: '\'' :: rest, done =>
    some (String.ofList ('\'' :: '\'' :: done).reverse, rest)
  | '\'' :: '\'' :: '\'' :: '\'' :: rest, done =>
    some (String.ofList ('\'' :: done).reverse, rest)
  | '\'' :: '\'' :: '\'' :: rest, done => some (String.ofList done.reverse, rest)
  | c :: rest, done => if isPrintable c then scanLongLiteral rest (c :: done) else none
  | [], _ => none

def dropFirstLineEnd (cs : List Char) : List Char := (lineEnd? cs).getD cs

def scanString : List Char → Option (String × List Char)
  | '"' :: '"' :: '"' :: rest => scanLongBasic (dropFirstLineEnd rest) false []
  | '"' :: rest => scanBasic rest []
  | '\'' :: '\'' :: '\'' :: rest => scanLongLiteral (dropFirstLineEnd rest) []
  | '\'' :: rest => scanLiteral rest []
  | _ => none

def isBareKeyChar (c : Char) : Bool :=
  decide ('a' ≤ c ∧ c ≤ 'z') || decide ('A' ≤ c ∧ c ≤ 'Z') || decide ('0' ≤ c ∧ c ≤ '9') ||
    c == '_' || c == '-'

def scanKeyPart : List Char → Option (String × List Char)
  | '"' :: rest => scanBasic rest []
  | '\'' :: rest => scanLiteral rest []
  | cs =>
    match cs.takeWhile isBareKeyChar with
    | [] => none
    | bare => some (String.ofList bare, cs.dropWhile isBareKeyChar)

def scanKeyFuel : Nat → List Char → Option (List String × List Char)
  | 0, _ => none
  | fuel + 1, cs => do
    let (part, rest) ← scanKeyPart (skipSpace cs)
    match skipSpace rest with
    | '.' :: rest =>
      let (parts, rest) ← scanKeyFuel fuel rest
      return (part :: parts, rest)
    | rest => return ([part], rest)

/-- The number of levels from which a key, list or inline table is too deep. -/
def depthLimit : Nat := 80

def scanKey (cs : List Char) : Option (List String × List Char) := scanKeyFuel (depthLimit - 1) cs

end AmbientSound.Toml
