import AmbientSound.Document.Json.Token
/-!
JSON values from lexemes. The open lists and records are a stack, so that the reader is one step
a lexeme, however deep the nesting.
-/
namespace AmbientSound.Json

/-- A list or record that is still open, its parts so far with the latest first. -/
inductive Frame where
  | items (done : List Datum)
  | fields (done : List (String × Datum)) (readable : Bool) (key : Option String)

inductive Expected where
  | value
  | valueOrClose
  | keyOrClose
  | key
  | colon
  | commaOrClose
  | nothing

structure State where
  stack : List Frame
  expected : Expected
  result : Datum

namespace State

def start : State := ⟨[], .value, .null⟩

def complete (d : Datum) : List Frame → State
  | [] => ⟨[], .nothing, d⟩
  | .items done :: outer => ⟨.items (d :: done) :: outer, .commaOrClose, .null⟩
  | .fields done readable key :: outer =>
    match key with
    | some k => ⟨.fields ((k, d) :: done) readable none :: outer, .commaOrClose, .null⟩
    | none => ⟨.fields done false none :: outer, .commaOrClose, .null⟩

def close : List Frame → Option State
  | .items done :: outer => some (complete (.list done.reverse) outer)
  | .fields done readable _ :: outer =>
    some (complete (if readable then .record done.reverse else .unreadable) outer)
  | [] => none

def step (s : State) (t : Token) : Option State :=
  match s.expected, t, s.stack with
  | .value, .openList, stack | .valueOrClose, .openList, stack =>
    some ⟨.items [] :: stack, .valueOrClose, .null⟩
  | .value, .openRecord, stack | .valueOrClose, .openRecord, stack =>
    some ⟨.fields [] true none :: stack, .keyOrClose, .null⟩
  | .value, .scalar d, stack | .valueOrClose, .scalar d, stack => some (complete d stack)
  | .value, .string t, stack | .valueOrClose, .string t, stack =>
    some (complete (match t with | some t => .text t | none => .unreadable) stack)
  | .valueOrClose, .closeList, stack => close stack
  | .keyOrClose, .closeRecord, stack => close stack
  | .keyOrClose, .string k, .fields done readable _ :: outer
  | .key, .string k, .fields done readable _ :: outer =>
    some ⟨.fields done readable k :: outer, .colon, .null⟩
  | .colon, .colon, stack => some ⟨stack, .value, .null⟩
  | .commaOrClose, .comma, .items done :: outer => some ⟨.items done :: outer, .value, .null⟩
  | .commaOrClose, .comma, .fields done readable key :: outer =>
    some ⟨.fields done readable key :: outer, .key, .null⟩
  | .commaOrClose, .closeList, .items done :: outer => close (.items done :: outer)
  | .commaOrClose, .closeRecord, .fields done readable key :: outer =>
    close (.fields done readable key :: outer)
  | _, _, _ => none

end State

def read? (s : String) : Option Datum := do
  let ts ← tokens? s
  let final ← ts.foldlM State.step State.start
  match final.expected with
  | .nothing => some final.result
  | _ => none

end AmbientSound.Json
