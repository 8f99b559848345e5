/-!
Identities by kind. An identity is a small number; what it is an identity of is in its type.
-/
namespace AmbientSound

inductive Kind where
  | region
  | acoustic
  | voice
  deriving DecidableEq, Repr

def Kind.noun : Kind → String
  | .region => "region"
  | .acoustic => "acoustic"
  | .voice => "voice"

structure Ident (k : Kind) where
  index : Nat
  deriving DecidableEq, Repr

/-- A biome or a category of blocks. -/
abbrev RegionId := Ident .region

/-- A sound asset. -/
abbrev AcousticId := Ident .acoustic

/-- One started instance of a looping sound. -/
abbrev VoiceId := Ident .voice

namespace Ident

theorem eq_of_index_eq {k : Kind} {a b : Ident k} (h : a.index = b.index) : a = b := by
  cases a; cases b; simp_all

def label {k : Kind} (a : Ident k) : String := k.noun ++ "#" ++ toString a.index

end Ident

end AmbientSound
