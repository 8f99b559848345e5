import AmbientSound.Random.KeyStream
import AmbientSound.Number.Exact
/-!
Draws from a seeded stream. A source is a key and the number of words already taken, so that
two sources are alike exactly when they go on alike.
-/
namespace AmbientSound

structure Source where
  key : Key
  taken : Nat
  deriving DecidableEq

namespace Source

def seedStep (s : UInt64) : UInt64 := s * 6364136223846793005 + 11634580027462260723

def rotateRight (w n : UInt32) : UInt32 := (w >>> n) ||| (w <<< (32 - n))

def seedWord (s : UInt64) : UInt32 :=
  rotateRight (((s >>> 18) ^^^ s) >>> 27).toUInt32 (s >>> 59).toUInt32

def keyOfSeed (seed : UInt64) : Key :=
  let state (n : Nat) : UInt64 := Nat.repeat seedStep n seed
  Vector.ofFn fun (i : Fin 8) => seedWord (state (i.val + 1))

def ofSeed (seed : UInt64) : Source := ⟨keyOfSeed seed, 0⟩

/-- The source of one session, purpose and tick. Purposes are kept apart by their salt. -/
def ofScope (seed salt : UInt64) (tick : Nat) : Source :=
  ofSeed (seed ^^^ ((salt <<< 17) ||| (salt >>> 47)) ^^^ UInt64.ofNat tick)

def word (s : Source) : UInt32 × Source :=
  (keyStreamWord s.key s.taken, ⟨s.key, s.taken + 1⟩)

def doubleWord (s : Source) : UInt64 × Source :=
  let (low, s) := s.word
  let (high, s) := s.word
  ((high.toUInt64 <<< 32) ||| low.toUInt64, s)

/-- A single in the unit interval, one included in none: twenty-four bits behind the point. -/
def unit (s : Source) : Float32 × Source :=
  let (w, s) := s.word
  (Single.ofNat (w >>> 8).toNat * (1 / 16777216), s)

/-- The largest low half of a product that is accepted, so that every result below `n` is met
by equally many words. -/
def acceptedLow (n : Nat) : Nat := n <<< (63 - n.log2) - 1

/-- A number below `n` from the high half of a product, drawn again while the low half is too
large. The last permitted try is always accepted. -/
def belowFuel : Nat → Nat → Source → Nat × Source
  | fuel, n, s =>
    let (v, s) := s.doubleWord
    let product := v.toNat * n
    match fuel with
    | 0 => (product / UInt64.size, s)
    | fuel + 1 =>
      if product % UInt64.size ≤ acceptedLow n then (product / UInt64.size, s) else belowFuel fuel n s

/-- A number below `n`, for `n` from one to the largest word. At least half of all words are
accepted at each try. -/
def below (n : Nat) (s : Source) : Nat × Source := belowFuel 256 n s

end Source

end AmbientSound
