/-!
# A seeded stream of words

An endless stream of 32-bit words that a 64-bit seed determines: the ChaCha block function with
twelve rounds, a key spread from the seed, a 64-bit block counter from zero and no nonce.  A stream
is held as its key and the number of words already taken, so two streams of one seed differ only in
that number.
-/

namespace EndpointDocs

namespace Random

/-- A stream of words: its key and the number of words already taken. -/
structure Stream where
  key : Vector UInt32 8
  taken : Nat
deriving DecidableEq, Repr

abbrev Block := Vector UInt32 16

def rotateLeft (x : UInt32) (k : UInt32) : UInt32 :=
  (x <<< k) ||| (x >>> (32 - k))

def quarterRound (s : Block) (a b c d : Fin 16) : Block :=
  let s := s.set a (s[a] + s[b])
  let s := s.set d (rotateLeft (s[d] ^^^ s[a]) 16)
  let s := s.set c (s[c] + s[d])
  let s := s.set b (rotateLeft (s[b] ^^^ s[c]) 12)
  let s := s.set a (s[a] + s[b])
  let s := s.set d (rotateLeft (s[d] ^^^ s[a]) 8)
  let s := s.set c (s[c] + s[d])
  s.set b (rotateLeft (s[b] ^^^ s[c]) 7)

/-- A round on the columns and a round on the diagonals. -/
def doubleRound (s : Block) : Block :=
  let s := quarterRound s 0 4 8 12
  let s := quarterRound s 1 5 9 13
  let s := quarterRound s 2 6 10 14
  let s := quarterRound s 3 7 11 15
  let s := quarterRound s 0 5 10 15
  let s := quarterRound s 1 6 11 12
  let s := quarterRound s 2 7 8 13
  quarterRound s 3 4 9 14

/-- The block before the rounds: four constants, the key, the counter and two zero words. -/
def initialBlock (key : Vector UInt32 8) (counter : UInt64) : Block :=
  let constants : Vector UInt32 4 := #v[0x61707865, 0x3320646e, 0x79622d32, 0x6b206574]
  let tail : Vector UInt32 4 := #v[counter.toUInt32, (counter >>> 32).toUInt32, 0, 0]
  constants ++ key ++ tail

def block (key : Vector UInt32 8) (counter : UInt64) : Block :=
  let start := initialBlock key counter
  let mixed := Nat.repeat doubleRound 6 start
  Vector.zipWith (· + ·) mixed start

/-- One word of a key: the state of a linear congruential generator, permuted to 32 bits. -/
def permute (state : UInt64) : UInt32 :=
  let folded := (((state >>> 18) ^^^ state) >>> 27).toUInt32
  let turn := (state >>> 59).toUInt32
  rotateLeft folded ((32 - turn) % 32)

/-- The states of the congruential generator after the seed. -/
def seedStates : Nat → UInt64 → List UInt64
  | 0, _ => []
  | n + 1, state =>
    let next := state * 6364136223846793005 + 11634580027462260723
    next :: seedStates n next

def seedKey (seed : UInt64) : Vector UInt32 8 :=
  Vector.ofFn fun i ↦ ((seedStates 8 seed)[i.val]?.map permute).getD 0

namespace Stream

def ofSeed (seed : UInt64) : Stream :=
  ⟨seedKey seed, 0⟩

def next32 (s : Stream) : UInt32 × Stream :=
  let words := block s.key (UInt64.ofNat (s.taken / 16))
  (words.get ⟨s.taken % 16, Nat.mod_lt _ (by decide)⟩, { s with taken := s.taken + 1 })

/-- The next two words as one number, the first being the low half. -/
def next64 (s : Stream) : Nat × Stream :=
  let (low, s) := s.next32
  let (high, s) := s.next32
  (high.toNat * 0x100000000 + low.toNat, s)

end Stream

end Random

end EndpointDocs
