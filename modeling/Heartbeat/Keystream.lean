/-!
# The keystream behind the jitter

The jitter of a run comes from the cipher ChaCha with eight rounds, keyed by the seed of the run.
`Keystream.ofSeed` expands the seed of 64 bits into a key of eight words by a linear congruential
step and a rotation for each word. `Keystream.block` is the block function: sixteen words of
constants, key and block counter, mixed and added to themselves. A `Keystream` is a key and the
number of values taken, and `Keystream.next` takes the next value: two words, the low one first.
-/

set_option autoImplicit false
set_option relaxedAutoImplicit false

namespace Heartbeat

/-- A keystream and how much of it has been taken, in values of 64 bits. -/
structure Keystream where
  key : Vector UInt32 8
  taken : Nat
deriving DecidableEq

namespace Keystream

/-! ### The block function -/

/-- The state of the cipher: sixteen words. -/
abbrev Block := Vector UInt32 16

/-- A word with its bits moved to the left in a circle. -/
def rotateLeft (word count : UInt32) : UInt32 :=
  (word <<< count) ||| (word >>> (32 - count))

/-- A word with its bits moved to the right in a circle. -/
def rotateRight (word count : UInt32) : UInt32 :=
  (word >>> count) ||| (word <<< (32 - count))

/-- Adds the second word to the first and mixes the sum into the third. -/
def mix (block : Block) (target source mixed : Fin 16) (count : UInt32) : Block :=
  let block := block.set target (block[target] + block[source])
  block.set mixed (rotateLeft (block[mixed] ^^^ block[target]) count)

/-- The quarter round on four words of the state. -/
def quarterRound (block : Block) (a b c d : Fin 16) : Block :=
  let block := mix block a b d 16
  let block := mix block c d b 12
  let block := mix block a b d 8
  mix block c d b 7

/-- Two rounds: the four columns of the state, then its four diagonals. -/
def doubleRound (block : Block) : Block :=
  let block := quarterRound block 0 4 8 12
  let block := quarterRound block 1 5 9 13
  let block := quarterRound block 2 6 10 14
  let block := quarterRound block 3 7 11 15
  let block := quarterRound block 0 5 10 15
  let block := quarterRound block 1 6 11 12
  let block := quarterRound block 2 7 8 13
  quarterRound block 3 4 9 14

/-- The state before the rounds: four constants, the key, the block counter and an empty nonce. -/
def initialBlock (key : Vector UInt32 8) (counter : UInt64) : Block :=
  #v[0x61707865, 0x3320646e, 0x79622d32, 0x6b206574,
    key[0], key[1], key[2], key[3], key[4], key[5], key[6], key[7],
    counter.toUInt32, (counter >>> 32).toUInt32, 0, 0]

/-- The block of the keystream at a block counter: eight rounds, and the first state added. -/
def block (key : Vector UInt32 8) (counter : UInt64) : Block :=
  let start := initialBlock key counter
  Vector.zipWith (· + ·) (doubleRound (doubleRound (doubleRound (doubleRound start)))) start

/-! ### Key and values -/

/-- One step of the expansion of a seed: the next state and the word made of it. -/
def expand (state : UInt64) : UInt64 × UInt32 :=
  let next := state * 6364136223846793005 + 11634580027462260723
  (next, rotateRight (((next >>> 18) ^^^ next) >>> 27).toUInt32 (next >>> 59).toUInt32)

/-- The words of the key, one step of the expansion for each. -/
def expandKey : Nat → UInt64 → List UInt32
  | 0, _ => []
  | count + 1, state =>
    let (next, word) := expand state
    word :: expandKey count next

/-- The words of a key are as many as asked for. -/
theorem length_expandKey (count : Nat) (state : UInt64) :
    (expandKey count state).length = count := by
  induction count generalizing state with
  | zero => rfl
  | succ count ih => simp [expandKey, ih]

/-- The keystream of a seed, with nothing taken. -/
def ofSeed (seed : UInt64) : Keystream where
  key := ⟨(expandKey 8 seed).toArray, by simp [length_expandKey]⟩
  taken := 0

/-- The value of 64 bits at a position of the keystream. -/
def value (key : Vector UInt32 8) (position : Nat) : UInt64 :=
  let words := block key (UInt64.ofNat (position / 8))
  let low := words.get ⟨2 * (position % 8), by omega⟩
  let high := words.get ⟨2 * (position % 8) + 1, by omega⟩
  low.toUInt64 ||| (high.toUInt64 <<< 32)

/-- The next value, and the keystream without it. -/
def next (stream : Keystream) : UInt64 × Keystream :=
  (value stream.key stream.taken, { stream with taken := stream.taken + 1 })

/-! ### Uniform draws -/

/-- The number of values after which the keystream repeats: eight values for each of the 2^64 block
counters. -/
def period : Nat := 147573952589676412928

/-- The high and the low word of the product of two words. -/
def wideProduct (left right : UInt64) : UInt64 × UInt64 :=
  let product := left.toNat * right.toNat
  (UInt64.ofNat (product / 18446744073709551616), UInt64.ofNat (product % 18446744073709551616))

/-- The greatest low word of a product that is accepted for a number of outcomes: the products up
to it fall evenly on the outcomes. -/
def acceptedZone (outcomes : UInt64) : UInt64 :=
  (outcomes <<< (63 - outcomes.log2)) - 1

/-- Takes values until one is accepted, at most as many as the first argument says, and gives the
outcome it falls on. -/
def drawBelow? : Nat → UInt64 → Keystream → Option (UInt64 × Keystream)
  | 0, _, _ => none
  | fuel + 1, outcomes, stream =>
    let (value, rest) := stream.next
    let (outcome, remainder) := wideProduct value outcomes
    if remainder ≤ acceptedZone outcomes then some (outcome, rest)
    else drawBelow? fuel outcomes rest

/-- A uniform draw between two bounds, both included. There is none only if no value of the whole
keystream is accepted. A range of all words takes the next value as it is. -/
def uniform? (low high : UInt64) (stream : Keystream) : Option (UInt64 × Keystream) :=
  let outcomes := high - low + 1
  if outcomes = 0 then some stream.next
  else (drawBelow? period outcomes stream).map fun drawn ↦ (low + drawn.1, drawn.2)

/-- A draw for the jitter: the lower bound, with nothing taken, when the range has at most one
value, and a uniform draw otherwise. A draw that goes on until a value is accepted would never end
if the whole keystream had none; the lower bound, with nothing taken, stands in for that as well. -/
def draw (low high : UInt64) (stream : Keystream) : UInt64 × Keystream :=
  if high ≤ low then (low, stream)
  else (stream.uniform? low high).getD (low, stream)

end Keystream

end Heartbeat
