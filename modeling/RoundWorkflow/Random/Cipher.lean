import RoundWorkflow.Random

/-!
# A seeded generator

The generator is the ChaCha stream cipher with twelve rounds: block number `n` of its
stream is the key, the number and four constants, stirred.  The key of a seed is eight
outputs of a small congruential generator, so that seeds which differ in one bit have
keys that differ everywhere.

Each decision takes words of 64 bits from the stream.  A decision that is yes with a
probability compares a word with that share of all words.  A number below a bound is
the high half of the product of a word and the bound; words whose low half falls into
the last, incomplete stretch are passed over, so that no number is favoured.
-/

namespace RoundWorkflow

/-- A generator: its key, and the number of words of 64 bits it has given. -/
structure Generator where
  /-- The eight words of the key. -/
  key : List UInt32
  /-- The number of words of 64 bits that were taken from the stream. -/
  taken : Nat
  deriving Repr, Inhabited

namespace Generator

/-! ## The cipher -/

/-- A word turned to the left. -/
def rotateLeft (x : UInt32) (n : UInt32) : UInt32 := (x <<< n) ||| (x >>> (32 - n))

/-- The word at an index. -/
def wordAt (block : Array UInt32) (i : Nat) : UInt32 := block.getD i 0

/-- Stirs four words of a block. -/
def quarterRound (block : Array UInt32) (a b c d : Nat) : Array UInt32 :=
  let add (m : Array UInt32) (x y : Nat) := m.setIfInBounds x (wordAt m x + wordAt m y)
  let turn (m : Array UInt32) (x y : Nat) (n : UInt32) :=
    m.setIfInBounds x (rotateLeft (wordAt m x ^^^ wordAt m y) n)
  let m := turn (add block a b) d a 16
  let m := turn (add m c d) b c 12
  let m := turn (add m a b) d a 8
  turn (add m c d) b c 7

/-- Stirs the columns and then the diagonals of a block. -/
def doubleRound (m : Array UInt32) : Array UInt32 :=
  let m := quarterRound m 0 4 8 12
  let m := quarterRound m 1 5 9 13
  let m := quarterRound m 2 6 10 14
  let m := quarterRound m 3 7 11 15
  let m := quarterRound m 0 5 10 15
  let m := quarterRound m 1 6 11 12
  let m := quarterRound m 2 7 8 13
  quarterRound m 3 4 9 14

/-- The constants that every block begins with. -/
def constants : List UInt32 := [0x61707865, 0x3320646E, 0x79622D32, 0x6B206574]

/-- Block `number` of the stream of a key. -/
def block (doubleRounds : Nat) (key : List UInt32) (number : Nat) : Array UInt32 :=
  let counter := UInt64.ofNat number
  let start := (constants ++ key ++ [counter.toUInt32, (counter >>> 32).toUInt32, 0, 0]).toArray
  let stirred := doubleRounds.repeat doubleRound start
  start.zipWith (· + ·) stirred

/-- The number of double rounds of the generator. -/
def strength : Nat := 6

/-- The next word of 64 bits: two words of a block, the low half first. -/
def next (g : Generator) : UInt64 × Generator :=
  let words := block strength g.key (g.taken / 8)
  let i := 2 * (g.taken % 8)
  let low := wordAt words i
  let high := wordAt words (i + 1)
  (low.toUInt64 ||| (high.toUInt64 <<< 32), { g with taken := g.taken + 1 })

/-! ## Seeds -/

/-- The next state of the congruential generator. -/
def advanceSeed (state : UInt64) : UInt64 := state * 6364136223846793005 + 11634580027462260723

/-- The output of the congruential generator in a state. -/
def seedOutput (state : UInt64) : UInt32 :=
  let mixed := (((state >>> 18) ^^^ state) >>> 27).toUInt32
  let turn := (state >>> 59).toUInt32
  (mixed >>> turn) ||| (mixed <<< ((32 - turn) % 32))

/-- The next outputs of the congruential generator. -/
def seedOutputs : Nat → UInt64 → List UInt32
  | 0, _ => []
  | n + 1, state =>
    let state := advanceSeed state
    seedOutput state :: seedOutputs n state

/-- The generator of a seed. -/
def ofSeed (seed : UInt64) : Generator := ⟨seedOutputs 8 seed, 0⟩

/-! ## Decisions -/

/-- Four fifths of all words of 64 bits. -/
def likelyShare : UInt64 := 14757395258967642112

/-- The greatest low half of a product that is not passed over. -/
def lastEvenLow (bound : UInt64) : UInt64 :=
  (bound <<< UInt64.ofNat (63 - bound.toNat.log2)) - 1

/-- The high half of the product of a bound and the first word that is not passed over.  So many
words are looked at; should all of them be passed over, the last one counts. -/
def belowWord (bound : Nat) : Nat → Generator → Nat × Generator
  | 0, g => (0, g)
  | tries + 1, g =>
    let (w, g) := g.next
    let product := w.toNat * bound
    if product % UInt64.size ≤ (lastEvenLow (UInt64.ofNat bound)).toNat || tries = 0 then
      (product / UInt64.size, g)
    else belowWord bound tries g

/-- The most words that a number below a bound takes; half of all words at least are not passed
over. -/
def maxTries : Nat := 1000

instance : RandomSource Generator where
  likely g :=
    let (w, g) := g.next
    (w < likelyShare, g)
  below bound positive g :=
    let (n, g) := belowWord bound maxTries g
    (⟨n % bound, Nat.mod_lt _ positive⟩, g)

end Generator

end RoundWorkflow
