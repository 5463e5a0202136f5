import Asn1Constraints.Instances.Draw

/-!
The eight-round ChaCha keystream as a source of random answers. A 64-bit seed is
stretched to the key by a linear congruential generator with a permuted output;
the counter starts at 0 and the nonce is 0. Words come in stream order, and a
64-bit draw is two words, the low half first.
-/

namespace Asn1Constraints

/-- Four words side by side: a row of the state. -/
structure Quad where
  a : UInt32
  b : UInt32
  c : UInt32
  d : UInt32
deriving DecidableEq, Repr

namespace Quad

def map (f : UInt32 → UInt32) (x : Quad) : Quad := ⟨f x.a, f x.b, f x.c, f x.d⟩

def zipWith (f : UInt32 → UInt32 → UInt32) (x y : Quad) : Quad :=
  ⟨f x.a y.a, f x.b y.b, f x.c y.c, f x.d y.d⟩

def add (x y : Quad) : Quad := zipWith (· + ·) x y

def xor (x y : Quad) : Quad := zipWith (· ^^^ ·) x y

def rotateBits (count : UInt32) (x : Quad) : Quad :=
  x.map fun word => (word <<< count) ||| (word >>> (32 - count))

/-- Move every word one place to the left. -/
def turn (x : Quad) : Quad := ⟨x.b, x.c, x.d, x.a⟩

def words (x : Quad) : List UInt32 := [x.a, x.b, x.c, x.d]

end Quad

structure ChaChaRows where
  first : Quad
  second : Quad
  third : Quad
  fourth : Quad
deriving DecidableEq, Repr

namespace ChaChaRows

/-- A quarter round on each of the four columns at once. -/
def columnRound (rows : ChaChaRows) : ChaChaRows :=
  let first := rows.first.add rows.second
  let fourth := (rows.fourth.xor first).rotateBits 16
  let third := rows.third.add fourth
  let second := (rows.second.xor third).rotateBits 12
  let first := first.add second
  let fourth := (fourth.xor first).rotateBits 8
  let third := third.add fourth
  let second := (second.xor third).rotateBits 7
  ⟨first, second, third, fourth⟩

/-- Columns, then diagonals. -/
def doubleRound (rows : ChaChaRows) : ChaChaRows :=
  let columns := rows.columnRound
  let diagonals : ChaChaRows :=
    ChaChaRows.columnRound
      ⟨columns.first, columns.second.turn, columns.third.turn.turn,
        columns.fourth.turn.turn.turn⟩
  ⟨diagonals.first, diagonals.second.turn.turn.turn, diagonals.third.turn.turn,
    diagonals.fourth.turn⟩

def add (rows others : ChaChaRows) : ChaChaRows :=
  ⟨rows.first.add others.first, rows.second.add others.second,
    rows.third.add others.third, rows.fourth.add others.fourth⟩

def words (rows : ChaChaRows) : List UInt32 :=
  rows.first.words ++ rows.second.words ++ rows.third.words ++ rows.fourth.words

end ChaChaRows

/-- A place in a keystream: the key, the next block, and the words left of the
current one. -/
structure ChaChaStream where
  low : Quad
  high : Quad
  counter : UInt64
  pending : List UInt32
deriving DecidableEq, Repr

namespace ChaChaStream

def constants : Quad := ⟨0x61707865, 0x3320646e, 0x79622d32, 0x6b206574⟩

def block (low high : Quad) (counter : UInt64) : List UInt32 :=
  let start : ChaChaRows :=
    ⟨constants, low, high, ⟨counter.toUInt32, (counter >>> 32).toUInt32, 0, 0⟩⟩
  (start.doubleRound.doubleRound.doubleRound.doubleRound.add start).words

/-- The next key word and the state of the generator that stretches the seed. -/
def keyWord (state : UInt64) : UInt32 × UInt64 :=
  let next := state * 6364136223846793005 + 11634580027462260723
  let mixed := (((next >>> 18) ^^^ next) >>> 27).toUInt32
  let count := (next >>> 59).toUInt32
  ((mixed >>> count) ||| (mixed <<< (32 - count)), next)

def keyQuad (state : UInt64) : Quad × UInt64 :=
  let (a, state) := keyWord state
  let (b, state) := keyWord state
  let (c, state) := keyWord state
  let (d, state) := keyWord state
  (⟨a, b, c, d⟩, state)

def ofSeed (seed : UInt64) : ChaChaStream :=
  let (low, state) := keyQuad seed
  let (high, _) := keyQuad state
  ⟨low, high, 0, []⟩

def word : StateM ChaChaStream UInt32 := fun stream =>
  match stream.pending with
  | next :: rest => (next, { stream with pending := rest })
  | [] =>
    match block stream.low stream.high stream.counter with
    | next :: rest => (next, { stream with counter := stream.counter + 1, pending := rest })
    | [] => (0, stream)

def doubleWord : StateM ChaChaStream UInt64 := do
  let low ← word
  let high ← word
  return low.toUInt64 ||| (high.toUInt64 <<< 32)

/-- An offset below `span` from draws below `size`: the high part of the product,
corrected by a second draw when the low part may carry. -/
def offset (size span : Nat) (draw : StateM ChaChaStream Nat) : StateM ChaChaStream Nat := do
  let product := (← draw) * span
  let high := product / size
  let low := product % size
  if size - span < low then
    let carry := (← draw) * span / size
    return if size ≤ low + carry then high + 1 else high
  else return high

def naturalWord : StateM ChaChaStream Nat := do
  return (← word).toNat

def naturalDoubleWord : StateM ChaChaStream Nat := do
  return (← doubleWord).toNat

def integerWithin (low high : Int64) : StateM ChaChaStream Int64 := do
  let span := (high.toInt - low.toInt + 1).toNat
  if UInt64.size ≤ span then return (← doubleWord).toInt64
  let steps ← offset UInt64.size span naturalDoubleWord
  return Int64.ofInt (low.toInt + steps)

def lengthWithin (low high : UInt64) : StateM ChaChaStream UInt64 := do
  let span := high.toNat - low.toNat + 1
  if UInt64.size ≤ span then doubleWord
  else
    let steps ← offset UInt64.size span naturalDoubleWord
    return UInt64.ofNat (low.toNat + steps)

/-- A double word below the probability, scaled to the range of double words. -/
def chance (probability : Binary64) : StateM ChaChaStream Bool := do
  if probability.sameNumber Binary64.one then return true
  let drawn ← doubleWord
  return drawn.toNat < probability.floorScaled 64

/-- A fraction below 1 from the upper 52 bits of a double word. -/
def fraction : StateM ChaChaStream Binary64 := do
  let drawn ← doubleWord
  let aboveOne : Binary64 := ⟨Binary64.one.bits ||| (drawn >>> 12)⟩
  return aboveOne.sub Binary64.one

def realWithin (low high : Binary64) : StateM ChaChaStream Binary64 := do
  let drawn ← fraction
  return (drawn.mul (high.sub low)).add low

def octet : StateM ChaChaStream UInt8 := do
  return (← word).toUInt8

def octetWithin (low high : UInt8) : StateM ChaChaStream UInt8 := do
  let steps ← offset UInt32.size (high.toNat - low.toNat + 1) naturalWord
  return UInt8.ofNat (low.toNat + steps)

def position (count : Nat) : StateM ChaChaStream Nat := offset UInt32.size count naturalWord

def source : RandomSource ChaChaStream where
  chance := chance
  integerWithin := integerWithin
  lengthWithin := lengthWithin
  realWithin := realWithin
  position := position
  octet := octet
  octetWithin := octetWithin

end ChaChaStream

end Asn1Constraints
