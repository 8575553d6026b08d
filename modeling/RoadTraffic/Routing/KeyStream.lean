/-!
# The key stream behind seeded routing

Seeded worlds draw their random words from the ChaCha stream cipher with twelve
rounds, so a seed fixes every route.  A block of the stream is made from sixteen
words in four rows of four lanes:

    row a   the constants "expand 32-byte k"
    row b   the first half of the key
    row c   the second half of the key
    row d   the block's number, low word first, and two zero words

A round works on the four lanes side by side; between two rounds the rows `b`, `c`
and `d` are turned by one, two and three lanes, so that every other round works on
the diagonals.  At the end the initial rows are added.
-/

namespace RoadTraffic

/-- Four words side by side. -/
structure Lanes where
  w0 : UInt32
  w1 : UInt32
  w2 : UInt32
  w3 : UInt32
deriving DecidableEq

namespace Lanes

def map (f : UInt32 → UInt32) (r : Lanes) : Lanes := ⟨f r.w0, f r.w1, f r.w2, f r.w3⟩

def zipWith (f : UInt32 → UInt32 → UInt32) (r s : Lanes) : Lanes :=
  ⟨f r.w0 s.w0, f r.w1 s.w1, f r.w2 s.w2, f r.w3 s.w3⟩

def add : Lanes → Lanes → Lanes := zipWith (· + ·)

def xor : Lanes → Lanes → Lanes := zipWith (· ^^^ ·)

/-- Turns the row so that the second lane comes first. -/
def turn (r : Lanes) : Lanes := ⟨r.w1, r.w2, r.w3, r.w0⟩

def toList (r : Lanes) : List UInt32 := [r.w0, r.w1, r.w2, r.w3]

end Lanes

/-- A word with its bits moved `count` places up, the upper ones coming back
below. -/
def rotateLeft (word : UInt32) (count : UInt32) : UInt32 :=
  word <<< count ||| word >>> (32 - count)

/-- Sixteen words in four rows. -/
structure Block where
  a : Lanes
  b : Lanes
  c : Lanes
  d : Lanes
deriving DecidableEq

namespace Block

/-- Half of a round: `a` takes in `b` and stirs `d`, then `c` takes in `d` and
stirs `b`. -/
def stir (m : Block) (upper lower : UInt32) : Block :=
  let a := m.a.add m.b
  let d := (m.d.xor a).map (rotateLeft · upper)
  let c := m.c.add d
  let b := (m.b.xor c).map (rotateLeft · lower)
  ⟨a, b, c, d⟩

/-- One round on the columns. -/
def columns (m : Block) : Block := (m.stir 16 12).stir 8 7

/-- Brings the diagonals into the columns. -/
def shear (m : Block) : Block := ⟨m.a, m.b.turn, m.c.turn.turn, m.d.turn.turn.turn⟩

/-- Brings the diagonals back. -/
def unshear (m : Block) : Block := ⟨m.a, m.b.turn.turn.turn, m.c.turn.turn, m.d.turn⟩

/-- One round on the columns and one on the diagonals. -/
def doubleRound (m : Block) : Block := m.columns.shear.columns.unshear

/-- Six double rounds. -/
def twelveRounds (m : Block) : Block :=
  m.doubleRound.doubleRound.doubleRound.doubleRound.doubleRound.doubleRound

def add (m n : Block) : Block := ⟨m.a.add n.a, m.b.add n.b, m.c.add n.c, m.d.add n.d⟩

def toList (m : Block) : List UInt32 := m.a.toList ++ m.b.toList ++ m.c.toList ++ m.d.toList

end Block

/-- A key of the stream: eight words. -/
structure StreamKey where
  first : Lanes
  second : Lanes
deriving DecidableEq

namespace StreamKey

/-- The constants of the cipher. -/
def constants : Lanes := ⟨0x61707865, 0x3320646e, 0x79622d32, 0x6b206574⟩

/-- The block of a number, before the rounds. -/
def initial (key : StreamKey) (number : Nat) : Block :=
  ⟨constants, key.first, key.second,
    ⟨UInt32.ofNat number, UInt32.ofNat (number / 2 ^ 32), 0, 0⟩⟩

/-- The block of a number. -/
def block (key : StreamKey) (number : Nat) : Block :=
  let start := key.initial number
  start.twelveRounds.add start

/-- The word at a place of the stream. -/
def word (key : StreamKey) (place : Nat) : UInt32 :=
  (key.block (place / 16)).toList.get ⟨place % 16, Nat.mod_lt _ (by decide)⟩

/-- The key of eight words; missing ones count as zero. -/
def ofWords (words : List UInt32) : StreamKey :=
  let part (i : Nat) := words.getD i 0
  ⟨⟨part 0, part 1, part 2, part 3⟩, ⟨part 4, part 5, part 6, part 7⟩⟩

/-- The word of four bytes, the lowest first. -/
def wordOfBytes (bytes : List UInt8) : UInt32 :=
  bytes.foldr (fun byte rest => rest <<< 8 ||| byte.toUInt32) 0

/-- The key of thirty-two bytes. -/
def ofBytes (bytes : List UInt8) : StreamKey :=
  ofWords ((List.range 8).map fun i => wordOfBytes ((bytes.drop (4 * i)).take 4))

/-!
## Keys from seeds

A 64-bit seed is stretched to a key by a linear congruential generator, whose
state is scrambled into one word per step.
-/

/-- One step of the generator. -/
def stretch (state : UInt64) : UInt64 := state * 6364136223846793005 + 11634580027462260723

/-- The word of a state of the generator: some of its upper bits, turned by its
uppermost five. -/
def scramble (state : UInt64) : UInt32 :=
  let mixed := ((state >>> 18 ^^^ state) >>> 27).toUInt32
  let turns := (state >>> 59).toUInt32
  rotateLeft mixed ((32 - turns) % 32)

/-- The next `count` words of the generator. -/
def stretched (state : UInt64) : (count : Nat) → List UInt32
  | 0 => []
  | count + 1 => scramble (stretch state) :: stretched (stretch state) count

/-- The key of a seed. -/
def ofSeed (seed : UInt64) : StreamKey := ofWords (stretched seed 8)

/-- The first words for the key of zeros. -/
example : (List.range 4).map (ofBytes (List.replicate 32 0)).word =
    [1788540059, 1408849159, 315498369, 3582142047] := by
  decide +kernel

/-- Words on both sides of a border between blocks. -/
example : [15, 16, 63, 64].map (ofSeed 42).word =
    [3647507867, 2703000414, 3816013056, 3999709097] := by
  decide +kernel

end StreamKey

end RoadTraffic
