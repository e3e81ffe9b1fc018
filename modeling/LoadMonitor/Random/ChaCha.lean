import LoadMonitor.Random.Source

/-!
# The seeded source

ChaCha with twelve rounds, used as a stream of words: the blocks of a fixed key with the
counter running from zero, each handed out word by word. The key is expanded from a 64-bit
seed.
-/

namespace LoadMonitor

/-- Four words of a block, handled side by side. -/
structure ChaChaRow where
  x0 : UInt32
  x1 : UInt32
  x2 : UInt32
  x3 : UInt32
  deriving DecidableEq, Repr

namespace ChaChaRow

def zipWith (f : UInt32 → UInt32 → UInt32) (a b : ChaChaRow) : ChaChaRow :=
  ⟨f a.x0 b.x0, f a.x1 b.x1, f a.x2 b.x2, f a.x3 b.x3⟩

/-- Rotate every word to the left. -/
def rotateBits (k : UInt32) (a : ChaChaRow) : ChaChaRow :=
  let r := fun w : UInt32 => (w <<< k) ||| (w >>> (32 - k))
  ⟨r a.x0, r a.x1, r a.x2, r a.x3⟩

/-- Move every word one place to the left. -/
def shift (a : ChaChaRow) : ChaChaRow := ⟨a.x1, a.x2, a.x3, a.x0⟩

def toList (a : ChaChaRow) : List UInt32 := [a.x0, a.x1, a.x2, a.x3]

end ChaChaRow

/-- A block of sixteen words in four rows. -/
structure ChaChaBlock where
  a : ChaChaRow
  b : ChaChaRow
  c : ChaChaRow
  d : ChaChaRow
  deriving DecidableEq, Repr

namespace ChaChaBlock

/-- Four quarter rounds at once, one in every column. -/
def columns (s : ChaChaBlock) : ChaChaBlock :=
  let a := s.a.zipWith (· + ·) s.b
  let d := (s.d.zipWith (· ^^^ ·) a).rotateBits 16
  let c := s.c.zipWith (· + ·) d
  let b := (s.b.zipWith (· ^^^ ·) c).rotateBits 12
  let a := a.zipWith (· + ·) b
  let d := (d.zipWith (· ^^^ ·) a).rotateBits 8
  let c := c.zipWith (· + ·) d
  let b := (b.zipWith (· ^^^ ·) c).rotateBits 7
  ⟨a, b, c, d⟩

/-- A round over the columns and one over the diagonals. -/
def doubleRound (s : ChaChaBlock) : ChaChaBlock :=
  let s := columns s
  let s := columns ⟨s.a, s.b.shift, s.c.shift.shift, s.d.shift.shift.shift⟩
  ⟨s.a, s.b.shift.shift.shift, s.c.shift.shift, s.d.shift⟩

/-- Twelve rounds. -/
def twelveRounds (s : ChaChaBlock) : ChaChaBlock :=
  doubleRound (doubleRound (doubleRound (doubleRound (doubleRound (doubleRound s)))))

def add (s t : ChaChaBlock) : ChaChaBlock :=
  ⟨s.a.zipWith (· + ·) t.a, s.b.zipWith (· + ·) t.b,
    s.c.zipWith (· + ·) t.c, s.d.zipWith (· + ·) t.d⟩

def toList (s : ChaChaBlock) : List UInt32 :=
  s.a.toList ++ s.b.toList ++ s.c.toList ++ s.d.toList

end ChaChaBlock

/-- The state of the seeded source: the key in two rows, the number of the next block and
the words of the current one that are still to be handed out. -/
structure ChaCha where
  keyLow : ChaChaRow
  keyHigh : ChaChaRow
  counter : UInt64
  pending : List UInt32
  deriving DecidableEq, Repr

namespace ChaCha

/-- The words of a block. -/
def block (keyLow keyHigh : ChaChaRow) (counter : UInt64) : List UInt32 :=
  let start : ChaChaBlock :=
    ⟨⟨0x61707865, 0x3320646e, 0x79622d32, 0x6b206574⟩, keyLow, keyHigh,
      ⟨counter.toUInt32, (counter >>> 32).toUInt32, 0, 0⟩⟩
  (start.twelveRounds.add start).toList

/-- Hand out the next word, beginning a new block when the current one is used up. -/
def next (s : ChaCha) : UInt32 × ChaCha :=
  match s.pending with
  | w :: rest => (w, { s with pending := rest })
  | [] =>
    match block s.keyLow s.keyHigh s.counter with
    | w :: rest => (w, { s with counter := s.counter + 1, pending := rest })
    | [] => (0, s)

instance : RandomSource ChaCha := ⟨next⟩

/-! ## Seeding -/

/-- One step of the generator that expands a seed, and the key word it yields. -/
def expandStep (state : UInt64) : UInt32 × UInt64 :=
  let state := state * 6364136223846793005 + 11634580027462260723
  let x := (((state >>> 18) ^^^ state) >>> 27).toUInt32
  let k := (state >>> 59).toUInt32
  ((x >>> k) ||| (x <<< ((32 - k) % 32)), state)

/-- The source for a seed. -/
def ofSeed (seed : UInt64) : ChaCha :=
  let (k0, s) := expandStep seed
  let (k1, s) := expandStep s
  let (k2, s) := expandStep s
  let (k3, s) := expandStep s
  let (k4, s) := expandStep s
  let (k5, s) := expandStep s
  let (k6, s) := expandStep s
  let (k7, _) := expandStep s
  ⟨⟨k0, k1, k2, k3⟩, ⟨k4, k5, k6, k7⟩, 0, []⟩

end ChaCha
end LoadMonitor
