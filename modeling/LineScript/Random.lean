/-!
Pseudo-random integers from a twisted shift register of 624 words. A seed of any size is spread
over the words; equal seeds give equal sequences.
-/

namespace LineScript

/-- The words of the register and the index of the next one to use. -/
structure Generator where
  words : Array UInt32
  next : Nat
deriving Inhabited

namespace Generator

def size : Nat := 624

def distance : Nat := 397

def word (words : Array UInt32) (i : Nat) : UInt32 :=
  words.getD i 0

def plainWords (last : UInt32) (filled : Nat) : (count : Nat) → List UInt32
  | 0 => []
  | count + 1 =>
      let value : UInt32 := (1812433253 : UInt32) * (last ^^^ (last >>> 30)) + filled.toUInt32
      value :: plainWords value (filled + 1) count

def ofWord (seed : UInt32) : Array UInt32 :=
  (seed :: plainWords seed 1 (size - 1)).toArray

def keyWords (n : Nat) : List UInt32 :=
  if n < 4294967296 then [n.toUInt32] else n.toUInt32 :: keyWords (n / 4294967296)

def wrap (words : Array UInt32) (i : Nat) : Array UInt32 × Nat :=
  if i < size then (words, i) else (words.setIfInBounds 0 (word words (size - 1)), 1)

/-- Mixes the key into the words from position `i` on, taking the key words in turn from the
`j`th. -/
def mixKey (key : Array UInt32) : (count : Nat) → Array UInt32 → Nat → Nat → Array UInt32 × Nat
  | 0, words, i, _ => (words, i)
  | count + 1, words, i, j =>
      let last := word words (i - 1)
      let value : UInt32 := (word words i ^^^ ((last ^^^ (last >>> 30)) * (1664525 : UInt32))) +
        word key j + j.toUInt32
      let (words, i) := wrap (words.setIfInBounds i value) (i + 1)
      mixKey key count words i (if j + 1 < key.size then j + 1 else 0)

def mixPlain : (count : Nat) → Array UInt32 → Nat → Array UInt32
  | 0, words, _ => words
  | count + 1, words, i =>
      let last := word words (i - 1)
      let value : UInt32 :=
        (word words i ^^^ ((last ^^^ (last >>> 30)) * (1566083941 : UInt32))) - i.toUInt32
      let (words, i) := wrap (words.setIfInBounds i value) (i + 1)
      mixPlain count words i

def ofSeed (seed : Int) : Generator :=
  let key := (keyWords seed.natAbs).toArray
  let (words, i) := mixKey key (max size key.size) (ofWord 19650218) 1 0
  let words := mixPlain (size - 1) words i
  ⟨words.setIfInBounds 0 0x80000000, size⟩

def twist (words : Array UInt32) (i : Nat) : UInt32 :=
  let joined := (word words i &&& 0x80000000) ||| (word words ((i + 1) % size) &&& 0x7FFFFFFF)
  let mask : UInt32 := if joined &&& 1 == 0 then 0 else 0x9908B0DF
  word words ((i + distance) % size) ^^^ (joined >>> 1) ^^^ mask

def regenerate : (count : Nat) → Array UInt32 → Nat → Array UInt32
  | 0, words, _ => words
  | count + 1, words, i => regenerate count (words.setIfInBounds i (twist words i)) (i + 1)

def temper (y : UInt32) : UInt32 :=
  let y := y ^^^ (y >>> 11)
  let y := y ^^^ ((y <<< 7) &&& 0x9D2C5680)
  let y := y ^^^ ((y <<< 15) &&& 0xEFC60000)
  y ^^^ (y >>> 18)

def nextWord (g : Generator) : UInt32 × Generator :=
  let g := if g.next < size then g else ⟨regenerate size g.words 0, 0⟩
  (temper (word g.words g.next), { g with next := g.next + 1 })

/-- The next `bits` random bits as a number; whole words come first, least significant ones
first. -/
def nextBits (g : Generator) (bits : Nat) : Nat × Generator :=
  if bits == 0 then (0, g)
  else
    let (w, g) := g.nextWord
    if bits ≤ 32 then ((w >>> (32 - bits).toUInt32).toNat, g)
    else
      let (rest, g) := nextBits g (bits - 32)
      (w.toNat + rest * 4294967296, g)
termination_by bits

def belowWithin (bound bits : Nat) : (fuel : Nat) → Generator → Nat × Generator
  | 0, g => (0, g)
  | fuel + 1, g =>
      let (value, g) := g.nextBits bits
      if value < bound then (value, g) else belowWithin bound bits fuel g

/-- How often a draw is repeated. Each attempt succeeds with probability at least one half. -/
def attempts : Nat := 10000

def below (g : Generator) (bound : Nat) : Nat × Generator :=
  belowWithin bound (bound.log2 + 1) attempts g

def between (g : Generator) (low high : Int) : Int × Generator :=
  let (value, g) := g.below (high - low + 1).toNat
  (low + value, g)

end Generator

end LineScript
