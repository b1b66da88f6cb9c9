import PartialCnf.Random.Source
import PartialCnf.Random.Pcg

/-!
The ChaCha stream cipher with eight rounds as a source of words. A block is the 16-word state
(four constants, eight key words, a 64-bit block counter in two words, and two zero nonce
words) after four double rounds, added word by word to the state it started from. The stream
is block 0, block 1, … read word by word.
-/

namespace PartialCnf

namespace Random

namespace ChaCha

/-- A ChaCha state of 16 words. -/
abbrev Block := Vector UInt32 16

def rotateLeft (x r : UInt32) : UInt32 :=
  (x <<< r) ||| (x >>> (32 - r))

def quarter (s : Block) (a b c d : Fin 16) : Block :=
  let va := s[a] + s[b]
  let vd := rotateLeft (s[d] ^^^ va) 16
  let vc := s[c] + vd
  let vb := rotateLeft (s[b] ^^^ vc) 12
  let va := va + vb
  let vd := rotateLeft (vd ^^^ va) 8
  let vc := vc + vd
  let vb := rotateLeft (vb ^^^ vc) 7
  (((s.set a va).set b vb).set c vc).set d vd

def doubleRound (s : Block) : Block :=
  let s := quarter s 0 4 8 12
  let s := quarter s 1 5 9 13
  let s := quarter s 2 6 10 14
  let s := quarter s 3 7 11 15
  let s := quarter s 0 5 10 15
  let s := quarter s 1 6 11 12
  let s := quarter s 2 7 8 13
  quarter s 3 4 9 14

def initial (key : Vector UInt32 8) (counter : Nat) : Block :=
  #v[0x61707865, 0x3320646e, 0x79622d32, 0x6b206574,
    key[0], key[1], key[2], key[3], key[4], key[5], key[6], key[7],
    (counter % wordCount).toUInt32, (counter / wordCount % wordCount).toUInt32, 0, 0]

/-- The output block: four double rounds added to the starting state. -/
def block (key : Vector UInt32 8) (counter : Nat) : Block :=
  let s := initial key counter
  let t := doubleRound (doubleRound (doubleRound (doubleRound s)))
  Vector.zipWith (· + ·) t s

end ChaCha

/-- A position in the ChaCha8 stream of a key: the next block to compute and the words left of
the current one. -/
structure ChaCha where
  key : Vector UInt32 8
  counter : Nat
  pending : List UInt32

namespace ChaCha

def ofKey (key : Vector UInt32 8) : ChaCha :=
  ⟨key, 0, []⟩

/-- The stream whose key a 64-bit seed expands to. -/
def seeded (seed : UInt64) : ChaCha :=
  let k := Pcg.key seed
  ofKey (Vector.ofFn fun i : Fin 8 => k.getD i.val 0)

/-- The next word, computing a new block when the current one is used up. -/
def next (g : ChaCha) : UInt32 × ChaCha :=
  match g.pending with
  | w :: rest => (w, { g with pending := rest })
  | [] =>
    match (block g.key g.counter).toList with
    | w :: rest => (w, { g with counter := g.counter + 1, pending := rest })
    | [] => (0, { g with counter := g.counter + 1 })

instance : WordSource ChaCha := ⟨next⟩

end ChaCha

end Random

end PartialCnf
