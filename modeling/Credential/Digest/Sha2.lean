import Credential.Digest.Blake2b

/-!
# SHA-2

The hash functions SHA-256, SHA-384 and SHA-512.  All three are one
construction; they differ in the width of a word, the number of rounds, the
rotation amounts, the words they begin with and the size of the output.
-/

namespace Credential.Digest

open Credential.Text (Octets)

/-- The members of the family that signatures use. -/
inductive Sha2 where
  | sha256
  | sha384
  | sha512
  deriving Repr, DecidableEq

namespace Sha2

/-- The cube roots of the first eighty primes: 64 bits after the point. -/
def cubeRoots : List Nat :=
  [0x428a2f98d728ae22, 0x7137449123ef65cd, 0xb5c0fbcfec4d3b2f, 0xe9b5dba58189dbbc,
    0x3956c25bf348b538, 0x59f111f1b605d019, 0x923f82a4af194f9b, 0xab1c5ed5da6d8118,
    0xd807aa98a3030242, 0x12835b0145706fbe, 0x243185be4ee4b28c, 0x550c7dc3d5ffb4e2,
    0x72be5d74f27b896f, 0x80deb1fe3b1696b1, 0x9bdc06a725c71235, 0xc19bf174cf692694,
    0xe49b69c19ef14ad2, 0xefbe4786384f25e3, 0x0fc19dc68b8cd5b5, 0x240ca1cc77ac9c65,
    0x2de92c6f592b0275, 0x4a7484aa6ea6e483, 0x5cb0a9dcbd41fbd4, 0x76f988da831153b5,
    0x983e5152ee66dfab, 0xa831c66d2db43210, 0xb00327c898fb213f, 0xbf597fc7beef0ee4,
    0xc6e00bf33da88fc2, 0xd5a79147930aa725, 0x06ca6351e003826f, 0x142929670a0e6e70,
    0x27b70a8546d22ffc, 0x2e1b21385c26c926, 0x4d2c6dfc5ac42aed, 0x53380d139d95b3df,
    0x650a73548baf63de, 0x766a0abb3c77b2a8, 0x81c2c92e47edaee6, 0x92722c851482353b,
    0xa2bfe8a14cf10364, 0xa81a664bbc423001, 0xc24b8b70d0f89791, 0xc76c51a30654be30,
    0xd192e819d6ef5218, 0xd69906245565a910, 0xf40e35855771202a, 0x106aa07032bbd1b8,
    0x19a4c116b8d2d0c8, 0x1e376c085141ab53, 0x2748774cdf8eeb99, 0x34b0bcb5e19b48a8,
    0x391c0cb3c5c95a63, 0x4ed8aa4ae3418acb, 0x5b9cca4f7763e373, 0x682e6ff3d6b2b8a3,
    0x748f82ee5defb2fc, 0x78a5636f43172f60, 0x84c87814a1f0ab72, 0x8cc702081a6439ec,
    0x90befffa23631e28, 0xa4506cebde82bde9, 0xbef9a3f7b2c67915, 0xc67178f2e372532b,
    0xca273eceea26619c, 0xd186b8c721c0c207, 0xeada7dd6cde0eb1e, 0xf57d4f7fee6ed178,
    0x06f067aa72176fba, 0x0a637dc5a2c898a6, 0x113f9804bef90dae, 0x1b710b35131c471b,
    0x28db77f523047d84, 0x32caab7b40c72493, 0x3c9ebe0a15c9bebc, 0x431d67c49c100d4c,
    0x4cc5d4becb3e42b6, 0x597f299cfc657e2a, 0x5fcb6fab3ad6faec, 0x6c44198c4a475817]

/-- The square roots of the first sixteen primes: 64 bits after the point. -/
def squareRoots : List Nat :=
  [0x6a09e667f3bcc908, 0xbb67ae8584caa73b, 0x3c6ef372fe94f82b, 0xa54ff53a5f1d36f1,
    0x510e527fade682d1, 0x9b05688c2b3e6c1f, 0x1f83d9abfb41bd6b, 0x5be0cd19137e2179,
    0xcbbb9d5dc1059ed8, 0x629a292a367cd507, 0x9159015a3070dd17, 0x152fecd8f70e5939,
    0x67332667ffc00b31, 0x8eb44a8768581511, 0xdb0c2e0d64f98fa7, 0x47b5481dbefa4fa4]

/-- Number of bits of a word. -/
def width : Sha2 → Nat
  | .sha256 => 32
  | _ => 64

/-- Number of rounds. -/
def rounds : Sha2 → Nat
  | .sha256 => 64
  | _ => 80

/-- Number of octets of the output. -/
def size : Sha2 → Nat
  | .sha256 => 32
  | .sha384 => 48
  | .sha512 => 64

/-- A word of the member. -/
abbrev Word (member : Sha2) := BitVec member.width

/-- The leading bits of a fraction of 64 bits. -/
def fraction (member : Sha2) (bits : Nat) : member.Word :=
  BitVec.ofNat member.width (bits >>> (64 - member.width))

/-- The words that a hash begins with. -/
def initialWords (member : Sha2) : List member.Word :=
  let roots :=
    match member with
    | .sha384 => squareRoots.drop 8
    | _ => squareRoots.take 8
  roots.map member.fraction

/-- Amounts of the rotations and of the shift in one mixing function. -/
structure Amounts where
  first : Nat
  second : Nat
  third : Nat
  deriving Repr, DecidableEq

/-- Amounts for the sums over the first and the fifth word. -/
def sumAmounts : Sha2 → Amounts × Amounts
  | .sha256 => (⟨2, 13, 22⟩, ⟨6, 11, 25⟩)
  | _ => (⟨28, 34, 39⟩, ⟨14, 18, 41⟩)

/-- Amounts for the two mixing functions of the schedule; the third one shifts. -/
def scheduleAmounts : Sha2 → Amounts × Amounts
  | .sha256 => (⟨7, 18, 3⟩, ⟨17, 19, 10⟩)
  | _ => (⟨1, 8, 7⟩, ⟨19, 61, 6⟩)

/-- Add three rotations of a word bit by bit. -/
def sum {width : Nat} (amounts : Amounts) (word : BitVec width) : BitVec width :=
  word.rotateRight amounts.first ^^^ word.rotateRight amounts.second ^^^
    word.rotateRight amounts.third

/-- Add two rotations and a shift of a word bit by bit. -/
def spread {width : Nat} (amounts : Amounts) (word : BitVec width) : BitVec width :=
  word.rotateRight amounts.first ^^^ word.rotateRight amounts.second ^^^
    (word >>> amounts.third)

/-- The eight words of the state. -/
structure State (width : Nat) where
  a : BitVec width
  b : BitVec width
  c : BitVec width
  d : BitVec width
  e : BitVec width
  f : BitVec width
  g : BitVec width
  h : BitVec width
  deriving Repr, DecidableEq

namespace State

/-- The state of eight words; words that are missing count as zero. -/
def ofWords {width : Nat} (words : List (BitVec width)) : State width :=
  let word (place : Nat) : BitVec width := words.getD place 0
  ⟨word 0, word 1, word 2, word 3, word 4, word 5, word 6, word 7⟩

/-- The words of a state in order. -/
def words {width : Nat} (state : State width) : List (BitVec width) :=
  [state.a, state.b, state.c, state.d, state.e, state.f, state.g, state.h]

end State

/-- The schedule of a block: each further word is made of four earlier ones. -/
def schedule (member : Sha2) (block : Array member.Word) : Array member.Word :=
  Nat.fold (member.rounds - 16)
    (fun offset _ (words : Array member.Word) =>
      let word (place : Nat) : member.Word := words.getD (offset + place) 0
      words.push
        (spread member.scheduleAmounts.2 (word 14) + word 9 +
          spread member.scheduleAmounts.1 (word 1) + word 0))
    block

/-- One round, with its word of the schedule and its constant already added. -/
def round (member : Sha2) (state : State member.width) (input : member.Word) :
    State member.width :=
  let choice := (state.e &&& state.f) ^^^ (~~~state.e &&& state.g)
  let majority :=
    (state.a &&& state.b) ^^^ (state.a &&& state.c) ^^^ (state.b &&& state.c)
  let first := state.h + sum member.sumAmounts.2 state.e + choice + input
  let second := sum member.sumAmounts.1 state.a + majority
  ⟨first + second, state.a, state.b, state.c, state.d + first, state.e, state.f, state.g⟩

/-- Mix one block of words into the state. -/
def compress
    (member : Sha2)
    (state : State member.width)
    (block : Array member.Word) :
    State member.width :=
  let inputs :=
    List.zipWith (fun word constant => word + member.fraction constant)
      (member.schedule block).toList cubeRoots
  let mixed := inputs.foldl member.round state
  State.ofWords (List.zipWith (· + ·) state.words mixed.words)

/-- Number of octets of a block. -/
def blockSize (member : Sha2) : Nat :=
  2 * member.width

/-- A message followed by a one bit, zeros, and its length in bits. -/
def pad (member : Sha2) (message : Octets) : Octets :=
  let lengthSize := member.width / 4
  let used := (message.length + 1 + lengthSize) % member.blockSize
  message ++ 0x80 :: List.replicate ((member.blockSize - used) % member.blockSize) 0 ++
    bigEndian lengthSize (8 * message.length)

/-- The words of a block. -/
def wordsOf (member : Sha2) (block : Octets) : Array member.Word :=
  Array.ofFn fun place : Fin 16 =>
    let octets := member.width / 8
    BitVec.ofNat member.width (ofBigEndian ((block.drop (octets * place)).take octets))

/-- Mix in `blocks` blocks. -/
def absorb (member : Sha2) : Nat → State member.width → Octets → State member.width
  | 0, state, _ => state
  | blocks + 1, state, octets =>
      absorb member blocks
        (member.compress state (member.wordsOf (octets.take member.blockSize)))
        (octets.drop member.blockSize)

/-- The hash of a message. -/
def hash (member : Sha2) (message : Octets) : Octets :=
  let padded := member.pad message
  let state :=
    member.absorb (padded.length / member.blockSize) (State.ofWords member.initialWords) padded
  (state.words.flatMap fun word => bigEndian (member.width / 8) word.toNat).take member.size

end Sha2

end Credential.Digest
