import Credential.Text.Utf8

/-!
# BLAKE2b

The unkeyed hash function BLAKE2b with an output of 1 to 64 octets.
-/

namespace Credential.Digest

open Credential.Text (Octets)

/-- The low `count` octets of a number, least first. -/
def littleEndian (count value : Nat) : Octets :=
  (List.range count).map fun place => UInt8.ofNat (value >>> (8 * place))

/-- The number that octets write, least first. -/
def ofLittleEndian (octets : Octets) : Nat :=
  octets.foldr (fun octet value => value * 256 + octet.toNat) 0

/-- The low `count` octets of a number, greatest first. -/
def bigEndian (count value : Nat) : Octets :=
  (littleEndian count value).reverse

/-- The number that octets write, greatest first. -/
def ofBigEndian (octets : Octets) : Nat :=
  octets.foldl (fun value octet => value * 256 + octet.toNat) 0

/-- Sixteen words that one round mixes. -/
structure Lanes where
  w0 : UInt64
  w1 : UInt64
  w2 : UInt64
  w3 : UInt64
  w4 : UInt64
  w5 : UInt64
  w6 : UInt64
  w7 : UInt64
  w8 : UInt64
  w9 : UInt64
  w10 : UInt64
  w11 : UInt64
  w12 : UInt64
  w13 : UInt64
  w14 : UInt64
  w15 : UInt64
  deriving Repr, DecidableEq

/-- Four words that one mixing step changes. -/
structure Quarter where
  a : UInt64
  b : UInt64
  c : UInt64
  d : UInt64
  deriving Repr, DecidableEq

/-- Rotate a word to the right by less than 64 places. -/
@[inline] def rotateRight (word amount : UInt64) : UInt64 :=
  (word >>> amount) ||| (word <<< (64 - amount))

namespace Blake2b

/-- The eight words that begin a hash, before the parameters are mixed in. -/
def initialWords : List UInt64 :=
  [0x6a09e667f3bcc908, 0xbb67ae8584caa73b, 0x3c6ef372fe94f82b, 0xa54ff53a5f1d36f1,
    0x510e527fade682d1, 0x9b05688c2b3e6c1f, 0x1f83d9abfb41bd6b, 0x5be0cd19137e2179]

/-- The order in which each of the twelve rounds takes the message words. -/
def schedule : List (List Nat) :=
  [[0, 1, 2, 3, 4, 5, 6, 7, 8, 9, 10, 11, 12, 13, 14, 15],
    [14, 10, 4, 8, 9, 15, 13, 6, 1, 12, 0, 2, 11, 7, 5, 3],
    [11, 8, 12, 0, 5, 2, 15, 13, 10, 14, 3, 6, 7, 1, 9, 4],
    [7, 9, 3, 1, 13, 12, 11, 14, 2, 6, 5, 10, 4, 0, 15, 8],
    [9, 0, 5, 7, 2, 4, 10, 15, 14, 1, 11, 12, 6, 8, 3, 13],
    [2, 12, 6, 10, 0, 11, 8, 3, 4, 13, 7, 5, 15, 14, 1, 9],
    [12, 5, 1, 15, 14, 13, 4, 10, 0, 7, 6, 3, 9, 2, 8, 11],
    [13, 11, 7, 14, 12, 1, 3, 9, 5, 0, 15, 4, 8, 6, 2, 10],
    [6, 15, 14, 9, 11, 3, 0, 8, 12, 2, 13, 7, 1, 4, 10, 5],
    [10, 2, 8, 4, 7, 6, 1, 5, 15, 11, 9, 14, 3, 12, 13, 0],
    [0, 1, 2, 3, 4, 5, 6, 7, 8, 9, 10, 11, 12, 13, 14, 15],
    [14, 10, 4, 8, 9, 15, 13, 6, 1, 12, 0, 2, 11, 7, 5, 3]]

/-- Mix two message words into four words of the state. -/
def mix (a b c d x y : UInt64) : Quarter :=
  let a := a + b + x
  let d := rotateRight (d ^^^ a) 32
  let c := c + d
  let b := rotateRight (b ^^^ c) 24
  let a := a + b + y
  let d := rotateRight (d ^^^ a) 16
  let c := c + d
  let b := rotateRight (b ^^^ c) 63
  ⟨a, b, c, d⟩

/-- One round: the columns, then the diagonals, with sixteen message words. -/
def round (state : Lanes) (message : Nat → UInt64) : Lanes :=
  let p := mix state.w0 state.w4 state.w8 state.w12 (message 0) (message 1)
  let q := mix state.w1 state.w5 state.w9 state.w13 (message 2) (message 3)
  let r := mix state.w2 state.w6 state.w10 state.w14 (message 4) (message 5)
  let s := mix state.w3 state.w7 state.w11 state.w15 (message 6) (message 7)
  let t := mix p.a q.b r.c s.d (message 8) (message 9)
  let u := mix q.a r.b s.c p.d (message 10) (message 11)
  let v := mix r.a s.b p.c q.d (message 12) (message 13)
  let w := mix s.a p.b q.c r.d (message 14) (message 15)
  ⟨t.a, u.a, v.a, w.a, w.b, t.b, u.b, v.b, v.c, w.c, t.c, u.c, u.d, v.d, w.d, t.d⟩

/-- Mix one block of sixteen words into the chaining words. -/
def compress
    (chain : Array UInt64)
    (block : Array UInt64)
    (count : Nat)
    (last : Bool) :
    Array UInt64 :=
  let start (place : Nat) : UInt64 := initialWords.getD place 0
  let word (place : Nat) : UInt64 := chain.getD place 0
  let state : Lanes :=
    ⟨word 0, word 1, word 2, word 3, word 4, word 5, word 6, word 7,
      start 0, start 1, start 2, start 3,
      start 4 ^^^ UInt64.ofNat count, start 5 ^^^ UInt64.ofNat (count >>> 64),
      if last then start 6 ^^^ 0xFFFFFFFFFFFFFFFF else start 6, start 7⟩
  let mixed :=
    schedule.foldl
      (fun state order => round state fun place => block.getD (order.getD place 0) 0)
      state
  #[word 0 ^^^ mixed.w0 ^^^ mixed.w8, word 1 ^^^ mixed.w1 ^^^ mixed.w9,
    word 2 ^^^ mixed.w2 ^^^ mixed.w10, word 3 ^^^ mixed.w3 ^^^ mixed.w11,
    word 4 ^^^ mixed.w4 ^^^ mixed.w12, word 5 ^^^ mixed.w5 ^^^ mixed.w13,
    word 6 ^^^ mixed.w6 ^^^ mixed.w14, word 7 ^^^ mixed.w7 ^^^ mixed.w15]

/-- The first `count` words of eight octets each; octets that are missing count as zero. -/
def wordsOf : Nat → Octets → List UInt64
  | 0, _ => []
  | count + 1, octets =>
      UInt64.ofNat (ofLittleEndian (octets.take 8)) :: wordsOf count (octets.drop 8)

/-- Mix in `blocks` full blocks and then the last one, which may be short. -/
def absorb : Nat → Array UInt64 → Nat → Octets → Array UInt64
  | 0, chain, count, octets =>
      compress chain (wordsOf 16 octets).toArray (count + octets.length) true
  | blocks + 1, chain, count, octets =>
      absorb blocks
        (compress chain (wordsOf 16 (octets.take 128)).toArray (count + 128) false)
        (count + 128)
        (octets.drop 128)

/-- The hash of a message with an output of `size` octets. -/
def hash (size : Nat) (message : Octets) : Octets :=
  let start :=
    (initialWords.mapIdx fun place word =>
      if place = 0 then word ^^^ 0x01010000 ^^^ UInt64.ofNat size else word).toArray
  let chain := absorb ((message.length - 1) / 128) start 0 message
  (chain.toList.flatMap fun word => littleEndian 8 word.toNat).take size

end Blake2b

end Credential.Digest
