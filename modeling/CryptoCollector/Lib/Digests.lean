import Mathlib.Algebra.GroupWithZero.Nat
import Mathlib.Data.List.Basic

/-!
# SHA-256 and SHAKE-256

The two hashes of FIPS 180-4 and FIPS 202 over bytes, with words as natural numbers below a power
of two.

* `length_sha256`, `length_shake256`: the lengths of the digests.
-/

namespace Lib

/-! ## SHA-256 -/

namespace Sha256

/-- The round constants. -/
def roundConstants : List Nat :=
  [0x428a2f98, 0x71374491, 0xb5c0fbcf, 0xe9b5dba5, 0x3956c25b, 0x59f111f1, 0x923f82a4,
    0xab1c5ed5, 0xd807aa98, 0x12835b01, 0x243185be, 0x550c7dc3, 0x72be5d74, 0x80deb1fe,
    0x9bdc06a7, 0xc19bf174, 0xe49b69c1, 0xefbe4786, 0x0fc19dc6, 0x240ca1cc, 0x2de92c6f,
    0x4a7484aa, 0x5cb0a9dc, 0x76f988da, 0x983e5152, 0xa831c66d, 0xb00327c8, 0xbf597fc7,
    0xc6e00bf3, 0xd5a79147, 0x06ca6351, 0x14292967, 0x27b70a85, 0x2e1b2138, 0x4d2c6dfc,
    0x53380d13, 0x650a7354, 0x766a0abb, 0x81c2c92e, 0x92722c85, 0xa2bfe8a1, 0xa81a664b,
    0xc24b8b70, 0xc76c51a3, 0xd192e819, 0xd6990624, 0xf40e3585, 0x106aa070, 0x19a4c116,
    0x1e376c08, 0x2748774c, 0x34b0bcb5, 0x391c0cb3, 0x4ed8aa4a, 0x5b9cca4f, 0x682e6ff3,
    0x748f82ee, 0x78a5636f, 0x84c87814, 0x8cc70208, 0x90befffa, 0xa4506ceb, 0xbef9a3f7,
    0xc67178f2]

/-- The working variables. -/
structure State where
  a : Nat
  b : Nat
  c : Nat
  d : Nat
  e : Nat
  f : Nat
  g : Nat
  h : Nat

/-- The initial state. -/
def initial : State :=
  ⟨0x6a09e667, 0xbb67ae85, 0x3c6ef372, 0xa54ff53a, 0x510e527f, 0x9b05688c, 0x1f83d9ab, 0x5be0cd19⟩

/-- A sum of words. -/
def add (x y : Nat) : Nat := (x + y) % 2 ^ 32

/-- Rotation to the right. -/
def rotateRight (n x : Nat) : Nat := (x >>> n) ||| (x <<< (32 - n)) % 2 ^ 32

/-- A word of four bytes. -/
def word (bytes : List UInt8) : Nat := bytes.foldl (fun n b => 256 * n + b.toNat) 0

/-- The bytes of a word. -/
def wordBytes (n : Nat) : List UInt8 :=
  [(n >>> 24).toUInt8, (n >>> 16).toUInt8, (n >>> 8).toUInt8, n.toUInt8]

/-- The next word of the message schedule, from the last ones, the newest first. -/
def nextWord (words : List Nat) : Nat :=
  let x := words.getD 14 0
  let y := words.getD 1 0
  let sigma0 := rotateRight 7 x ^^^ rotateRight 18 x ^^^ (x >>> 3)
  let sigma1 := rotateRight 17 y ^^^ rotateRight 19 y ^^^ (y >>> 10)
  add (add (words.getD 15 0) sigma0) (add (words.getD 6 0) sigma1)

/-- The message schedule, the newest word first. -/
def extend : Nat → List Nat → List Nat
  | 0, words => words
  | n + 1, words => extend n (nextWord words :: words)

/-- One round. -/
def step (s : State) (kw : Nat × Nat) : State :=
  let sum1 := rotateRight 6 s.e ^^^ rotateRight 11 s.e ^^^ rotateRight 25 s.e
  let choice := (s.e &&& s.f) ^^^ ((2 ^ 32 - 1 - s.e) &&& s.g)
  let first := add (add s.h sum1) (add (add choice kw.1) kw.2)
  let sum0 := rotateRight 2 s.a ^^^ rotateRight 13 s.a ^^^ rotateRight 22 s.a
  let majority := (s.a &&& s.b) ^^^ (s.a &&& s.c) ^^^ (s.b &&& s.c)
  ⟨add first (add sum0 majority), s.a, s.b, s.c, add s.d first, s.e, s.f, s.g⟩

/-- The sum of two states. -/
def State.add (s t : State) : State :=
  ⟨Sha256.add s.a t.a, Sha256.add s.b t.b, Sha256.add s.c t.c, Sha256.add s.d t.d,
    Sha256.add s.e t.e, Sha256.add s.f t.f, Sha256.add s.g t.g, Sha256.add s.h t.h⟩

/-- The consecutive parts of some length. -/
def parts {α : Type} (length : Nat) : Nat → List α → List (List α)
  | 0, _ => []
  | count + 1, xs => xs.take length :: parts length count (xs.drop length)

/-- The compression of a block. -/
def compress (s : State) (block : List UInt8) : State :=
  let words := (extend 48 ((parts 4 16 block).map word).reverse).reverse
  s.add ((roundConstants.zip words).foldl step s)

/-- The padded message. -/
def pad (data : List UInt8) : List UInt8 :=
  let bits := 8 * data.length
  data ++ ((0x80 : UInt8) :: List.replicate ((119 - data.length % 64) % 64) 0) ++
    wordBytes (bits >>> 32) ++ wordBytes bits

/-- The bytes of a state. -/
def State.bytes (s : State) : List UInt8 :=
  wordBytes s.a ++ wordBytes s.b ++ wordBytes s.c ++ wordBytes s.d ++ wordBytes s.e ++
    wordBytes s.f ++ wordBytes s.g ++ wordBytes s.h

end Sha256

/-- SHA-256. -/
def sha256 (data : List UInt8) : List UInt8 :=
  let padded := Sha256.pad data
  ((Sha256.parts 64 (padded.length / 64) padded).foldl Sha256.compress Sha256.initial).bytes

theorem length_sha256 (data : List UInt8) : (sha256 data).length = 32 := rfl

example : sha256 [97, 98, 99] =
    [0xba, 0x78, 0x16, 0xbf, 0x8f, 0x01, 0xcf, 0xea, 0x41, 0x41, 0x40, 0xde, 0x5d, 0xae, 0x22, 0x23,
      0xb0, 0x03, 0x61, 0xa3, 0x96, 0x17, 0x7a, 0x9c, 0xb4, 0x10, 0xff, 0x61, 0xf2, 0x00, 0x15,
      0xad] := by
  decide +kernel

/-! ## SHAKE-256 -/

namespace Keccak

/-- The round constants. -/
def roundConstants : List Nat :=
  [0x0000000000000001, 0x0000000000008082, 0x800000000000808a, 0x8000000080008000,
    0x000000000000808b, 0x0000000080000001, 0x8000000080008081, 0x8000000000008009,
    0x000000000000008a, 0x0000000000000088, 0x0000000080008009, 0x000000008000000a,
    0x000000008000808b, 0x800000000000008b, 0x8000000000008089, 0x8000000000008003,
    0x8000000000008002, 0x8000000000000080, 0x000000000000800a, 0x800000008000000a,
    0x8000000080008081, 0x8000000000008080, 0x0000000080000001, 0x8000000080008008]

/-- The rotation of every lane; the lane `(x, y)` has the index `x + 5 * y`. -/
def offsets : List Nat :=
  [0, 1, 62, 28, 27, 36, 44, 6, 55, 20, 3, 10, 43, 25, 39, 41, 45, 15, 21, 8, 18, 2, 61, 56, 14]

/-- Rotation to the left. -/
def rotateLeft (n x : Nat) : Nat := (x <<< n) % 2 ^ 64 ||| (x >>> (64 - n))

/-- A lane of a state. -/
def lane (lanes : List Nat) (x y : Nat) : Nat := lanes.getD (x % 5 + 5 * (y % 5)) 0

/-- A state, from its lanes. -/
def ofLanes (f : Nat → Nat → Nat) : List Nat := (List.range 25).map fun i => f (i % 5) (i / 5)

/-- One round. -/
def step (lanes : List Nat) (roundConstant : Nat) : List Nat :=
  let columns := (List.range 5).map fun x =>
    lane lanes x 0 ^^^ lane lanes x 1 ^^^ lane lanes x 2 ^^^ lane lanes x 3 ^^^ lane lanes x 4
  let theta := ofLanes fun x y =>
    lane lanes x y ^^^ columns.getD ((x + 4) % 5) 0 ^^^ rotateLeft 1 (columns.getD ((x + 1) % 5) 0)
  -- The lane `(x, y)` moves to `(y, 2 * x + 3 * y)`.
  let moved := ofLanes fun x y =>
    rotateLeft (lane offsets (x + 3 * y) x) (lane theta (x + 3 * y) x)
  let chi := ofLanes fun x y =>
    lane moved x y ^^^ ((2 ^ 64 - 1 - lane moved (x + 1) y) &&& lane moved (x + 2) y)
  chi.set 0 (chi.getD 0 0 ^^^ roundConstant)

/-- The permutation. -/
def permute (lanes : List Nat) : List Nat := roundConstants.foldl step lanes

/-- A lane of eight bytes, the lowest first. -/
def ofBytes (bytes : List UInt8) : Nat := bytes.foldr (fun b n => 256 * n + b.toNat) 0

/-- Absorb a block. -/
def absorb (lanes : List Nat) (block : List UInt8) : List Nat :=
  permute ((List.range 25).map fun i =>
    lanes.getD i 0 ^^^ ofBytes ((block.drop (8 * i)).take 8))

/-- A byte of a state. -/
def byte (lanes : List Nat) (i : Nat) : UInt8 := ((lanes.getD (i / 8) 0) >>> (8 * (i % 8))).toUInt8

/-- The states that are squeezed. -/
def squeeze : Nat → List Nat → List (List Nat)
  | 0, _ => []
  | count + 1, lanes => lanes :: squeeze count (permute lanes)

/-- The padded message of a rate of 136 bytes. -/
def pad (data : List UInt8) : List UInt8 :=
  let free := 136 - data.length % 136
  if free = 1 then data ++ [0x9f] else
    data ++ ((0x1f : UInt8) :: List.replicate (free - 2) 0) ++ [0x80]

end Keccak

/-- SHAKE-256. -/
def shake256 (data : List UInt8) (length : Nat) : List UInt8 :=
  let padded := Keccak.pad data
  let absorbed := (Sha256.parts 136 (padded.length / 136) padded).foldl Keccak.absorb
    (List.replicate 25 0)
  let states := Keccak.squeeze (length / 136 + 1) absorbed
  (List.range length).map fun i => Keccak.byte (states.getD (i / 136) []) (i % 136)

theorem length_shake256 (data : List UInt8) (length : Nat) :
    (shake256 data length).length = length := by
  rw [shake256, List.length_map, List.length_range]

example : shake256 [] 4 = [0x46, 0xb9, 0xdd, 0x2b] := by decide +kernel

end Lib
