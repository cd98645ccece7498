/-!
The Keccak-256 digest of a row of bytes: 136 bytes at a time are added to a state of 25 words,
which a permutation of 24 rounds mixes.
-/

namespace WalletSync.Keccak256

/-- What each round adds to the first word. -/
def roundConstants : List UInt64 :=
  [0x0000000000000001, 0x0000000000008082, 0x800000000000808a, 0x8000000080008000,
   0x000000000000808b, 0x0000000080000001, 0x8000000080008081, 0x8000000000008009,
   0x000000000000008a, 0x0000000000000088, 0x0000000080008009, 0x000000008000000a,
   0x000000008000808b, 0x800000000000008b, 0x8000000000008089, 0x8000000000008003,
   0x8000000000008002, 0x8000000000000080, 0x000000000000800a, 0x800000008000000a,
   0x8000000080008081, 0x8000000000008080, 0x0000000080000001, 0x8000000080008008]

/-- By how many bits the word in column `x` and row `y` is rotated, at place `x + 5 * y`. -/
def offsets : List UInt64 :=
  [0, 1, 62, 28, 27, 36, 44, 6, 55, 20, 3, 10, 43, 25, 39, 41, 45, 15, 21, 8, 18, 2, 61, 56, 14]

def rotate (x n : UInt64) : UInt64 := if n = 0 then x else x <<< n ||| x >>> (64 - n)

/-- The word in column `x` and row `y`, both counted modulo five. -/
def lane (state : Array UInt64) (x y : Nat) : UInt64 := state.getD (x % 5 + 5 * (y % 5)) 0

def ofLanes (f : Nat → Nat → UInt64) : Array UInt64 :=
  Array.ofFn fun i : Fin 25 => f (i.val % 5) (i.val / 5)

/-- Adds to every word the parities of two neighbouring columns. -/
def mixColumns (state : Array UInt64) : Array UInt64 :=
  let parity := Array.ofFn fun x : Fin 5 =>
    (List.range 5).foldl (fun acc y => acc ^^^ lane state x.val y) 0
  ofLanes fun x y =>
    lane state x y ^^^ parity.getD ((x + 4) % 5) 0 ^^^ rotate (parity.getD ((x + 1) % 5) 0) 1

/-- Rotates every word and moves it to another place. -/
def scatter (state : Array UInt64) : Array UInt64 :=
  ofLanes fun x y =>
    let column := x + 3 * y
    rotate (lane state column x) (offsets.getD (column % 5 + 5 * x) 0)

/-- Combines every word with the next two of its row. -/
def mixRows (state : Array UInt64) : Array UInt64 :=
  ofLanes fun x y => lane state x y ^^^ (~~~lane state (x + 1) y &&& lane state (x + 2) y)

def round (state : Array UInt64) (constant : UInt64) : Array UInt64 :=
  let mixed := mixRows (scatter (mixColumns state))
  mixed.setIfInBounds 0 (lane mixed 0 0 ^^^ constant)

def permute (state : Array UInt64) : Array UInt64 := roundConstants.foldl round state

/-- How many bytes are taken in at a time. -/
def rate : Nat := 136

/-- The message, then a one bit, zeros and another one bit up to a whole number of blocks. -/
def pad (message : List UInt8) : List UInt8 :=
  let gap := rate - message.length % rate
  if gap = 1 then message ++ [0x81]
  else message ++ 0x01 :: List.replicate (gap - 2) 0 ++ [0x80]

/-- A word from eight bytes, the least significant one first. -/
def littleEndian (bytes : List UInt8) : UInt64 :=
  bytes.foldr (fun b acc => acc <<< 8 ||| b.toUInt64) 0

def absorb : Nat → Array UInt64 → List UInt8 → Array UInt64
  | 0, state, _ => state
  | count + 1, state, bytes =>
    let block := bytes.take rate
    let added := Array.ofFn fun i : Fin 25 =>
      state.getD i.val 0 ^^^ littleEndian ((block.drop (8 * i.val)).take 8)
    absorb count (permute added) (bytes.drop rate)

/-- The eight bytes of a word, the least significant one first. -/
def bytesOf (w : UInt64) : List UInt8 :=
  (List.range 8).map fun i => UInt8.ofNat ((w.toNat >>> (8 * i)) % 256)

def digest (message : List UInt8) : List UInt8 :=
  let padded := pad message
  let state := absorb (padded.length / rate) (Array.replicate 25 0) padded
  (state.toList.take 4).flatMap bytesOf

end WalletSync.Keccak256
