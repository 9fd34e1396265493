/-!
The 64-bit hash XXH3 with seed zero and the default secret. Inputs of up to sixteen, 128 and 240
bytes have rules of their own; longer inputs are folded into eight lanes, a stripe of 64 bytes at a
time.
-/

set_option autoImplicit false
set_option relaxedAutoImplicit false

namespace SceneRenderer.Xxh3

def secret : Array UInt8 :=
  #[0xb8, 0xfe, 0x6c, 0x39, 0x23, 0xa4, 0x4b, 0xbe, 0x7c, 0x01, 0x81, 0x2c, 0xf7, 0x21, 0xad, 0x1c,
    0xde, 0xd4, 0x6d, 0xe9, 0x83, 0x90, 0x97, 0xdb, 0x72, 0x40, 0xa4, 0xa4, 0xb7, 0xb3, 0x67, 0x1f,
    0xcb, 0x79, 0xe6, 0x4e, 0xcc, 0xc0, 0xe5, 0x78, 0x82, 0x5a, 0xd0, 0x7d, 0xcc, 0xff, 0x72, 0x21,
    0xb8, 0x08, 0x46, 0x74, 0xf7, 0x43, 0x24, 0x8e, 0xe0, 0x35, 0x90, 0xe6, 0x81, 0x3a, 0x26, 0x4c,
    0x3c, 0x28, 0x52, 0xbb, 0x91, 0xc3, 0x00, 0xcb, 0x88, 0xd0, 0x65, 0x8b, 0x1b, 0x53, 0x2e, 0xa3,
    0x71, 0x64, 0x48, 0x97, 0xa2, 0x0d, 0xf9, 0x4e, 0x38, 0x19, 0xef, 0x46, 0xa9, 0xde, 0xac, 0xd8,
    0xa8, 0xfa, 0x76, 0x3f, 0xe3, 0x9c, 0x34, 0x3f, 0xf9, 0xdc, 0xbb, 0xc7, 0xc7, 0x0b, 0x4f, 0x1d,
    0x8a, 0x51, 0xe0, 0x4b, 0xcd, 0xb4, 0x59, 0x31, 0xc8, 0x9f, 0x7e, 0xc9, 0xd9, 0x78, 0x73, 0x64,
    0xea, 0xc5, 0xac, 0x83, 0x34, 0xd3, 0xeb, 0xc3, 0xc5, 0x81, 0xa0, 0xff, 0xfa, 0x13, 0x63, 0xeb,
    0x17, 0x0d, 0xdd, 0x51, 0xb7, 0xf0, 0xda, 0x49, 0xd3, 0x16, 0x55, 0x26, 0x29, 0xd4, 0x68, 0x9e,
    0x2b, 0x16, 0xbe, 0x58, 0x7d, 0x47, 0xa1, 0xfc, 0x8f, 0xf8, 0xb8, 0xd1, 0x7a, 0xd0, 0x31, 0xce,
    0x45, 0xcb, 0x3a, 0x8f, 0x95, 0x16, 0x04, 0x28, 0xaf, 0xd7, 0xfb, 0xca, 0xbb, 0x4b, 0x40, 0x7e]

def prime32a : UInt64 := 0x9E3779B1

def prime32b : UInt64 := 0x85EBCA77

def prime32c : UInt64 := 0xC2B2AE3D

def prime64a : UInt64 := 0x9E3779B185EBCA87

def prime64b : UInt64 := 0xC2B2AE3D27D4EB4F

def prime64c : UInt64 := 0x165667B19E3779F9

def prime64d : UInt64 := 0x85EBCA77C2B2AE63

def prime64e : UInt64 := 0x27D4EB2F165667C5

def mixer : UInt64 := 0x165667919E3779F9

def shortMixer : UInt64 := 0x9FB21C651E98DF25

def byteAt (bytes : Array UInt8) (i : Nat) : UInt64 := (bytes.getD i 0).toUInt64

/-- The word of four bytes at a position, least significant byte first. -/
def read32 (bytes : Array UInt8) (i : Nat) : UInt64 :=
  byteAt bytes i ||| byteAt bytes (i + 1) <<< 8 ||| byteAt bytes (i + 2) <<< 16 |||
    byteAt bytes (i + 3) <<< 24

/-- The word of eight bytes at a position, least significant byte first. -/
def read64 (bytes : Array UInt8) (i : Nat) : UInt64 :=
  read32 bytes i ||| read32 bytes (i + 4) <<< 32

def rotateLeft (x : UInt64) (n : UInt64) : UInt64 := x <<< n ||| x >>> (64 - n)

def swapBytes (x : UInt64) : UInt64 :=
  (List.range 8).foldl (fun acc i => acc <<< 8 ||| x >>> (8 * UInt64.ofNat i) &&& 0xff) 0

/-- The halves of the full product, combined. -/
def foldProduct (a b : UInt64) : UInt64 :=
  let product := a.toNat * b.toNat
  UInt64.ofNat product ^^^ UInt64.ofNat (product / UInt64.size)

def avalanche (h : UInt64) : UInt64 :=
  let h := (h ^^^ h >>> 37) * mixer
  h ^^^ h >>> 32

def strongAvalanche (h : UInt64) : UInt64 :=
  let h := (h ^^^ h >>> 33) * prime64b
  let h := (h ^^^ h >>> 29) * prime64c
  h ^^^ h >>> 32

/-- Mixes sixteen bytes of input with sixteen of the secret. -/
def mix16 (input : Array UInt8) (i j : Nat) : UInt64 :=
  foldProduct (read64 input i ^^^ read64 secret j) (read64 input (i + 8) ^^^ read64 secret (j + 8))

def hashUpTo3 (input : Array UInt8) : UInt64 :=
  let n := input.size
  let combined := byteAt input 0 <<< 16 ||| byteAt input (n / 2) <<< 24 ||| byteAt input (n - 1) |||
    UInt64.ofNat n <<< 8
  strongAvalanche (combined ^^^ (read32 secret 0 ^^^ read32 secret 4))

def hashUpTo8 (input : Array UInt8) : UInt64 :=
  let n := input.size
  let flip := read64 secret 8 ^^^ read64 secret 16
  let keyed := (read32 input (n - 4) + read32 input 0 <<< 32) ^^^ flip
  let h := (keyed ^^^ rotateLeft keyed 49 ^^^ rotateLeft keyed 24) * shortMixer
  let h := (h ^^^ (h >>> 35 + UInt64.ofNat n)) * shortMixer
  h ^^^ h >>> 28

def hashUpTo16 (input : Array UInt8) : UInt64 :=
  let n := input.size
  let low := read64 input 0 ^^^ (read64 secret 24 ^^^ read64 secret 32)
  let high := read64 input (n - 8) ^^^ (read64 secret 40 ^^^ read64 secret 48)
  avalanche (UInt64.ofNat n + swapBytes low + high + foldProduct low high)

/-- Pairs of sixteen bytes, one from either end. -/
def hashUpTo128 (input : Array UInt8) : UInt64 :=
  let n := input.size
  let rounds := (n - 1) / 32 + 1
  avalanche <| (List.range rounds).foldl
    (fun acc i => acc + mix16 input (16 * i) (32 * i) +
      mix16 input (n - 16 * (i + 1)) (32 * i + 16))
    (UInt64.ofNat n * prime64a)

def hashUpTo240 (input : Array UInt8) : UInt64 :=
  let n := input.size
  let start := (List.range 8).foldl (fun acc i => acc + mix16 input (16 * i) (16 * i))
    (UInt64.ofNat n * prime64a)
  let rest := (List.range (n / 16 - 8)).foldl
    (fun acc i => acc + mix16 input (16 * (i + 8)) (16 * i + 3)) (avalanche start)
  avalanche (rest + mix16 input (n - 16) 119)

/-- Eight running sums. -/
abbrev Lanes := Array UInt64

def startLanes : Lanes :=
  #[prime32c, prime64a, prime64b, prime64c, prime64d, prime32b, prime64e, prime32a]

/-- Adds a stripe of input; every word also goes to the neighbour of its lane. -/
def addStripe (input : Array UInt8) (i j : Nat) (lanes : Lanes) : Lanes :=
  lanes.mapIdx fun (k : Nat) (lane : UInt64) =>
    let key : UInt64 := read64 input (i + 8 * k) ^^^ read64 secret (j + 8 * k)
    let other : Nat := if k % 2 = 0 then k + 1 else k - 1
    lane + read64 input (i + 8 * other) + (key &&& (0xffffffff : UInt64)) * (key >>> 32)

def scramble (lanes : Lanes) : Lanes :=
  lanes.mapIdx fun (k : Nat) (lane : UInt64) =>
    (lane ^^^ lane >>> 47 ^^^ read64 secret (128 + 8 * k)) * prime32a

/-- Adds some stripes in a row. -/
def addStripes (input : Array UInt8) (start count : Nat) (lanes : Lanes) : Lanes :=
  (List.range count).foldl (fun lanes k => addStripe input (start + 64 * k) (8 * k) lanes) lanes

def hashLong (input : Array UInt8) : UInt64 :=
  let n := input.size
  let blocks := (n - 1) / 1024
  let lanes := (List.range blocks).foldl
    (fun lanes b => scramble (addStripes input (1024 * b) 16 lanes)) startLanes
  let lanes := addStripes input (1024 * blocks) ((n - 1 - 1024 * blocks) / 64) lanes
  let lanes := addStripe input (n - 64) 121 lanes
  avalanche <| (List.range 4).foldl
    (fun acc i => acc + foldProduct (lanes.getD (2 * i) 0 ^^^ read64 secret (11 + 16 * i))
      (lanes.getD (2 * i + 1) 0 ^^^ read64 secret (19 + 16 * i)))
    (UInt64.ofNat n * prime64a)

def hash (input : Array UInt8) : UInt64 :=
  let n := input.size
  if n = 0 then strongAvalanche (read64 secret 56 ^^^ read64 secret 64)
  else if n ≤ 3 then hashUpTo3 input
  else if n ≤ 8 then hashUpTo8 input
  else if n ≤ 16 then hashUpTo16 input
  else if n ≤ 128 then hashUpTo128 input
  else if n ≤ 240 then hashUpTo240 input
  else hashLong input

end SceneRenderer.Xxh3
