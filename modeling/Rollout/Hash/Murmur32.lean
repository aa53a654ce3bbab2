namespace Rollout.Hash

namespace Murmur32

def rotate (x r : UInt32) : UInt32 :=
  (x <<< r) ||| (x >>> (32 - r))

def scramble (k : UInt32) : UInt32 :=
  rotate (k * 0xcc9e2d51) 15 * 0x1b873593

def absorb (h k : UInt32) : UInt32 :=
  rotate (h ^^^ scramble k) 13 * 5 + 0xe6546b64

def word : List UInt8 → UInt32
  | [] => 0
  | b :: rest => b.toUInt32 ||| (word rest <<< 8)

def avalanche (h : UInt32) : UInt32 :=
  let h := (h ^^^ (h >>> 16)) * 0x85ebca6b
  let h := (h ^^^ (h >>> 13)) * 0xc2b2ae35
  h ^^^ (h >>> 16)

def digest (h : UInt32) : List UInt8 → UInt32
  | a :: b :: c :: d :: rest => digest (absorb h (word [a, b, c, d])) rest
  | [] => h
  | tail => h ^^^ scramble (word tail)

end Murmur32

open Murmur32 in
def murmur32 (key : List UInt8) (seed : UInt32) : UInt32 :=
  avalanche (digest seed key ^^^ key.length.toUInt32)

end Rollout.Hash
