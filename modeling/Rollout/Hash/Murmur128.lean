namespace Rollout.Hash

namespace Murmur128

structure State where
  low : UInt64
  high : UInt64
  deriving DecidableEq, Repr

def rotate (x r : UInt64) : UInt64 :=
  (x <<< r) ||| (x >>> (64 - r))

def scrambleLow (k : UInt64) : UInt64 :=
  rotate (k * 0x87c37b91114253d5) 31 * 0x4cf5ad432745937f

def scrambleHigh (k : UInt64) : UInt64 :=
  rotate (k * 0x4cf5ad432745937f) 33 * 0x87c37b91114253d5

def absorb (s : State) (k₁ k₂ : UInt64) : State :=
  let low := (rotate (s.low ^^^ scrambleLow k₁) 27 + s.high) * 5 + 0x52dce729
  let high := (rotate (s.high ^^^ scrambleHigh k₂) 31 + low) * 5 + 0x38495ab5
  ⟨low, high⟩

def word : List UInt8 → UInt64
  | [] => 0
  | b :: rest => b.toUInt64 ||| (word rest <<< 8)

def avalanche (k : UInt64) : UInt64 :=
  let k := (k ^^^ (k >>> 33)) * 0xff51afd7ed558ccd
  let k := (k ^^^ (k >>> 33)) * 0xc4ceb9fe1a85ec53
  k ^^^ (k >>> 33)

def absorbTail (s : State) (tail : List UInt8) : State :=
  let high := if 8 < tail.length then s.high ^^^ scrambleHigh (word (tail.drop 8)) else s.high
  let low := if tail.isEmpty then s.low else s.low ^^^ scrambleLow (word (tail.take 8))
  ⟨low, high⟩

def digest (s : State) (key : List UInt8) : State :=
  if _ : 16 ≤ key.length then
    digest (absorb s (word (key.take 8)) (word ((key.drop 8).take 8))) (key.drop 16)
  else absorbTail s key
termination_by key.length
decreasing_by simp; omega

def finish (s : State) (length : UInt64) : State :=
  let low := s.low ^^^ length
  let high := s.high ^^^ length
  let low := low + high
  let high := high + low
  let low := avalanche low
  let high := avalanche high
  let low := low + high
  ⟨low, high + low⟩

end Murmur128

open Murmur128 in
def murmur128 (key : List UInt8) (seed : UInt64) : State :=
  finish (digest ⟨seed, seed⟩ key) key.length.toUInt64

end Rollout.Hash
