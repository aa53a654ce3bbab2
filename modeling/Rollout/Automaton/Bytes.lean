import Rollout.Unicode.CharSet

/-! A set of characters as sequences of byte ranges: each stands for the characters whose UTF-8
bytes lie in its ranges, one by one. -/

namespace Rollout

structure ByteRange where
  low : UInt8
  high : UInt8
  deriving DecidableEq, Repr

namespace ByteRange

def contains (r : ByteRange) (b : UInt8) : Bool := r.low ≤ b && b ≤ r.high

def single (b : UInt8) : ByteRange := ⟨b, b⟩

def ofNats (low high : Nat) : ByteRange := ⟨UInt8.ofNat low, UInt8.ofNat high⟩

def continuation : ByteRange := ofNats 0x80 0xBF

def sequences : (count lead low high : Nat) → List (List ByteRange)
  | 0, lead, low, high => [[ofNats (lead + low) (lead + high)]]
  | count + 1, lead, low, high =>
    let block := Nat.pow 64 (count + 1)
    let first := low / block
    let last := high / block
    let beginning (digit : Nat) (rest : List (List ByteRange)) : List (List ByteRange) :=
      rest.map (ofNats (lead + digit) (lead + digit) :: ·)
    if first = last then beginning first (sequences count 0x80 (low % block) (high % block))
    else
      let cutLow := low % block ≠ 0
      let cutHigh := high % block ≠ block - 1
      let lower :=
        if cutLow then beginning first (sequences count 0x80 (low % block) (block - 1)) else []
      let upper :=
        if cutHigh then beginning last (sequences count 0x80 0 (high % block)) else []
      let start := if cutLow then first + 1 else first
      let stop := if cutHigh then last else last + 1
      let whole :=
        if start < stop then
          [ofNats (lead + start) (lead + stop - 1) :: List.replicate (count + 1) continuation]
        else []
      lower ++ whole ++ upper

def encodingBlocks : List (Nat × Nat × Nat × Nat) :=
  [(0, 0x7F, 0, 0), (0x80, 0x7FF, 1, 0xC0), (0x800, 0xD7FF, 2, 0xE0), (0xE000, 0xFFFF, 2, 0xE0),
   (0x10000, 0x10FFFF, 3, 0xF0)]

def sequencesOf (r : CharRange) : List (List ByteRange) :=
  encodingBlocks.flatMap fun (first, last, count, lead) =>
    let low := max first r.low.toNat
    let high := min last r.high.toNat
    if low ≤ high then sequences count lead low high else []

end ByteRange

def CharSet.byteSequences (s : CharSet) : List (List ByteRange) :=
  s.ranges.flatMap ByteRange.sequencesOf

end Rollout
