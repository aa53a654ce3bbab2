/-! Sets of characters as lists of ranges in ascending order, of which no two overlap or have
neighbouring code points. -/

namespace Rollout

structure CharRange where
  low : Char
  high : Char
  deriving DecidableEq, Repr

namespace CharRange

def single (c : Char) : CharRange := ⟨c, c⟩

def contains (r : CharRange) (c : Char) : Bool := r.low ≤ c && c ≤ r.high

def lower (a b : Char) : Char := if a ≤ b then a else b

def higher (a b : Char) : Char := if a ≤ b then b else a

def between (a b : Char) : CharRange := ⟨lower a b, higher a b⟩

def next (c : Char) : Char :=
  if c.toNat = 0xD7FF then Char.ofNat 0xE000 else Char.ofNat (c.toNat + 1)

def previous (c : Char) : Char :=
  if c.toNat = 0xE000 then Char.ofNat 0xD7FF else Char.ofNat (c.toNat - 1)

def first : Char := Char.ofNat 0

def last : Char := Char.ofNat 0x10FFFF

end CharRange

structure CharSet where
  ranges : List CharRange
  deriving DecidableEq, Repr

namespace CharSet

open CharRange

def contains (s : CharSet) (c : Char) : Bool := s.ranges.any fun r => r.contains c

def empty : CharSet := ⟨[]⟩

def isEmpty (s : CharSet) : Bool := s.ranges.isEmpty

def full : CharSet := ⟨[⟨first, last⟩]⟩

def ascii : CharSet := ⟨[⟨first, Char.ofNat 0x7F⟩]⟩

def isAscii (s : CharSet) : Bool := s.ranges.all fun r => r.high.toNat < 0x80

def only? (s : CharSet) : Option Char :=
  match s.ranges with
  | [r] => if r.low = r.high then some r.low else none
  | _ => none

def joinRange (r : CharRange) : List CharRange → List CharRange
  | [] => [r]
  | s :: rest =>
    if s.low.toNat ≤ r.high.toNat + 1 then joinRange ⟨r.low, higher r.high s.high⟩ rest
    else r :: joinRange s rest

def ofSorted : List CharRange → CharSet
  | [] => empty
  | r :: rest => ⟨joinRange r rest⟩

def ofRanges (ranges : List CharRange) : CharSet :=
  ofSorted (ranges.mergeSort fun r s => r.low ≤ s.low)

def ofChars (chars : List Char) : CharSet := ofRanges (chars.map CharRange.single)

def range (low high : Char) : CharSet := ofRanges [⟨low, high⟩]

def union (s t : CharSet) : CharSet :=
  ofSorted (s.ranges.merge t.ranges fun r s => r.low ≤ s.low)

def unions (sets : List CharSet) : CharSet := ofRanges (sets.flatMap ranges)

def interRanges : List CharRange → List CharRange → List CharRange
  | [], _ => []
  | _, [] => []
  | r :: rs, s :: ss =>
    let low := higher r.low s.low
    let high := lower r.high s.high
    let rest := if r.high < s.high then interRanges rs (s :: ss) else interRanges (r :: rs) ss
    if low ≤ high then ⟨low, high⟩ :: rest else rest
termination_by rs ss => rs.length + ss.length

def inter (s t : CharSet) : CharSet := ⟨interRanges s.ranges t.ranges⟩

def diffRanges : List CharRange → List CharRange → List CharRange
  | [], _ => []
  | rs, [] => rs
  | r :: rs, s :: ss =>
    if s.high < r.low then diffRanges (r :: rs) ss
    else if r.high < s.low then r :: diffRanges rs (s :: ss)
    else
      let rest :=
        if s.high < r.high then diffRanges (⟨next s.high, r.high⟩ :: rs) ss
        else diffRanges rs (s :: ss)
      if r.low < s.low then ⟨r.low, previous s.low⟩ :: rest else rest
termination_by rs ss => rs.length + ss.length

def diff (s t : CharSet) : CharSet := ⟨diffRanges s.ranges t.ranges⟩

def symmDiff (s t : CharSet) : CharSet := (s.union t).diff (s.inter t)

def gapsAfter (c : Char) : List CharRange → List CharRange
  | [] => if c < last then [⟨next c, last⟩] else []
  | r :: rest => between (next c) (previous r.low) :: gapsAfter r.high rest

def complement (s : CharSet) : CharSet :=
  match s.ranges with
  | [] => full
  | r :: rest =>
    let gaps := gapsAfter r.high rest
    ⟨if first < r.low then ⟨first, previous r.low⟩ :: gaps else gaps⟩

end CharSet

end Rollout
