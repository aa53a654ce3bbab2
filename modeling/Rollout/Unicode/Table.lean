import Rollout.Unicode.CharSet

/-! Tables over all code points, decoded from lines of text. Numbers are written in base 36. -/

namespace Rollout.Unicode

def digit36 (c : Char) : Nat :=
  if c.isDigit then c.toNat - '0'.toNat else c.toNat - 'a'.toNat + 10

def ofBase36 (digits : List Char) : Nat :=
  digits.foldl (fun n c => 36 * n + digit36 c) 0

def words (lines : List String) : List (List Char) :=
  lines.flatMap fun line => line.toList.splitOn ' '

structure Run (α : Type) where
  start : Nat
  stop : Nat
  value : α
  deriving Repr

/-- Runs from `start` on: each word is a value's code of `width` letters and the run's length. Code
points whose code stands for no value are left out. -/
def runsFrom {α : Type} (width : Nat) (value? : List Char → Option α) (start : Nat) :
    List (List Char) → List (Run α)
  | [] => []
  | word :: rest =>
    let stop := start + ofBase36 (word.drop width)
    let runs := runsFrom width value? stop rest
    match value? (word.take width) with
    | some value => ⟨start, stop, value⟩ :: runs
    | none => runs

def gapsFrom (start : Nat) : List (List Char) → List (Run Unit)
  | gap :: size :: rest =>
    let first := start + ofBase36 gap
    let stop := first + ofBase36 size
    ⟨first, stop, ()⟩ :: gapsFrom stop rest
  | _ => []

def joinRuns {α : Type} (run : Run α) : List (Run α) → List (Run α)
  | [] => [run]
  | next :: rest =>
    if run.stop = next.start then joinRuns { run with stop := next.stop } rest
    else run :: joinRuns next rest

def isSurrogate (n : Nat) : Bool := 0xD800 ≤ n && n ≤ 0xDFFF

def Run.range? {α : Type} (run : Run α) : Option CharRange :=
  let low := if isSurrogate run.start then 0xE000 else run.start
  let high := if isSurrogate (run.stop - 1) then 0xD7FF else run.stop - 1
  if low ≤ high then some ⟨Char.ofNat low, Char.ofNat high⟩ else none

def setOfRuns {α : Type} : List (Run α) → CharSet
  | [] => .empty
  | run :: rest => ⟨(joinRuns run rest).filterMap Run.range?⟩

def ofCodePoints (pairs : List (Nat × Nat)) : CharSet :=
  .ofRanges (pairs.map fun pair => ⟨Char.ofNat pair.1, Char.ofNat pair.2⟩)

def setOfLines (lines : List String) : CharSet := setOfRuns (gapsFrom 0 (words lines))

end Rollout.Unicode
