import Rollout.Decimal.Nearest

/-! The reals that round to a double form an interval. Its digits are those of the point in it
nearest to the double, on the coarsest decimal grid that has one there. -/

namespace Rollout.Decimal

/-- A finite positive double as `significand * 2 ^ exponent`; `atBinade` says that the double below
it is half as far away as the one above. -/
structure Binary where
  significand : Nat
  exponent : Int
  atBinade : Bool
  deriving DecidableEq, Repr

def Binary.ofBits (bits : UInt64) : Binary :=
  let field : Nat := bits.toNat / fractionSize % 0x800
  let fraction : Nat := bits.toNat % fractionSize
  if field = 0 then ⟨fraction, -1074, false⟩
  else ⟨fraction + fractionSize, (field : Int) - 1075, decide (fraction = 0 ∧ 1 < field)⟩

structure Interval where
  lower : Nat
  middle : Nat
  upper : Nat
  den : Nat
  closed : Bool
  deriving DecidableEq, Repr

def Binary.interval (b : Binary) : Interval :=
  let below := if b.atBinade then 1 else 2
  let m := 4 * b.significand
  let closed := b.significand % 2 == 0
  if 0 ≤ b.exponent then
    let p := Nat.pow 2 b.exponent.toNat
    ⟨(m - below) * p, m * p, (m + 2) * p, 4, closed⟩
  else ⟨m - below, m, m + 2, 4 * Nat.pow 2 (-b.exponent).toNat, closed⟩

def Interval.holds (i : Interval) (num den : Nat) : Bool :=
  let lower := compare (i.lower * den) (num * i.den)
  let upper := compare (num * i.den) (i.upper * den)
  (lower == .lt || (i.closed && lower == .eq)) && (upper == .lt || (i.closed && upper == .eq))

def Interval.onGrid? (i : Interval) (e : Int) : Option Nat :=
  let (scale, unit) := if 0 ≤ e then (1, Nat.pow 10 e.toNat) else (Nat.pow 10 (-e).toNat, 1)
  let q := i.middle * scale / (i.den * unit)
  let rest := i.middle * scale % (i.den * unit)
  let low := i.holds (q * unit) scale
  let high := i.holds ((q + 1) * unit) scale
  let twice := compare (2 * rest) (i.den * unit)
  if low && high then
    some (if twice == .lt || (twice == .eq && q % 2 == 0) then q else q + 1)
  else if low then some q
  else if high then some (q + 1)
  else none

def Interval.search (i : Interval) : Nat → Int → Nat × Int
  | 0, e => (0, e)
  | steps + 1, e =>
    match i.onGrid? e with
    | some digits => (digits, e)
    | none => i.search steps (e - 1)

def Binary.topPower (b : Binary) : Int :=
  let lead := (b.significand.log2 : Int) + 1 + b.exponent
  if 0 ≤ lead then lead * 5 / 16 + 1 else lead * 3 / 10 + 1

def dropZeros : Nat → Nat → Int → Nat × Int
  | 0, digits, e => (digits, e)
  | steps + 1, digits, e =>
    if digits ≠ 0 ∧ digits % 10 = 0 then dropZeros steps (digits / 10) (e + 1) else (digits, e)

/-- The digits and the power of ten of the last one, for a finite positive double. Forty grids
reach from the top power to the seventeenth digit of every double. -/
def shortest (bits : UInt64) : Nat × Int :=
  let b := Binary.ofBits bits
  let (digits, e) := b.interval.search 40 b.topPower
  dropZeros 20 digits e

end Rollout.Decimal
