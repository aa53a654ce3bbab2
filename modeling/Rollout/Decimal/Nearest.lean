/-! The double nearest to a fraction, computed in exact arithmetic. A tie goes to the even
significand. -/

namespace Rollout.Decimal

def fractionSize : Nat := 0x10000000000000

def roundQuotient (num den : Nat) : Nat :=
  let q := num / den
  let twice := 2 * (num % den)
  if den < twice || (twice == den && q % 2 == 1) then q + 1 else q

def inUnits (num den : Nat) (e : Int) : Nat × Nat :=
  if 0 ≤ e then (num, den * Nat.pow 2 e.toNat) else (num * Nat.pow 2 (-e).toNat, den)

def lastPlace (num den : Nat) : Int :=
  let guess : Int := (num.log2 : Int) - den.log2 - 52
  let (n, d) := inUnits num den guess
  max (if n < fractionSize * d then guess - 1 else guess) (-1074)

def nearestBits (num den : Nat) : UInt64 :=
  if num = 0 then 0
  else
    let e := lastPlace num den
    let (n, d) := inUnits num den e
    let bits := (e + 1074).toNat * fractionSize + roundQuotient n d
    if bits < 0x7FF0000000000000 then bits.toUInt64 else 0x7FF0000000000000

def nearest (num den : Nat) : Float :=
  Float.ofBits (nearestBits num den)

def nearestDecimal (digits : Nat) (exponent : Int) : Float :=
  if digits = 0 then 0.0
  else if 0 ≤ exponent then
    if 400 < exponent then Float.ofBits 0x7FF0000000000000
    else nearest (digits * Nat.pow 10 exponent.toNat) 1
  else if (digits.log2 : Int) + 1 + 3 * exponent < -1100 then 0.0
  else nearest digits (Nat.pow 10 (-exponent).toNat)

end Rollout.Decimal
