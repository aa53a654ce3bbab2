import Rollout.Decimal.Nearest
import Rollout.Text.Digits

/-! Whether a number is written as an integer is kept, as an integer field accepts integer notation
only. -/

namespace Rollout.Json

inductive Number
  | integer (value : Int)
  | float (value : Float)
  deriving DecidableEq, Repr, Inhabited

structure Numeral where
  negative : Bool
  whole : List Char
  fraction : List Char
  exponent : Int
  integral : Bool
  deriving DecidableEq, Repr

def digits? (s : List Char) : Option (List Char × List Char) :=
  let digits := s.takeWhile Char.isDigit
  if digits.isEmpty then none else some (digits, s.dropWhile Char.isDigit)

def exponent? (s : List Char) : Option Int :=
  let (negative, s) := match s with
    | '+' :: rest => (false, rest)
    | '-' :: rest => (true, rest)
    | s => (false, s)
  match digits? s with
  | some (digits, []) => some (if negative then -(Text.ofDigits digits : Int) else Text.ofDigits digits)
  | _ => none

def Numeral.tail? (negative : Bool) (whole : List Char) : List Char → Option Numeral
  | [] => some ⟨negative, whole, [], 0, true⟩
  | '.' :: rest =>
    match digits? rest with
    | none => none
    | some (fraction, []) => some ⟨negative, whole, fraction, 0, false⟩
    | some (fraction, mark :: rest) =>
      if mark = 'e' ∨ mark = 'E' then
        (exponent? rest).map fun e => ⟨negative, whole, fraction, e, false⟩
      else none
  | mark :: rest =>
    if mark = 'e' ∨ mark = 'E' then
      (exponent? rest).map fun e => ⟨negative, whole, [], e, false⟩
    else none

def Numeral.ofText? (s : List Char) : Option Numeral :=
  let (negative, s) := match s with
    | '-' :: rest => (true, rest)
    | s => (false, s)
  match digits? s with
  | none => none
  | some ('0' :: _ :: _, _) => none
  | some (whole, rest) => Numeral.tail? negative whole rest

def absorbDigits (significand : Nat) : List Char → Nat × List Char
  | [] => (significand, [])
  | c :: rest =>
    let next := significand * 10 + Text.digitValue c
    if next < UInt64.size then absorbDigits next rest else (significand, c :: rest)

def powerOfTen (k : Nat) : Float := Decimal.nearest (Nat.pow 10 k) 1

def scaleDown (x : Float) (k : Nat) : Float :=
  if k ≤ 308 then x / powerOfTen k
  else if x == 0.0 then x
  else scaleDown (x / powerOfTen 308) (k - 308)
termination_by k

def scale? (x : Float) (e : Int) : Option Float :=
  if e < 0 then some (scaleDown x e.natAbs)
  else if 308 < e then (if x == 0.0 then some x else none)
  else
    let y := x * powerOfTen e.toNat
    if y.isInf then none else some y

def Numeral.value? (n : Numeral) : Option Number :=
  let (significand, dropped) := absorbDigits 0 n.whole
  let float (significand : Nat) (e : Int) : Option Number :=
    (scale? significand.toUInt64.toFloat e).map fun x => .float (if n.negative then -x else x)
  if n.integral && dropped.isEmpty then
    if !n.negative then some (.integer significand)
    else if 0 < significand ∧ significand ≤ 0x8000000000000000 then some (.integer (-significand))
    else float significand 0
  else
    let (significand, unused) := absorbDigits significand n.fraction
    float significand (dropped.length + n.exponent - (n.fraction.length - unused.length : Nat))

end Rollout.Json
