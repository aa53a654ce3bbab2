import Rollout.Decimal.Nearest
import Rollout.Text.Digits

namespace Rollout.Decimal

def signed (s : List Char) : Bool × List Char :=
  match s with
  | '-' :: rest => (true, rest)
  | '+' :: rest => (false, rest)
  | rest => (false, rest)

def readInt64? (s : List Char) : Option Int64 :=
  let (negative, digits) := signed s
  let value : Int := if negative then -(Text.ofDigits digits : Int) else Text.ofDigits digits
  if Text.isNumeral digits ∧ Int64.minValue.toInt ≤ value ∧ value ≤ Int64.maxValue.toInt then
    some (Int64.ofInt value)
  else none

def mantissa? (s : List Char) : Option (List Char × List Char × List Char) :=
  let whole := s.takeWhile Char.isDigit
  let (fraction, rest) := match s.dropWhile Char.isDigit with
    | '.' :: rest => (rest.takeWhile Char.isDigit, rest.dropWhile Char.isDigit)
    | rest => ([], rest)
  if whole.isEmpty && fraction.isEmpty then none else some (whole, fraction, rest)

def exponentPart? : List Char → Option Int
  | [] => some 0
  | mark :: rest =>
    let (negative, digits) := signed rest
    if (mark = 'e' ∨ mark = 'E') ∧ Text.isNumeral digits then
      some (if negative then -(Text.ofDigits digits : Int) else Text.ofDigits digits)
    else none

def finite? (s : List Char) : Option Float := do
  let (whole, fraction, rest) ← mantissa? s
  let exponent ← exponentPart? rest
  return nearestDecimal (Text.ofDigits (whole ++ fraction)) (exponent - fraction.length)

def named? (s : List Char) : Option Float :=
  let name := String.ofList (s.map Char.toLower)
  if name = "inf" ∨ name = "infinity" then some (Float.ofBits 0x7FF0000000000000)
  else if name = "nan" then some (Float.ofBits 0x7FF8000000000000)
  else none

def readFloat? (s : List Char) : Option Float :=
  let (negative, body) := signed s
  ((named? body).or (finite? body)).map fun x => if negative then -x else x

end Rollout.Decimal
