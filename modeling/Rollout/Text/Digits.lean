namespace Rollout.Text

def digitValue (c : Char) : Nat := c.toNat - '0'.toNat

def ofDigits (digits : List Char) : Nat :=
  digits.foldl (fun n c => 10 * n + digitValue c) 0

def toDigits (n : Nat) : List Char := Nat.toDigits 10 n

def hexDigits (n : Nat) : List Char := Nat.toDigits 16 n

def hexDigit? (c : Char) : Option Nat :=
  if c.isDigit then some (digitValue c)
  else if 'a' ≤ c ∧ c ≤ 'f' then some (c.toNat - 'a'.toNat + 10)
  else if 'A' ≤ c ∧ c ≤ 'F' then some (c.toNat - 'A'.toNat + 10)
  else none

def isNumeral (s : List Char) : Bool :=
  !s.isEmpty && s.all Char.isDigit

def number64? (s : List Char) : Option Nat :=
  if isNumeral s ∧ ofDigits s < UInt64.size then some (ofDigits s) else none

end Rollout.Text
