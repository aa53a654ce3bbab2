import Rollout.Decimal.Shortest
import Rollout.Json.Value

/-! Compact JSON text, with the fewest escapes and numbers that read back as themselves. -/

namespace Rollout.Json

def escape (c : Char) : List Char :=
  if c = '"' then ['\\', '"']
  else if c = '\\' then ['\\', '\\']
  else if c.toNat = 0x08 then ['\\', 'b']
  else if c.toNat = 0x0C then ['\\', 'f']
  else if c = '\n' then ['\\', 'n']
  else if c = '\r' then ['\\', 'r']
  else if c = '\t' then ['\\', 't']
  else if c.toNat < 0x20 then
    ['\\', 'u', '0', '0', Nat.digitChar (c.toNat / 16), Nat.digitChar (c.toNat % 16)]
  else [c]

def quote (s : String) : String :=
  String.ofList ('"' :: s.toList.flatMap escape ++ ['"'])

def writePositive (digits : List Char) (e : Int) : List Char :=
  let size : Int := digits.length + e
  if 0 ≤ e ∧ size ≤ 16 then digits ++ List.replicate e.toNat '0' ++ ['.', '0']
  else if 0 < size ∧ size ≤ 16 then digits.take size.toNat ++ '.' :: digits.drop size.toNat
  else if -5 < size ∧ size ≤ 0 then
    '0' :: '.' :: List.replicate (-size).toNat '0' ++ digits
  else
    let mantissa := match digits with
      | [] => []
      | [d] => [d]
      | d :: rest => d :: '.' :: rest
    mantissa ++ 'e' :: (toString (size - 1)).toList

def writeFloat (x : Float) : String :=
  let bits := x.toBits
  let sign := if 0x8000000000000000 ≤ bits then ['-'] else []
  let size := bits &&& 0x7FFFFFFFFFFFFFFF
  let body :=
    if size = 0 then ['0', '.', '0']
    else
      let (digits, e) := Decimal.shortest size
      writePositive (Text.toDigits digits) e
  String.ofList (sign ++ body)

def Number.write : Number → String
  | .integer n => toString n
  | .float x => writeFloat x

mutual

def pieces : Json → List String → List String
  | .null, rest => "null" :: rest
  | .bool b, rest => (if b then "true" else "false") :: rest
  | .number n, rest => n.write :: rest
  | .string s, rest => quote s :: rest
  | .array [], rest => "[]" :: rest
  | .array (item :: items), rest => "[" :: item.pieces (itemPieces items ("]" :: rest))
  | .object [], rest => "\x7b\x7d" :: rest
  | .object (field :: fields), rest =>
    "\x7b" :: fieldPiece field (fieldPieces fields ("\x7d" :: rest))
  | .unread, rest => "null" :: rest

def itemPieces : List Json → List String → List String
  | [], rest => rest
  | item :: items, rest => "," :: item.pieces (itemPieces items rest)

def fieldPieces : List (String × Json) → List String → List String
  | [], rest => rest
  | field :: fields, rest => "," :: fieldPiece field (fieldPieces fields rest)

def fieldPiece : String × Json → List String → List String
  | (key, value), rest => quote key :: ":" :: value.pieces rest

end

def write (json : Json) : String :=
  String.join (json.pieces [])

end Rollout.Json
