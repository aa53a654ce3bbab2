import Rollout.Json.Decode

namespace Rollout

inductive AttributeValue
  | string (value : String)
  | number (value : Float)
  | boolean (value : Bool)
  | list (items : List AttributeValue)
  | null
  deriving Repr, Inhabited

abbrev Attributes := Dictionary String AttributeValue

def Json.Number.toFloat : Json.Number → Float
  | .integer n => if n < 0 then -(n.natAbs.toUInt64.toFloat) else n.natAbs.toUInt64.toFloat
  | .float x => x

namespace AttributeValue

def ofInt64 (n : Int64) : AttributeValue := .number (Json.Number.integer n.toInt).toFloat

def ofStrings (items : List String) : AttributeValue := .list (items.map .string)

def string? : AttributeValue → Option String
  | .string s => some s
  | _ => none

def isNull : AttributeValue → Bool
  | .null => true
  | _ => false

mutual

def ofJson? : Json → Option AttributeValue
  | .null => some .null
  | .bool b => some (.boolean b)
  | .number n => some (.number n.toFloat)
  | .string s => some (.string s)
  | .array items => (ofItems? items).map .list
  | .object _ => none
  | .unread => none

def ofItems? : List Json → Option (List AttributeValue)
  | [] => some []
  | item :: rest => do
    let value ← ofJson? item
    let values ← ofItems? rest
    return value :: values

end

theorem ofJson?_integer (n : Int64) : ofJson? (.number (.integer n.toInt)) = some (ofInt64 n) := by
  rw [ofJson?, ofInt64]

def rank : AttributeValue → Nat
  | .string _ => 0
  | .number _ => 1
  | .boolean _ => 2
  | .list _ => 3
  | .null => 4

def floatOrder? (x y : Float) : Option Ordering :=
  if x < y then some .lt
  else if y < x then some .gt
  else if x == y then some .eq
  else none

mutual

def order? : AttributeValue → AttributeValue → Option Ordering
  | .string a, .string b => some (compare a b)
  | .number a, .number b => floatOrder? a b
  | .boolean a, .boolean b => some (compare a.toNat b.toNat)
  | .list a, .list b => itemsOrder? a b
  | a, b => some (compare a.rank b.rank)

def itemsOrder? : List AttributeValue → List AttributeValue → Option Ordering
  | a :: as, b :: bs =>
    match order? a b with
    | some .eq => itemsOrder? as bs
    | other => other
  | as, bs => some (compare as.length bs.length)

end

def equals (a b : AttributeValue) : Bool :=
  order? a b == some .eq

end AttributeValue

def Attributes.ofJson? (json : Json) : Option Attributes :=
  (json.fields? AttributeValue.ofJson?).map Dictionary.ofList

end Rollout
