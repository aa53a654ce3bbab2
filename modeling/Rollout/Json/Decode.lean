import Rollout.Json.Value

/-! A record may be written as an object of named fields or as an array of their values in order. -/

namespace Rollout.Json

def bool? : Json → Option Bool
  | .bool b => some b
  | _ => none

def string? : Json → Option String
  | .string s => some s
  | _ => none

def integer? : Json → Option Int
  | .number (.integer n) => some n
  | _ => none

def integerIn? (low high : Int) (json : Json) : Option Int :=
  json.integer?.filter fun n => decide (low ≤ n ∧ n ≤ high)

def naturalBelow? (size : Nat) (json : Json) : Option Nat :=
  (json.integer?.filter fun (n : Int) => decide (0 ≤ n ∧ n < size)).map Int.toNat

def int32? (json : Json) : Option Int32 :=
  (json.integerIn? Int32.minValue.toInt Int32.maxValue.toInt).map Int32.ofInt

def int64? (json : Json) : Option Int64 :=
  (json.integerIn? Int64.minValue.toInt Int64.maxValue.toInt).map Int64.ofInt

def uint32? (json : Json) : Option UInt32 :=
  (json.naturalBelow? UInt32.size).map UInt32.ofNat

def uint64? (json : Json) : Option UInt64 :=
  (json.naturalBelow? UInt64.size).map UInt64.ofNat

def list? {α : Type} (decode : Json → Option α) : Json → Option (List α)
  | .array items => items.mapM decode
  | _ => none

def nullable? {α : Type} (decode : Json → Option α) : Json → Option (Option α)
  | .null => some none
  | json => (decode json).map some

def fields? {α : Type} (decode : Json → Option α) : Json → Option (List (String × α))
  | .object fields => fields.mapM fun field => (decode field.2).map fun value => (field.1, value)
  | _ => none

def variant? {α : Type} (variants : List (String × α)) : Json → Option α
  | .string name => variants.lookup name
  | .object [(name, .null)] => variants.lookup name
  | _ => none

inductive Slot
  | given (json : Json)
  | omitted
  | pastEnd
  deriving Repr

namespace Slot

def required? {α : Type} (decode : Json → Option α) : Slot → Option α
  | .given json => decode json
  | _ => none

def withDefault? {α : Type} (default : α) (decode : Json → Option α) : Slot → Option α
  | .given json => decode json
  | _ => some default

def omissible? {α : Type} (decode : Json → Option α) : Slot → Option (Option α)
  | .given json => nullable? decode json
  | .omitted => some none
  | .pastEnd => none

end Slot

def slotOfField (fields : List (String × Json)) (name : String) : Slot :=
  match fields.lookup name with
  | some json => .given json
  | none => .omitted

def slotOfItem (names : List String) (items : List Json) (name : String) : Slot :=
  match items[names.idxOf name]? with
  | some json => .given json
  | none => .pastEnd

def namedOnce (names : List String) (fields : List (String × Json)) : Bool :=
  names.all fun name => fields.countP (fun field => field.1 == name) ≤ 1

/-- The slots of a record by field name. Other fields of an object are skipped, but none of the
record's own may be repeated; an array holds the fields in the order of the names and no more. -/
def record? (names : List String) : Json → Option (String → Slot)
  | .object fields =>
    if namedOnce names fields then some (slotOfField fields) else none
  | .array items =>
    if items.length ≤ names.length then some (slotOfItem names items) else none
  | _ => none

end Rollout.Json
