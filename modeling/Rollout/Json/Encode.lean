import Rollout.Json.Value

namespace Rollout.Json

def ofInt (n : Int) : Json := .number (.integer n)

def ofNat (n : Nat) : Json := .number (.integer n)

def ofOption {α : Type} (encode : α → Json) : Option α → Json
  | none => .null
  | some value => encode value

def ofList {α : Type} (encode : α → Json) (items : List α) : Json :=
  .array (items.map encode)

def ofDictionary {α : Type} (encode : α → Json) (d : Dictionary String α) : Json :=
  .object (d.entries.map fun entry => (entry.1, encode entry.2))

end Rollout.Json
