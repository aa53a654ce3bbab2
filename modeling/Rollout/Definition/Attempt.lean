import Rollout.Json.Decode

namespace Rollout

inductive Attempt (α : Type)
  | parsed (value : α)
  | failed (source : Json)
  deriving Repr

namespace Attempt

/-- Whatever can be held as a value is accepted; what the decoder refuses is kept as it stands,
except that repeated keys are settled. -/
def ofJson? {α : Type} (decode : Json → Option α) (json : Json) : Option (Attempt α) :=
  if json.isComplete then
    match decode json with
    | some value => some (.parsed value)
    | none => some (.failed json.collapse)
  else none

def toJson {α : Type} (encode : α → Json) : Attempt α → Json
  | .parsed value => encode value
  | .failed source => source

def value? {α : Type} : Attempt α → Option α
  | .parsed value => some value
  | .failed _ => none

end Attempt

end Rollout
