import Rollout.Dictionary
import Rollout.Json.Number

namespace Rollout

/-- `unread` stands for a well-formed part of a text that cannot be held as a value: a number
beyond the doubles, a text with a lone surrogate, or a container nested too deeply. It may be
skipped over, but nothing can be decoded from it. -/
inductive Json
  | null
  | bool (value : Bool)
  | number (value : Json.Number)
  | string (value : String)
  | array (items : List Json)
  | object (fields : List (String × Json))
  | unread
  deriving Inhabited, Repr

namespace Json

mutual

def isComplete : Json → Bool
  | .unread => false
  | .array items => areComplete items
  | .object fields => fieldsComplete fields
  | _ => true

def areComplete : List Json → Bool
  | [] => true
  | item :: rest => item.isComplete && areComplete rest

def fieldsComplete : List (String × Json) → Bool
  | [] => true
  | field :: rest => fieldComplete field && fieldsComplete rest

def fieldComplete : String × Json → Bool
  | (_, value) => value.isComplete

end

mutual

def collapse : Json → Json
  | .array items => .array (collapseItems items)
  | .object fields => .object (lastWins (collapseFields fields))
  | json => json

def collapseItems : List Json → List Json
  | [] => []
  | item :: rest => item.collapse :: collapseItems rest

def collapseFields : List (String × Json) → List (String × Json)
  | [] => []
  | field :: rest => collapseField field :: collapseFields rest

def collapseField : String × Json → String × Json
  | (key, value) => (key, value.collapse)

end

end Json

end Rollout
