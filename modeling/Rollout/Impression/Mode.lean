import Rollout.Json.Encode
import Rollout.Json.Decode
import Rollout.Text.Blank
import Rollout.Text.Quoted

namespace Rollout

/-- Optimized stores an impression at most once per hour and counts all, debug stores all, and none
keeps only counts and unique keys. -/
inductive ImpressionsMode
  | optimized
  | debug
  | none
  deriving DecidableEq, Repr

instance : Inhabited ImpressionsMode := ⟨.optimized⟩

structure UnknownMode where
  text : String
  deriving DecidableEq, Repr

def UnknownMode.message (e : UnknownMode) : String :=
  "unknown impressions mode: " ++ Text.quoted e.text

namespace ImpressionsMode

def name : ImpressionsMode → String
  | optimized => "OPTIMIZED"
  | debug => "DEBUG"
  | none => "NONE"

def parse (text : String) : Except UnknownMode ImpressionsMode :=
  match String.ofList ((Text.trim text.toList).map Char.toUpper) with
  | "OPTIMIZED" => .ok optimized
  | "DEBUG" => .ok debug
  | "NONE" => .ok none
  | _ => .error ⟨text⟩

def ofJson? (json : Json) : Option ImpressionsMode :=
  json.string?.bind fun s => (parse s).toOption

def toJson (mode : ImpressionsMode) : Json := .string mode.name

end ImpressionsMode

end Rollout
