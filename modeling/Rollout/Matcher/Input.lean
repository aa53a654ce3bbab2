import Rollout.Attribute
import Rollout.Decimal.Reading
import Rollout.Semver

namespace Rollout

inductive MatcherInput
  | key (text : String)
  | value (v : AttributeValue)
  deriving Repr

def truncate? (x : Float) : Option Int64 :=
  if x.isFinite then some x.toInt64 else none

def integerOfText? (s : String) : Option Int64 :=
  let s := Text.trim s.toList
  (Decimal.readInt64? s).or ((Decimal.readFloat? s).bind truncate?)

namespace MatcherInput

def string? : MatcherInput → Option String
  | .key text => some text
  | .value v => v.string?

def integer? : MatcherInput → Option Int64
  | .key text => integerOfText? text
  | .value (.number x) => truncate? x
  | .value (.string s) => integerOfText? s
  | .value _ => none

def boolean? (input : MatcherInput) : Option Bool :=
  match input with
  | .value (.boolean b) => some b
  | input =>
    match input.string? with
    | none => none
    | some s =>
      match String.ofList (s.toList.map Char.toLower) with
      | "true" => some true
      | "false" => some false
      | _ => none

def strings? : MatcherInput → Option (List String)
  | .value (.list items) => items.mapM AttributeValue.string?
  | _ => none

def version? (input : MatcherInput) : Option Semver :=
  input.string?.bind Semver.parse?

end MatcherInput

end Rollout
