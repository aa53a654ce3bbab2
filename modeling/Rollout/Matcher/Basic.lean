import Rollout.Matcher.Test

namespace Rollout

inductive MatcherKind
  | test (test : InputTest)
  | inSegment (segment : String)
  | inTreatments (flag : String) (treatments : StringSet)
  deriving Repr

structure Matcher where
  kind : MatcherKind
  negate : Bool
  attributeName : Option String
  deriving Repr

namespace Matcher

def onKey (test : InputTest) : Matcher := ⟨.test test, false, none⟩

def input? (m : Matcher) (key : String) (attributes : Attributes) : Option MatcherInput :=
  match m.attributeName with
  | none => some (.key key)
  | some name => ((attributes.find? name).filter fun value => !value.isNull).map .value

end Matcher

end Rollout
