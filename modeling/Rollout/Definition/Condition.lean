import Rollout.Bucketing
import Rollout.Definition.Attempt
import Rollout.Definition.Matcher

namespace Rollout

namespace Partition

def ofJson? (json : Json) : Option Partition := do
  let slot ← json.record? ["treatment", "size"]
  let treatment ← (slot "treatment").required? Json.string?
  let size ← (slot "size").required? Json.uint32?
  return ⟨treatment, size⟩

def toJson (p : Partition) : Json :=
  .object [("treatment", .string p.treatment), ("size", .ofNat p.size.toNat)]

end Partition

inductive ConditionType
  | whitelist
  | rollout
  deriving DecidableEq, Repr

namespace ConditionType

def name : ConditionType → String
  | whitelist => "WHITELIST"
  | rollout => "ROLLOUT"

def ofJson? : Json → Option ConditionType :=
  Json.variant? ([whitelist, rollout].map fun t => (t.name, t))

def toJson (t : ConditionType) : Json := .string t.name

end ConditionType

inductive Combiner
  | all
  deriving DecidableEq, Repr

namespace Combiner

def ofJson? : Json → Option Combiner :=
  Json.variant? [("AND", all)]

def toJson : Combiner → Json
  | all => .string "AND"

end Combiner

structure MatcherGroup where
  combiner : Combiner
  matchers : List (Attempt MatcherDefinition)
  deriving Repr

namespace MatcherGroup

def ofJson? (json : Json) : Option MatcherGroup := do
  let slot ← json.record? ["combiner", "matchers"]
  let combiner ← (slot "combiner").withDefault? .all Combiner.ofJson?
  let matchers ← (slot "matchers").required?
    (Json.list? (Attempt.ofJson? MatcherDefinition.ofJson?))
  return ⟨combiner, matchers⟩

def toJson (g : MatcherGroup) : Json :=
  .object [("combiner", g.combiner.toJson),
    ("matchers", .ofList (Attempt.toJson MatcherDefinition.toJson) g.matchers)]

end MatcherGroup

structure ConditionDefinition where
  conditionType : ConditionType
  label : String
  matcherGroup : MatcherGroup
  partitions : List Partition
  deriving Repr

namespace ConditionDefinition

def ofJson? (json : Json) : Option ConditionDefinition := do
  let slot ← json.record? ["conditionType", "label", "matcherGroup", "partitions"]
  let conditionType ← (slot "conditionType").withDefault? .whitelist ConditionType.ofJson?
  let label ← (slot "label").withDefault? "" Json.string?
  let matcherGroup ← (slot "matcherGroup").required? MatcherGroup.ofJson?
  let partitions ← (slot "partitions").withDefault? [] (Json.list? Partition.ofJson?)
  return ⟨conditionType, label, matcherGroup, partitions⟩

def toJson (c : ConditionDefinition) : Json :=
  .object [("conditionType", c.conditionType.toJson), ("label", .string c.label),
    ("matcherGroup", c.matcherGroup.toJson), ("partitions", .ofList Partition.toJson c.partitions)]

end ConditionDefinition

end Rollout
