import Rollout.Definition.Flag
import Rollout.Json.Reader
import Rollout.Matcher.Compile

namespace Rollout

structure Condition where
  conditionType : ConditionType
  combiner : Combiner
  matchers : List Matcher
  partitions : List Partition
  label : String
  deriving Repr

namespace Condition

def compileMatcher? (attempt : Attempt MatcherDefinition) : Option Matcher :=
  attempt.value?.bind Matcher.compile?

def compile? (d : ConditionDefinition) : Option Condition :=
  (d.matcherGroup.matchers.mapM compileMatcher?).map fun matchers =>
    { conditionType := d.conditionType, combiner := d.matcherGroup.combiner, matchers,
      partitions := d.partitions, label := d.label }

/-- Gives the control treatment to everybody inside the traffic allocation. -/
def unsupported : Condition where
  conditionType := .rollout
  combiner := .all
  matchers := [.onKey .present]
  partitions := [⟨controlTreatment, 100⟩]
  label := Label.unsupportedMatcher

end Condition

structure FeatureFlag where
  name : String
  seed : Int32
  trafficAllocation : Int32
  trafficAllocationSeed : Int32
  killed : Bool
  defaultTreatment : String
  changeNumber : Int64
  algo : HashAlgorithm
  conditions : List Condition
  configurations : Dictionary String String
  deriving Repr

inductive DefinitionError
  | malformed
  deriving DecidableEq, Repr

def DefinitionError.message : DefinitionError → String
  | .malformed => "error parsing flag definitions"

namespace FeatureFlag

/-- One matcher that cannot be compiled makes the whole flag unsupported. -/
def compileConditions (conditions : List ConditionDefinition) : List Condition :=
  (conditions.mapM Condition.compile?).getD [.unsupported]

def compile (d : FlagDefinition) : FeatureFlag where
  name := d.name
  seed := d.seed
  trafficAllocation := d.trafficAllocation
  trafficAllocationSeed := d.trafficAllocationSeed
  killed := d.killed
  defaultTreatment := d.defaultTreatment
  changeNumber := d.changeNumber
  algo := d.algo
  conditions := compileConditions d.conditions
  configurations := d.configurations.getD .empty

def ofJson? (json : Json) : Option FeatureFlag :=
  (FlagDefinition.ofJson? json).map compile

def ofText (text : String) : Except DefinitionError FeatureFlag :=
  match (Json.read? text).bind ofJson? with
  | some flag => .ok flag
  | none => .error .malformed

def configuration? (flag : FeatureFlag) (treatment : String) : Option String :=
  flag.configurations.find? treatment

end FeatureFlag

end Rollout
