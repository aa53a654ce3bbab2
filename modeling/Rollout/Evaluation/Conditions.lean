import Rollout.Evaluation.Context

/-! The evaluation of other flags is a parameter, `dependency`, which gives nothing for a flag that
is being evaluated already. -/

namespace Rollout

abbrev Dependency := String → EvaluationM (Option Evaluation)

namespace MatcherKind

def matches? (ctx : EvaluationContext) (dependency : Dependency) (input : Option MatcherInput) :
    MatcherKind → EvaluationM Bool
  | .inTreatments flag treatments => do
    match ← dependency flag with
    | some evaluation => return treatments.contains evaluation.treatment
    | none => return false
  | .inSegment segment =>
    match input.bind MatcherInput.string? with
    | some value => EvaluationM.isInSegment ctx segment value
    | none => return false
  | .test t =>
    match input with
    | some input => return t.passes input
    | none => return false

end MatcherKind

def Matcher.evaluate (ctx : EvaluationContext) (dependency : Dependency) (m : Matcher) :
    EvaluationM Bool := do
  let matched ← m.kind.matches? ctx dependency (m.input? ctx.key ctx.attributes)
  return m.negate ^^ matched

def allMatch (ctx : EvaluationContext) (dependency : Dependency) :
    List Matcher → EvaluationM Bool
  | [] => return true
  | m :: rest => do
    if ← m.evaluate ctx dependency then allMatch ctx dependency rest else return false

def Condition.matches (ctx : EvaluationContext) (dependency : Dependency) (c : Condition) :
    EvaluationM Bool :=
  match c.combiner with
  | .all => allMatch ctx dependency c.matchers

namespace FeatureFlag

def isInTraffic (flag : FeatureFlag) (bucketingKey : String) : Bool :=
  100 ≤ flag.trafficAllocation.toInt ||
    (Bucketing.bucket bucketingKey flag.trafficAllocationSeed flag.algo : Int) ≤
      flag.trafficAllocation.toInt

def serve (flag : FeatureFlag) (bucketingKey : String) (condition : Condition) : Evaluation :=
  .ofFlag flag (Bucketing.treatment bucketingKey flag.seed flag.algo condition.partitions)
    condition.label

/-- The first condition that matches decides. The traffic allocation is consulted once, before the
first rollout condition. -/
def evaluateConditions (ctx : EvaluationContext) (dependency : Dependency) (flag : FeatureFlag)
    (trafficChecked : Bool) : List Condition → EvaluationM Evaluation
  | [] => return .byDefault flag Label.defaultRule
  | condition :: rest => do
    let isRollout := condition.conditionType == .rollout
    if !trafficChecked && isRollout && !flag.isInTraffic ctx.bucketingKey then
      return .byDefault flag Label.outsideTraffic
    else if ← condition.matches ctx dependency then
      return flag.serve ctx.bucketingKey condition
    else
      flag.evaluateConditions ctx dependency (trafficChecked || isRollout) rest

def evaluateBody (ctx : EvaluationContext) (dependency : Dependency) (flag : FeatureFlag) :
    EvaluationM Evaluation :=
  if flag.killed then return .byDefault flag Label.killed
  else flag.evaluateConditions ctx dependency false flag.conditions

def evaluate (ctx : EvaluationContext) (dependency : Dependency) (flag : FeatureFlag) :
    EvaluationM Evaluation :=
  EvaluationM.inside flag.name (flag.evaluateBody ctx dependency)

end FeatureFlag

end Rollout
