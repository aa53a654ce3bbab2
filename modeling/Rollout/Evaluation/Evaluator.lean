import Rollout.Evaluation.Conditions

/-! Flags may depend on each other in cycles: a dependency on a flag in progress does not match. -/

namespace Rollout

namespace EvaluationContext

/-- A stored flag by its name. `depth` bounds the number of stored flags that may be entered within
each other. -/
def evaluateByName (ctx : EvaluationContext) (depth : Nat) (name : String) :
    EvaluationM Evaluation :=
  EvaluationM.remembering name <|
    match ctx.flag? name, depth with
    | none, _ => return .notFound
    | some _, 0 => throw .nestedTooDeeply
    | some flag, depth + 1 =>
      flag.evaluate ctx fun other =>
        EvaluationM.unlessInProgress other (ctx.evaluateByName depth other)
termination_by structural depth

def evaluateDependency (ctx : EvaluationContext) (depth : Nat) : Dependency := fun name =>
  EvaluationM.unlessInProgress name (ctx.evaluateByName depth name)

theorem evaluateByName_of_none {ctx : EvaluationContext} {name : String}
    (h : ctx.flag? name = none) (depth : Nat) :
    ctx.evaluateByName depth name = EvaluationM.remembering name (pure .notFound) := by
  unfold evaluateByName
  rw [h]

theorem evaluateByName_of_some {ctx : EvaluationContext} {name : String} {flag : FeatureFlag}
    (h : ctx.flag? name = some flag) (depth : Nat) :
    ctx.evaluateByName (depth + 1) name =
      EvaluationM.remembering name (flag.evaluate ctx (ctx.evaluateDependency depth)) := by
  unfold evaluateByName
  rw [h]
  rfl

def depthLimit (ctx : EvaluationContext) : Nat :=
  match ctx.configuration with
  | none => 0
  | some configuration => configuration.flags.size

end EvaluationContext

structure Outcome (α : Type) where
  result : Except EvaluationError α
  lookups : List (String × String)

def EvaluationM.outcome {α : Type} (step : EvaluationM α) : Outcome α :=
  let (result, s) := step.runFrom .start
  ⟨result, s.lookups.reverse⟩

structure Evaluator where
  configuration : Option Configuration
  segments : Option SegmentLookup

namespace Evaluator

def context (e : Evaluator) (key : String) (bucketingKey : Option String)
    (attributes : Attributes) : EvaluationContext :=
  ⟨e.configuration, e.segments, key, bucketingKey.getD key, attributes⟩

def evaluate (e : Evaluator) (name key : String) (bucketingKey : Option String)
    (attributes : Attributes) : Outcome Evaluation :=
  let ctx := e.context key bucketingKey attributes
  (ctx.evaluateByName ctx.depthLimit name).outcome

def evaluateEach (ctx : EvaluationContext) : List String → EvaluationM (List (String × Evaluation))
  | [] => return []
  | name :: rest => do
    let evaluation ← ctx.evaluateByName ctx.depthLimit name
    let others ← evaluateEach ctx rest
    return (name, evaluation) :: others

def evaluateMany (e : Evaluator) (names : List String) (key : String)
    (bucketingKey : Option String) (attributes : Attributes) :
    Outcome (Dictionary String Evaluation) :=
  (Dictionary.ofList <$> evaluateEach (e.context key bucketingKey attributes) names).outcome

def evaluateFlag (e : Evaluator) (flag : FeatureFlag) (key : String)
    (bucketingKey : Option String) (attributes : Attributes) : Outcome Evaluation :=
  let ctx := e.context key bucketingKey attributes
  (flag.evaluate ctx (ctx.evaluateDependency ctx.depthLimit)).outcome

end Evaluator

end Rollout
