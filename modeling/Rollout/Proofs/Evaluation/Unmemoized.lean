import Rollout.Proofs.Evaluation.Memo

namespace Rollout

lemma Progress.Sound.start (ctx : EvaluationContext) : Progress.start.Sound ctx :=
  ⟨.nil, by simp [Progress.start]⟩

lemma EvaluationM.result_outcome {α : Type} (step : EvaluationM α) :
    step.outcome.result = (step.runFrom .start).1 := rfl

def Configuration.insert (c : Configuration) (flag : FeatureFlag) : Configuration :=
  ⟨c.flags.insert flag.name flag, by
    intro entry h
    rcases mem_of_mem_setEntry h with rfl | h
    · rfl
    · exact c.named entry h⟩

lemma Configuration.flag?_insert (c : Configuration) (flag : FeatureFlag) (name : String) :
    (c.insert flag).flag? name = if flag.name = name then some flag else c.flag? name :=
  Dictionary.find?_insert c.flags flag.name name flag

def EvaluationContext.insert (ctx : EvaluationContext) (flag : FeatureFlag) : EvaluationContext :=
  { ctx with configuration := some ((ctx.configuration.getD (.ofFlags [])).insert flag) }

def Evaluator.insert (e : Evaluator) (flag : FeatureFlag) : Evaluator :=
  { e with configuration := some ((e.configuration.getD (.ofFlags [])).insert flag) }

namespace EvaluationContext

variable (ctx : EvaluationContext) (flag : FeatureFlag)

lemma flag?_insert (name : String) :
    (ctx.insert flag).flag? name = if flag.name = name then some flag else ctx.flag? name := by
  change ((ctx.configuration.getD (.ofFlags [])).insert flag).flag? name = _
  rw [Configuration.flag?_insert, flag?]
  cases ctx.configuration with
  | none => rfl
  | some configuration => rfl

lemma inquiry_insert {name : String} (h : flag.name ≠ name) :
    (ctx.insert flag).inquiry name = ctx.inquiry name := by
  rw [inquiry, inquiry, flag?_insert, if_neg h]
  cases ctx.flag? name with
  | none => rfl
  | some other => exact FeatureFlag.inquiry_congr rfl fun _ _ _ _ => rfl

lemma evaluateOnPath_insert {path : List String} (hm : flag.name ∈ path) {name : String}
    (fresh : name ∉ path) :
    (ctx.insert flag).evaluateOnPath path name fresh = ctx.evaluateOnPath path name fresh := by
  have hne : flag.name ≠ name := by
    rintro rfl
    exact fresh hm
  fun_induction ctx.evaluateOnPath path name fresh with
  | case1 path name fresh h =>
    rw [evaluateOnPath_eq, inquiry_insert ctx flag hne, inquiry, h]
    rfl
  | case2 path name fresh other h _ ih =>
    rw [evaluateOnPath_eq, inquiry_insert ctx flag hne, inquiry, h]
    have hd : (ctx.insert flag).dependencyOnPath (name :: path) = fun next =>
        if onPath : next ∈ name :: path then .ok none
        else (ctx.evaluateOnPath (name :: path) next onPath).map some := by
      funext next
      rw [dependencyOnPath]
      split
      · rfl
      · rename_i hn
        rw [ih next hn (List.mem_cons_of_mem _ hm) ?_]
        rintro rfl
        exact hn (List.mem_cons_of_mem _ hm)
    rw [hd]
    rfl

end EvaluationContext

namespace Evaluator

variable (e : Evaluator) (key : String) (bucketingKey : Option String) (attributes : Attributes)

lemma result_evaluate (name : String) :
    (e.evaluate name key bucketingKey attributes).result =
      (e.context key bucketingKey attributes).evaluateOnPath [] name List.not_mem_nil :=
  (agrees_evaluateByName (.start _) List.not_mem_nil
    (EvaluationContext.unvisited_le _ _)).result

lemma result_evaluateFlag (flag : FeatureFlag) :
    (e.evaluateFlag flag key bucketingKey attributes).result =
      ((e.insert flag).context key bucketingKey attributes).evaluateOnPath [] flag.name
        List.not_mem_nil := by
  let ctx := e.context key bucketingKey attributes
  have hq : (ctx.insert flag).inquiry flag.name = flag.inquiry ctx := by
    rw [EvaluationContext.inquiry, EvaluationContext.flag?_insert, if_pos rfl]
    exact FeatureFlag.inquiry_congr rfl fun _ _ _ _ => rfl
  have hd : (ctx.insert flag).dependencyOnPath [flag.name] = ctx.dependencyOnPath [flag.name] := by
    funext other
    rw [EvaluationContext.dependencyOnPath, EvaluationContext.dependencyOnPath]
    split
    · rfl
    · rw [EvaluationContext.evaluateOnPath_insert ctx flag List.mem_cons_self]
  change _ = (ctx.insert flag).evaluateOnPath [] flag.name List.not_mem_nil
  rw [EvaluationContext.evaluateOnPath_eq, hq, hd]
  refine (agrees_evaluate (.start ctx) rfl fun other t ht hp => ?_).result
  rw [← hp]
  exact agrees_unlessInProgress ht fun hm =>
    agrees_evaluateByName ht hm (ctx.unvisited_le _)

/-- What is remembered never changes a result. A flag that need not be stored is evaluated as if it
were stored. -/
theorem evaluate_eq_evaluateOnPath :
    (∀ name, (e.evaluate name key bucketingKey attributes).result =
      (e.context key bucketingKey attributes).evaluateOnPath [] name List.not_mem_nil) ∧
    ∀ flag, (e.evaluateFlag flag key bucketingKey attributes).result =
      ((e.insert flag).context key bucketingKey attributes).evaluateOnPath [] flag.name
        List.not_mem_nil :=
  ⟨e.result_evaluate key bucketingKey attributes, e.result_evaluateFlag key bucketingKey attributes⟩

end Evaluator

end Rollout
