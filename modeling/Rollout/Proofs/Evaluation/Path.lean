import Rollout.Proofs.Evaluation.Inquiry

/-! Evaluation that remembers nothing and carries the names of the flags on the way to the one being
evaluated. A dependency on one of them does not match. -/

namespace Rollout

def EvaluationContext.membership (ctx : EvaluationContext) (segment value : String) :
    Except EvaluationError Bool :=
  match ctx.segments with
  | none => .error (.segmentLookupMissing segment)
  | some lookup => .ok (lookup segment value)

namespace Inquiry

variable {α : Type}

def resolve (lookup : String → String → Except EvaluationError Bool)
    (dependency : String → Except EvaluationError (Option Evaluation)) :
    Inquiry α → Except EvaluationError α
  | done value => .ok value
  | membership _ segment value next => do
    let b ← lookup segment value
    (next b).resolve lookup dependency
  | evaluation flag next => do
    let e ← dependency flag
    (next e).resolve lookup dependency

end Inquiry

namespace EvaluationContext

def names (ctx : EvaluationContext) : List String :=
  match ctx.configuration with
  | none => []
  | some configuration => configuration.names

def unvisited (ctx : EvaluationContext) (path : List String) : Nat :=
  (ctx.names.filter fun name => name ∉ path).length

lemma mem_names_iff {ctx : EvaluationContext} {name : String} :
    name ∈ ctx.names ↔ (ctx.flag? name).isSome := by
  rw [names, flag?]
  cases ctx.configuration with
  | none => simp
  | some configuration => exact Dictionary.mem_keys

lemma mem_names {ctx : EvaluationContext} {name : String} {flag : FeatureFlag}
    (h : ctx.flag? name = some flag) : name ∈ ctx.names :=
  mem_names_iff.mpr (Option.isSome_of_eq_some h)

lemma name_of_flag? {ctx : EvaluationContext} {name : String} {flag : FeatureFlag}
    (h : ctx.flag? name = some flag) : flag.name = name := by
  obtain ⟨configuration, _, hf⟩ := Option.bind_eq_some_iff.mp h
  exact Configuration.name_of_flag? hf

lemma unvisited_lt {ctx : EvaluationContext} {path : List String} {name : String}
    {flag : FeatureFlag} (h : ctx.flag? name = some flag) (fresh : name ∉ path) :
    ctx.unvisited (name :: path) < ctx.unvisited path := by
  have hsplit : (ctx.names.filter fun other => other ∉ name :: path) =
      (ctx.names.filter fun other => other ∉ path).filter fun other => other ≠ name := by
    rw [List.filter_filter]
    congr 1
    funext other
    simp [not_or]
  rw [unvisited, unvisited, hsplit, List.length_filter_lt_length_iff_exists]
  exact ⟨name, List.mem_filter.mpr ⟨mem_names h, by simpa using fresh⟩, by simp⟩

lemma length_names (ctx : EvaluationContext) : ctx.names.length = ctx.depthLimit := by
  rw [names, depthLimit]
  cases ctx.configuration with
  | none => rfl
  | some configuration => exact List.length_map _

lemma unvisited_le (ctx : EvaluationContext) (path : List String) :
    ctx.unvisited path ≤ ctx.depthLimit :=
  Nat.le_trans (List.length_filter_le _ _) (Nat.le_of_eq ctx.length_names)

/-- The evaluation of a name that is not on the path by which it is reached. -/
def evaluateOnPath (ctx : EvaluationContext) (path : List String) (name : String)
    (fresh : name ∉ path) : Except EvaluationError Evaluation :=
  match h : ctx.flag? name with
  | none => .ok .notFound
  | some flag =>
    have := unvisited_lt h fresh
    (flag.inquiry ctx).resolve ctx.membership fun other =>
      if onPath : other ∈ name :: path then .ok none
      else (ctx.evaluateOnPath (name :: path) other onPath).map some
termination_by ctx.unvisited path

def dependencyOnPath (ctx : EvaluationContext) (path : List String) (name : String) :
    Except EvaluationError (Option Evaluation) :=
  if onPath : name ∈ path then .ok none
  else (ctx.evaluateOnPath path name onPath).map some

lemma evaluateOnPath_eq (ctx : EvaluationContext) (path : List String) (name : String)
    (fresh : name ∉ path) :
    ctx.evaluateOnPath path name fresh =
      (ctx.inquiry name).resolve ctx.membership (ctx.dependencyOnPath (name :: path)) := by
  rw [evaluateOnPath, inquiry]
  split <;> rename_i h <;> simp only [h] <;> rfl

end EvaluationContext

end Rollout
