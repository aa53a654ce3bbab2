import Rollout.Proofs.Evaluation.Steps

/-! What happens during a call, in order. All states on the way are those that the evaluation itself
goes through. -/

namespace Rollout

variable {α β ε : Type}

structure Call where
  depth : Nat
  flag : String
  before : Progress
  deriving DecidableEq, Repr

/-- What is written down when a flag is called for, when its conditions are walked and when a matcher
consults the segment lookup. -/
structure Recorder (ε : Type) where
  called : Call → List ε
  walked : String → List ε
  asked : MatcherPlace → List ε

abbrev Log (ε : Type) := Progress → List ε

namespace EvaluationM

def logThen (step : EvaluationM α) (log : Log ε) (next : α → Log ε) : Log ε := fun s =>
  log s ++
    match step.runFrom s with
    | (.ok value, t) => next value t
    | (.error _, _) => []

lemma mem_logThen {step : EvaluationM α} {log : Log ε} {next : α → Log ε} {s : Progress} {entry : ε} :
    entry ∈ step.logThen log next s ↔
      entry ∈ log s ∨ ∃ value t, step.runFrom s = (.ok value, t) ∧ entry ∈ next value t := by
  rw [logThen, List.mem_append]
  rcases step.runFrom s with ⟨err | value, t⟩ <;> simp

end EvaluationM

def Inquiry.log (ctx : EvaluationContext) (dependency : Dependency) (r : Recorder ε)
    (below : String → Log ε) : Inquiry α → Log ε
  | done _ => fun _ => []
  | membership place segment value next =>
    (EvaluationM.isInSegment ctx segment value).logThen
      (fun _ => if ctx.segments.isSome then r.asked place else [])
      fun b => (next b).log ctx dependency r below
  | evaluation flag next =>
    (dependency flag).logThen (below flag) fun e => (next e).log ctx dependency r below

namespace EvaluationContext

variable (ctx : EvaluationContext) (r : Recorder ε)

def log (depth : Nat) (name : String) : Log ε := fun s =>
  r.called ⟨depth, name, s⟩ ++
    if name ∈ s.inProgress then []
    else
      match s.memo.lookup name, ctx.flag? name, depth with
      | none, some flag, depth + 1 =>
        r.walked name ++
          (flag.inquiry ctx).log ctx (ctx.evaluateDependency depth) r (fun other => log depth other)
            (s.enter name)
      | _, _, _ => []
termination_by structural depth

def logOfEach : List String → Log ε
  | [] => fun _ => []
  | name :: rest =>
    (ctx.evaluateByName ctx.depthLimit name).logThen (ctx.log r ctx.depthLimit name)
      fun _ => logOfEach rest

variable {ctx r} {depth : Nat} {name : String} {s : Progress}

lemma log_of_mem (hp : name ∈ s.inProgress) : ctx.log r depth name s = r.called ⟨depth, name, s⟩ := by
  unfold log
  rw [if_pos hp, List.append_nil]

lemma log_of_lookup {e : Evaluation} (hl : s.memo.lookup name = some e) :
    ctx.log r depth name s = r.called ⟨depth, name, s⟩ := by
  unfold log
  rw [hl, ite_self, List.append_nil]

lemma log_of_none (hf : ctx.flag? name = none) :
    ctx.log r depth name s = r.called ⟨depth, name, s⟩ := by
  unfold log
  rw [hf]
  cases s.memo.lookup name <;> rw [ite_self, List.append_nil]

lemma log_zero : ctx.log r 0 name s = r.called ⟨0, name, s⟩ := by
  unfold log
  cases s.memo.lookup name <;> cases ctx.flag? name <;> rw [ite_self, List.append_nil]

lemma log_of_some {flag : FeatureFlag} (hp : name ∉ s.inProgress) (hl : s.memo.lookup name = none)
    (hf : ctx.flag? name = some flag) :
    ctx.log r (depth + 1) name s = r.called ⟨depth + 1, name, s⟩ ++ (r.walked name ++
      (flag.inquiry ctx).log ctx (ctx.evaluateDependency depth) r (ctx.log r depth)
        (s.enter name)) := by
  conv_lhs => unfold log
  rw [if_neg hp, hl, hf]

end EvaluationContext

end Rollout
