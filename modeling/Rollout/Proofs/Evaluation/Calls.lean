import Rollout.Proofs.Evaluation.Termination

/-! What every step preserves holds of the outcome of a call, and two calls that stay related step
by step have related outcomes. -/

namespace Rollout

variable {α β : Type}

lemma Outcome.ext {o o' : Outcome α} (hr : o.result = o'.result) (hl : o.lookups = o'.lookups) :
    o = o' := by
  cases o
  cases o'
  rw [Outcome.mk.injEq]
  exact ⟨hr, hl⟩

lemma EvaluationM.outcome_remembering (name : String) (make : EvaluationM Evaluation) :
    (remembering name make).outcome = make.outcome := by
  rcases hrun : make.runFrom .start with ⟨e | e, t⟩
  · rw [outcome_eq hrun, outcome_eq (runFrom_remembering_of_error rfl hrun)]
  · rw [outcome_eq hrun, outcome_eq (runFrom_remembering_of_ok rfl hrun)]

lemma EvaluationContext.outcome_evaluateByName_of_some {ctx : EvaluationContext} {name : String}
    {flag : FeatureFlag} (h : ctx.flag? name = some flag) :
    (ctx.evaluateByName ctx.depthLimit name).outcome =
      (flag.evaluate ctx (ctx.evaluateDependency (ctx.depthLimit - 1))).outcome := by
  have hpos : 0 < ctx.depthLimit := by
    have hlt := unvisited_lt h List.not_mem_nil
    have hle := ctx.unvisited_le []
    omega
  obtain ⟨depth, hdepth⟩ := Nat.exists_eq_add_one.mpr hpos
  rw [hdepth, evaluateByName_of_some h, EvaluationM.outcome_remembering, Nat.add_sub_cancel]

def Inquiry.outcome (ctx : EvaluationContext) (outside : List String) (q : Inquiry α) :
    Outcome α :=
  let (result, s) := (q.run ctx (ctx.evaluateDependency ctx.depthLimit)).runFrom
    { Progress.start with inProgress := outside }
  ⟨result, s.lookups.reverse⟩

namespace Evaluator

variable (e : Evaluator) (key : String) (bucketingKey : Option String) (attributes : Attributes)

lemma evaluate_eq_outcome (name : String) :
    e.evaluate name key bucketingKey attributes =
      (Inquiry.ofName name).outcome (e.context key bucketingKey attributes) [] := by
  rw [evaluate, EvaluationM.outcome, Inquiry.outcome, ← runFrom_ofName name _ rfl]
  rfl

lemma evaluateMany_eq_outcome (names : List String) :
    e.evaluateMany names key bucketingKey attributes =
      (Dictionary.ofList <$> Inquiry.ofNames names : Inquiry _).outcome
        (e.context key bucketingKey attributes) [] := by
  rw [evaluateMany, EvaluationM.outcome, Inquiry.outcome, Inquiry.run_map, EvaluationM.runFrom_map,
    EvaluationM.runFrom_map, ← runFrom_ofNames names rfl]
  rfl

lemma evaluateFlag_eq_outcome (flag : FeatureFlag) :
    e.evaluateFlag flag key bucketingKey attributes =
      (flag.inquiry (e.context key bucketingKey attributes)).outcome
        (e.context key bucketingKey attributes) [flag.name] := by
  rw [evaluateFlag, EvaluationM.outcome, runFrom_evaluate rfl]
  rfl

end Evaluator

namespace Moment

lemma after_add (ctx : EvaluationContext) (n k : Nat) (m : Moment α) :
    m.after ctx (k + n) = (m.after ctx n).after ctx k :=
  Function.iterate_add_apply _ k n m

lemma after_finished (ctx : EvaluationContext) (n : Nat) (result : Except EvaluationError α)
    (s : Progress) : (⟨.finished result, s⟩ : Moment α).after ctx n = ⟨.finished result, s⟩ :=
  Function.iterate_fixed rfl n

end Moment

namespace Inquiry

lemma finished_from (ctx : EvaluationContext) (outside : List String) (q : Inquiry α) :
    ∃ n s, s.lookups.reverse = (q.outcome ctx outside).lookups ∧
      ∀ k, (Moment.start outside q).after ctx (k + n) =
        ⟨.finished (q.outcome ctx outside).result, s⟩ := by
  rcases hrun : (q.run ctx (ctx.evaluateDependency ctx.depthLimit)).runFrom
    { Progress.start with inProgress := outside } with ⟨result, s⟩
  have houtcome : q.outcome ctx outside = ⟨result, s.lookups.reverse⟩ := by
    rw [Inquiry.outcome, hrun]
  obtain ⟨n, hn⟩ := reaches_finished hrun
  rw [houtcome]
  refine ⟨n, s, rfl, fun k => ?_⟩
  rw [Moment.after_add, hn]
  exact Moment.after_finished ctx k _ _

lemma outcome_induction {ctx ctx' : EvaluationContext} {outside outside' : List String}
    {q : Inquiry α} {q' : Inquiry β} {R : Moment α → Moment β → Prop}
    (start : R (.start outside q) (.start outside' q'))
    (next : ∀ m m', R m m' → R (m.next ctx) (m'.next ctx')) :
    ∃ s s', s.lookups.reverse = (q.outcome ctx outside).lookups ∧
      s'.lookups.reverse = (q'.outcome ctx' outside').lookups ∧
      R ⟨.finished (q.outcome ctx outside).result, s⟩
        ⟨.finished (q'.outcome ctx' outside').result, s'⟩ := by
  -- The relation is kept for any number of steps, so also for as many as finish both calls.
  have run : ∀ n m m', R m m' → R (m.after ctx n) (m'.after ctx' n) := by
    intro n
    induction n with
    | zero => exact fun m m' h => h
    | succ n ih => exact fun m m' h => ih _ _ (next m m' h)
  obtain ⟨n, s, hs, hn⟩ := q.finished_from ctx outside
  obtain ⟨n', s', hs', hn'⟩ := q'.finished_from ctx' outside'
  have hrun := run (n' + n) _ _ start
  rw [hn n', Nat.add_comm n' n, hn' n] at hrun
  exact ⟨s, s', hs, hs', hrun⟩

lemma outcome_invariant {ctx : EvaluationContext} {outside : List String} {q : Inquiry α}
    {P : Moment α → Prop} (start : P (.start outside q)) (next : ∀ m, P m → P (m.next ctx)) :
    ∃ s, s.lookups.reverse = (q.outcome ctx outside).lookups ∧
      P ⟨.finished (q.outcome ctx outside).result, s⟩ := by
  have hnext : ∀ m m', m = m' ∧ P m → m.next ctx = m'.next ctx ∧ P (m.next ctx) := by
    rintro m _ ⟨rfl, h⟩
    exact ⟨rfl, next m h⟩
  obtain ⟨s, -, hs, -, -, h⟩ := outcome_induction ⟨rfl, start⟩ hnext
  exact ⟨s, hs, h⟩

end Inquiry

end Rollout
