import Mathlib.Tactic.Common
import Rollout.Evaluation.Evaluator

/-! What a flag asks while its conditions are walked, as a tree that branches on the answers. -/

namespace Rollout

structure MatcherPlace where
  flag : String
  condition : Nat
  matcher : Nat
  deriving DecidableEq, Repr

def MatcherPlace.next (place : MatcherPlace) : MatcherPlace :=
  { place with matcher := place.matcher + 1 }

/-- Either done, or a question whose answer decides how to go on. -/
inductive Inquiry (α : Type)
  | done (value : α)
  | membership (place : MatcherPlace) (segment value : String) (next : Bool → Inquiry α)
  | evaluation (flag : String) (next : Option Evaluation → Inquiry α)

namespace Inquiry

variable {α β : Type}

def andThen (f : α → Inquiry β) : Inquiry α → Inquiry β
  | done value => f value
  | membership place segment value next => membership place segment value fun b => (next b).andThen f
  | evaluation flag next => evaluation flag fun e => (next e).andThen f

instance : Monad Inquiry where
  pure := done
  bind q f := q.andThen f

def run (ctx : EvaluationContext) (dependency : Dependency) : Inquiry α → EvaluationM α
  | done value => pure value
  | membership _ segment value next => do
    let b ← EvaluationM.isInSegment ctx segment value
    (next b).run ctx dependency
  | evaluation flag next => do
    let e ← dependency flag
    (next e).run ctx dependency

@[simp] lemma run_pure (ctx : EvaluationContext) (dependency : Dependency) (value : α) :
    (pure value : Inquiry α).run ctx dependency = pure value := rfl

@[simp] lemma run_bind (ctx : EvaluationContext) (dependency : Dependency) (q : Inquiry α)
    (f : α → Inquiry β) :
    (q >>= f).run ctx dependency = q.run ctx dependency >>= fun a => (f a).run ctx dependency := by
  change (q.andThen f).run ctx dependency = _
  induction q with
  | done value => rw [andThen, run, pure_bind]
  | membership place segment value next ih => simp only [andThen, run, bind_assoc, ih]
  | evaluation flag next ih => simp only [andThen, run, bind_assoc, ih]

end Inquiry

def MatcherKind.inquiry (place : MatcherPlace) (input : Option MatcherInput) :
    MatcherKind → Inquiry Bool
  | .inTreatments flag treatments =>
    .evaluation flag fun e => pure (e.any fun e => treatments.contains e.treatment)
  | .inSegment segment =>
    match input.bind MatcherInput.string? with
    | some value => .membership place segment value pure
    | none => pure false
  | .test t => pure (input.any t.passes)

def Matcher.inquiry (ctx : EvaluationContext) (place : MatcherPlace) (m : Matcher) :
    Inquiry Bool := do
  let matched ← m.kind.inquiry place (m.input? ctx.key ctx.attributes)
  return m.negate ^^ matched

def Condition.inquiryOf (ctx : EvaluationContext) (place : MatcherPlace) :
    List Matcher → Inquiry Bool
  | [] => return true
  | m :: rest => do
    if ← m.inquiry ctx place then inquiryOf ctx place.next rest else return false

def Condition.inquiry (ctx : EvaluationContext) (flag : String) (number : Nat) (c : Condition) :
    Inquiry Bool :=
  Condition.inquiryOf ctx ⟨flag, number, 0⟩ c.matchers

namespace FeatureFlag

def inquiryOf (ctx : EvaluationContext) (flag : FeatureFlag) (number : Nat) :
    List Condition → Inquiry Evaluation
  | [] => return .byDefault flag Label.defaultRule
  | condition :: rest => do
    if condition.conditionType = .rollout ∧ flag.isInTraffic ctx.bucketingKey = false then
      return .byDefault flag Label.outsideTraffic
    else if ← condition.inquiry ctx flag.name number then
      return flag.serve ctx.bucketingKey condition
    else
      flag.inquiryOf ctx (number + 1) rest

def inquiry (ctx : EvaluationContext) (flag : FeatureFlag) : Inquiry Evaluation :=
  if flag.killed then return .byDefault flag Label.killed
  else flag.inquiryOf ctx 0 flag.conditions

end FeatureFlag

def EvaluationContext.inquiry (ctx : EvaluationContext) (name : String) : Inquiry Evaluation :=
  match ctx.flag? name with
  | none => return .notFound
  | some flag => flag.inquiry ctx

section Congruence

variable {ctx ctx' : EvaluationContext}

lemma Matcher.inquiry_congr {m : Matcher}
    (h : m.input? ctx.key ctx.attributes = m.input? ctx'.key ctx'.attributes) (place : MatcherPlace) :
    m.inquiry ctx place = m.inquiry ctx' place := by
  rw [Matcher.inquiry, Matcher.inquiry, h]

lemma Condition.inquiryOf_congr {matchers : List Matcher} (h : ∀ m ∈ matchers,
    m.input? ctx.key ctx.attributes = m.input? ctx'.key ctx'.attributes) (place : MatcherPlace) :
    Condition.inquiryOf ctx place matchers = Condition.inquiryOf ctx' place matchers := by
  induction matchers generalizing place with
  | nil => rfl
  | cons m rest ih =>
    obtain ⟨hm, hr⟩ := List.forall_mem_cons.mp h
    rw [inquiryOf, inquiryOf, Matcher.inquiry_congr hm, ih hr]

lemma FeatureFlag.inquiryOf_congr {flag : FeatureFlag} {conditions : List Condition}
    (hb : ctx.bucketingKey = ctx'.bucketingKey) (h : ∀ c ∈ conditions, ∀ m ∈ c.matchers,
      m.input? ctx.key ctx.attributes = m.input? ctx'.key ctx'.attributes) (number : Nat) :
    flag.inquiryOf ctx number conditions = flag.inquiryOf ctx' number conditions := by
  induction conditions generalizing number with
  | nil => rfl
  | cons c rest ih =>
    obtain ⟨hc, hr⟩ := List.forall_mem_cons.mp h
    have hi : c.inquiry ctx flag.name number = c.inquiry ctx' flag.name number :=
      Condition.inquiryOf_congr hc _
    rw [inquiryOf, inquiryOf, hb, hi, ih hr]

lemma FeatureFlag.inquiry_congr {flag : FeatureFlag} (hb : ctx.bucketingKey = ctx'.bucketingKey)
    (h : ∀ c ∈ flag.conditions, ∀ m ∈ c.matchers,
      m.input? ctx.key ctx.attributes = m.input? ctx'.key ctx'.attributes) :
    flag.inquiry ctx = flag.inquiry ctx' := by
  rw [inquiry, inquiry, inquiryOf_congr hb h]

end Congruence

variable (ctx : EvaluationContext) (dependency : Dependency)

lemma MatcherKind.matches?_eq_run (place : MatcherPlace) (input : Option MatcherInput)
    (kind : MatcherKind) :
    kind.matches? ctx dependency input = (kind.inquiry place input).run ctx dependency := by
  cases kind with
  | test t => cases input <;> rfl
  | inSegment segment =>
    rw [MatcherKind.matches?, MatcherKind.inquiry]
    cases input.bind MatcherInput.string? with
    | none => rfl
    | some value => simp [Inquiry.run]
  | inTreatments flag treatments =>
    rw [MatcherKind.matches?, MatcherKind.inquiry, Inquiry.run]
    congr 1
    funext e
    cases e <;> rfl

lemma Matcher.evaluate_eq_run (place : MatcherPlace) (m : Matcher) :
    m.evaluate ctx dependency = (m.inquiry ctx place).run ctx dependency := by
  simp [Matcher.evaluate, Matcher.inquiry, MatcherKind.matches?_eq_run ctx dependency place]

lemma allMatch_eq_run (place : MatcherPlace) (matchers : List Matcher) :
    allMatch ctx dependency matchers =
      (Condition.inquiryOf ctx place matchers).run ctx dependency := by
  induction matchers generalizing place with
  | nil => rfl
  | cons m rest ih =>
    rw [allMatch, Condition.inquiryOf, Inquiry.run_bind, Matcher.evaluate_eq_run ctx dependency place]
    congr 1
    funext b
    cases b
    · rfl
    · exact ih place.next

lemma Condition.matches_eq_run (flag : String) (number : Nat) (c : Condition) :
    c.matches ctx dependency = (c.inquiry ctx flag number).run ctx dependency := by
  rw [Condition.matches]
  cases c.combiner
  exact allMatch_eq_run ctx dependency _ c.matchers

namespace FeatureFlag

lemma evaluateConditions_eq_run (flag : FeatureFlag) (number : Nat) (conditions : List Condition)
    (trafficChecked : Bool)
    (h : trafficChecked = true → flag.isInTraffic ctx.bucketingKey = true) :
    flag.evaluateConditions ctx dependency trafficChecked conditions =
      (flag.inquiryOf ctx number conditions).run ctx dependency := by
  -- Once the allocation is checked the key is inside it, and to ask again changes nothing.
  induction conditions generalizing trafficChecked number with
  | nil => rfl
  | cons condition rest ih =>
    rw [evaluateConditions, inquiryOf]
    by_cases ho : condition.conditionType = .rollout ∧ flag.isInTraffic ctx.bucketingKey = false
    · have hc : trafficChecked = false := by
        by_contra hc
        simp [h (by simpa using hc)] at ho
      simp [ho, hc]
    · have hn : (!trafficChecked && condition.conditionType == .rollout &&
          !flag.isInTraffic ctx.bucketingKey) = false := by
        by_contra hn
        simp only [Bool.not_eq_false, Bool.and_eq_true, Bool.not_eq_true', beq_iff_eq] at hn
        exact ho ⟨hn.1.2, hn.2⟩
      rw [if_neg ho, Inquiry.run_bind, ← Condition.matches_eq_run]
      simp only [hn, Bool.false_eq_true, if_false]
      congr 1
      funext b
      cases b
      · refine ih _ _ fun hc => ?_
        rcases (Bool.or_eq_true _ _).mp hc with hc | hc
        · exact h hc
        · by_contra ht
          exact ho ⟨beq_iff_eq.mp hc, Bool.eq_false_iff.mpr ht⟩
      · rfl

lemma evaluateBody_eq_run (flag : FeatureFlag) :
    flag.evaluateBody ctx dependency = (flag.inquiry ctx).run ctx dependency := by
  rw [evaluateBody, inquiry]
  split
  · rfl
  · exact evaluateConditions_eq_run ctx dependency flag 0 flag.conditions false (by simp)

end FeatureFlag

end Rollout
