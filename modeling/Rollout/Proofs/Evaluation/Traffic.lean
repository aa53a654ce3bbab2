import Rollout.Proofs.Evaluation.Calls
import Rollout.Proofs.Evaluation.Decision
import Rollout.Proofs.Evaluation.OwnDefinition
import Rollout.Proofs.Evaluation.Unmemoized

/-! Only the walk of a flag itself consults its traffic allocation, so under a greater one nothing
changes but for keys that were outside it. -/

namespace Rollout

namespace FeatureFlag

def withTraffic (flag : FeatureFlag) (allocation : Int32) : FeatureFlag :=
  { flag with trafficAllocation := allocation }

@[simp] lemma name_withTraffic (flag : FeatureFlag) (allocation : Int32) :
    (flag.withTraffic allocation).name = flag.name := rfl

@[simp] lemma killed_withTraffic (flag : FeatureFlag) (allocation : Int32) :
    (flag.withTraffic allocation).killed = flag.killed := rfl

@[simp] lemma serve_withTraffic (flag : FeatureFlag) (allocation : Int32) :
    (flag.withTraffic allocation).serve = flag.serve := rfl

@[simp] lemma byDefault_withTraffic (flag : FeatureFlag) (allocation : Int32) :
    Evaluation.byDefault (flag.withTraffic allocation) = Evaluation.byDefault flag := rfl

lemma LeavesOut.of_le {flag : FeatureFlag} {allocation : Int32} {bucketingKey : String}
    (h : (flag.withTraffic allocation).LeavesOut bucketingKey)
    (hle : flag.trafficAllocation ≤ allocation) : flag.LeavesOut bucketingKey := by
  have hi : flag.trafficAllocation.toInt ≤ allocation.toInt := Int32.le_iff_toInt_le.mp hle
  exact ⟨Int.lt_of_le_of_lt hi h.1, Int.lt_of_le_of_lt hi h.2⟩

end FeatureFlag

structure Configuration.Reallocated (flag : FeatureFlag) (allocation : Int32)
    (c c' : Configuration) : Prop where
  before : c.flag? flag.name = some flag
  after : c'.flag? flag.name = some (flag.withTraffic allocation)
  others : ∀ name, name ≠ flag.name → c.flag? name = c'.flag? name

namespace EvaluationContext.AgreeExcept

variable {ctx ctx' : EvaluationContext} {d d' : Dependency} {flag : FeatureFlag}
  {allocation : Int32} {s t : Progress} (h : AgreeExcept flag.name ctx ctx')
  (hle : flag.trafficAllocation ≤ allocation)
  (hd : ∀ other s, flag.name ∈ s.inProgress → (d other).runFrom s = (d' other).runFrom s)
  (hp : ∀ other s, ((d' other).runFrom s).2.inProgress = s.inProgress)

include h hd hp

lemma runFrom_matches (condition : Condition) (hs : flag.name ∈ s.inProgress) :
    (condition.matches ctx d).runFrom s = (condition.matches ctx' d').runFrom s ∧
      ((condition.matches ctx' d').runFrom s).2.inProgress = s.inProgress := by
  have hq : condition.inquiry ctx flag.name 0 = condition.inquiry ctx' flag.name 0 :=
    Condition.inquiryOf_congr (fun m _ => by rw [h.key, h.attributes]) _
  rw [Condition.matches_eq_run ctx d flag.name 0, Condition.matches_eq_run ctx' d' flag.name 0, hq]
  exact ⟨h.runFrom_run hd hp _ hs, inProgress_run ctx' hp _ s⟩

lemma allAnswer {conditions : List Condition} {b : Bool}
    (hall : AllAnswer (Condition.Answers ctx' d') b conditions s t) (hs : flag.name ∈ s.inProgress) :
    AllAnswer (Condition.Answers ctx d) b conditions s t := by
  induction hall with
  | nil s => exact .nil s
  | @cons c rest s t u ha _ ih =>
    obtain ⟨hmatches, ht⟩ := h.runFrom_matches hd hp c hs
    rw [Condition.answers_iff.mp ha] at hmatches ht
    exact .cons (Condition.answers_iff.mpr hmatches) (ih (ht ▸ hs))

include hle

lemma runFrom_inquiryOf (number : Nat) (conditions : List Condition)
    (hs : flag.name ∈ s.inProgress) :
    (flag.LeavesOut ctx.bucketingKey ∧ ∃ t, Condition.RolloutReached ctx d conditions s t) ∨
      ((flag.inquiryOf ctx number conditions).run ctx d).runFrom s =
        (((flag.withTraffic allocation).inquiryOf ctx' number conditions).run ctx' d').runFrom s := by
  -- The walks part at a rollout condition only, for a key outside the smaller allocation.
  induction conditions generalizing number s with
  | nil =>
    right
    rw [FeatureFlag.inquiryOf, FeatureFlag.inquiryOf, FeatureFlag.byDefault_withTraffic,
      Inquiry.run_pure, Inquiry.run_pure]
  | cons c rest ih =>
    by_cases hstop : flag.LeavesOut ctx.bucketingKey ∧ c.conditionType = .rollout
    · refine Or.inl ⟨hstop.1, s, [], c, rest, rfl, ?_, hstop.2, .nil s⟩
      exact fun _ hm => absurd hm List.not_mem_nil
    · have hc (hout : flag.LeavesOut ctx.bucketingKey) : c.conditionType ≠ .rollout :=
        fun hr => hstop ⟨hout, hr⟩
      have hc' (hout : (flag.withTraffic allocation).LeavesOut ctx'.bucketingKey) :
          c.conditionType ≠ .rollout := hc (h.bucketingKey ▸ hout.of_le hle)
      obtain ⟨hmatches, ht⟩ := h.runFrom_matches hd hp c hs
      rw [FeatureFlag.runFrom_inquiryOf_cons ctx d hc, FeatureFlag.runFrom_inquiryOf_cons ctx' d' hc',
        hmatches, FeatureFlag.serve_withTraffic, h.bucketingKey]
      rcases hrun : (c.matches ctx' d').runFrom s with ⟨e | b, t⟩
      · exact Or.inr rfl
      · rw [hrun] at ht hmatches
        cases b with
        | true => exact Or.inr rfl
        | false =>
          refine Or.imp_left ?_ (ih (number + 1) (ht ▸ hs))
          rintro ⟨hout, u, hreached⟩
          exact ⟨h.bucketingKey ▸ hout, u,
            hreached.cons (hc hout) (Condition.answers_iff.mpr hmatches)⟩

lemma runFrom_inquiry (hs : flag.name ∈ s.inProgress) :
    (∃ t, flag.EndsOutside ctx d s t) ∨
      ((flag.inquiry ctx).run ctx d).runFrom s =
        (((flag.withTraffic allocation).inquiry ctx').run ctx' d').runFrom s := by
  rw [FeatureFlag.inquiry, FeatureFlag.inquiry, FeatureFlag.killed_withTraffic]
  cases hlive : flag.killed with
  | true =>
    right
    rw [if_pos rfl, if_pos rfl, FeatureFlag.byDefault_withTraffic, Inquiry.run_pure, Inquiry.run_pure]
  | false =>
    rw [if_neg Bool.false_ne_true, if_neg Bool.false_ne_true]
    refine Or.imp_left ?_ (h.runFrom_inquiryOf hle hd hp 0 flag.conditions hs)
    rintro ⟨hout, t, hreached⟩
    exact ⟨t, hlive, hout, hreached⟩

lemma endsOutside (hs : flag.name ∈ s.inProgress)
    (hends : (flag.withTraffic allocation).EndsOutside ctx' d' s t) :
    flag.EndsOutside ctx d s t := by
  obtain ⟨before, r, after, hsplit, hfirst, hr, hbefore⟩ := hends.reached
  have hout : flag.LeavesOut ctx'.bucketingKey := hends.out.of_le hle
  exact ⟨hends.live, h.bucketingKey ▸ hout, before, r, after, hsplit, hfirst, hr,
    h.allAnswer hd hp hbefore hs⟩

end EvaluationContext.AgreeExcept

namespace Evaluator

variable {e : Evaluator} {flag : FeatureFlag} {name key : String} {bucketingKey : Option String}
  {attributes : Attributes}

def EndsOutside (e : Evaluator) (name key : String) (bucketingKey : Option String)
    (attributes : Attributes) : Prop :=
  let ctx := e.context key bucketingKey attributes
  ∃ flag t, ctx.flag? name = some flag ∧
    flag.EndsOutside ctx (ctx.evaluateDependency (ctx.depthLimit - 1)) (Progress.start.enter name) t

lemma endsOutside_iff (h : (e.context key bucketingKey attributes).flag? name = some flag) :
    let ctx := e.context key bucketingKey attributes
    e.EndsOutside name key bucketingKey attributes ↔ ∃ t,
      flag.EndsOutside ctx (ctx.evaluateDependency (ctx.depthLimit - 1)) (Progress.start.enter name)
        t := by
  constructor
  · rintro ⟨other, t, hstored, hends⟩
    obtain rfl := Option.some.inj (hstored.symm.trans h)
    exact ⟨t, hends⟩
  · rintro ⟨t, hends⟩
    exact ⟨flag, t, h, hends⟩

lemma evaluate_of_stored (h : (e.context key bucketingKey attributes).flag? name = some flag) :
    let ctx := e.context key bucketingKey attributes
    let walked := ((flag.inquiry ctx).run ctx (ctx.evaluateDependency (ctx.depthLimit - 1))).runFrom
      (Progress.start.enter flag.name)
    e.evaluate name key bucketingKey attributes = ⟨walked.1, walked.2.lookups.reverse⟩ := by
  intro ctx walked
  rcases hrun : walked with ⟨result, t⟩
  have hevaluate := runFrom_evaluate (s := .start) hrun
  rw [evaluate, EvaluationContext.outcome_evaluateByName_of_some h, outcome_eq hevaluate]

lemma evaluate_of_endsOutside (h : (e.context key bucketingKey attributes).flag? name = some flag)
    (hends : e.EndsOutside name key bucketingKey attributes) :
    flag.LeavesOut (bucketingKey.getD key) ∧ ∃ evaluation : Evaluation,
      (e.evaluate name key bucketingKey attributes).result = .ok evaluation ∧
        evaluation.Carries flag flag.defaultTreatment "not in split" := by
  obtain ⟨t, hends⟩ := (endsOutside_iff h).mp hends
  have hcarries := Evaluation.carries_ofFlag flag flag.defaultTreatment "not in split"
  have hrun := (FeatureFlag.Decided.outsideTraffic hends hcarries).runFrom_evaluateBody
  rw [FeatureFlag.evaluateBody_eq_run] at hrun
  obtain rfl := EvaluationContext.name_of_flag? h
  refine ⟨hends.out, _, ?_, hcarries⟩
  rw [evaluate_of_stored h, hrun]

end Evaluator

namespace Configuration.Reallocated

variable {flag : FeatureFlag} {allocation : Int32} {c c' : Configuration}

lemma insert (h : c.flag? flag.name = some flag) (allocation : Int32) :
    Reallocated flag allocation c (c.insert (flag.withTraffic allocation)) where
  before := h
  after := by rw [Configuration.flag?_insert, flag.name_withTraffic, if_pos rfl]
  others name hne := by rw [Configuration.flag?_insert, flag.name_withTraffic, if_neg hne.symm]

lemma agreeExcept (h : Reallocated flag allocation c c') (segments : Option SegmentLookup)
    (key : String) (bucketingKey : Option String) (attributes : Attributes) :
    EvaluationContext.AgreeExcept flag.name
      (Evaluator.context ⟨some c, segments⟩ key bucketingKey attributes)
      (Evaluator.context ⟨some c', segments⟩ key bucketingKey attributes) :=
  ⟨h.others, rfl, rfl, rfl, rfl⟩

lemma depthLimit_eq (h : Reallocated flag allocation c c') (segments : Option SegmentLookup)
    (key : String) (bucketingKey : Option String) (attributes : Attributes) :
    (Evaluator.context ⟨some c, segments⟩ key bucketingKey attributes).depthLimit =
      (Evaluator.context ⟨some c', segments⟩ key bucketingKey attributes).depthLimit := by
  refine (h.agreeExcept segments key bucketingKey attributes).depthLimit_eq ?_
  change (c.flag? flag.name).isSome = (c'.flag? flag.name).isSome
  rw [h.before, h.after, Option.isSome_some, Option.isSome_some]

end Configuration.Reallocated

/-- A key that is not outside the smaller allocation is given the same under the greater one, and a
key outside the greater one was outside the smaller one. Whoever is outside is given the default
treatment. -/
theorem Evaluator.evaluate_of_reallocated {flag : FeatureFlag} {allocation : Int32}
    {c c' : Configuration} (h : Configuration.Reallocated flag allocation c c')
    (hle : flag.trafficAllocation ≤ allocation) (segments : Option SegmentLookup) (key : String)
    (bucketingKey : Option String) (attributes : Attributes) :
    let e : Evaluator := ⟨some c, segments⟩
    let e' : Evaluator := ⟨some c', segments⟩
    (e.EndsOutside flag.name key bucketingKey attributes ∨
        e.evaluate flag.name key bucketingKey attributes =
          e'.evaluate flag.name key bucketingKey attributes) ∧
      (e'.EndsOutside flag.name key bucketingKey attributes →
        e.EndsOutside flag.name key bucketingKey attributes) ∧
      (e.EndsOutside flag.name key bucketingKey attributes →
        flag.LeavesOut (bucketingKey.getD key) ∧ ∃ evaluation : Evaluation,
          (e.evaluate flag.name key bucketingKey attributes).result = .ok evaluation ∧
            evaluation.Carries flag flag.defaultTreatment "not in split") := by
  intro e e'
  have hbefore : (e.context key bucketingKey attributes).flag? flag.name = some flag := h.before
  have hafter : (e'.context key bucketingKey attributes).flag? flag.name =
      some (flag.withTraffic allocation) := h.after
  have hctx := h.agreeExcept segments key bucketingKey attributes
  have hlimit := h.depthLimit_eq segments key bucketingKey attributes
  let depth := (e.context key bucketingKey attributes).depthLimit - 1
  have hd := hctx.runFrom_evaluateDependency depth
  have hp := inProgress_evaluateDependency (e'.context key bucketingKey attributes) depth
  have hs : flag.name ∈ (Progress.start.enter flag.name).inProgress := List.mem_cons_self
  refine ⟨?_, fun hends => ?_, evaluate_of_endsOutside hbefore⟩
  · rcases hctx.runFrom_inquiry hle hd hp hs with hends | hrun
    · exact Or.inl ((endsOutside_iff hbefore).mpr hends)
    · right
      rw [evaluate_of_stored hbefore, evaluate_of_stored hafter, ← hlimit]
      exact congrArg (fun r => Outcome.mk r.1 r.2.lookups.reverse) hrun
  · obtain ⟨t, hends⟩ := (endsOutside_iff hafter).mp hends
    rw [← hlimit] at hends
    exact (endsOutside_iff hbefore).mpr ⟨t, hctx.endsOutside hle hd hp hs hends⟩

def FeatureFlag.unlessSearch : FeatureFlag :=
  { guarded "checkout" [⟨.inTreatments "search" (.ofList ["on"]), true, none⟩] with
    trafficAllocation := 20 }

def mutualShop : Configuration :=
  .ofFlags [.unlessSearch, .guarded "search" [.onFlag "checkout"]]

theorem evaluate_of_reallocated_mutualShop :
    let flag := FeatureFlag.unlessSearch
    let c := mutualShop
    let c' := c.insert (flag.withTraffic 40)
    let e : Evaluator := ⟨some c, none⟩
    let e' : Evaluator := ⟨some c', none⟩
    c.Reallocated flag 40 c' ∧ flag.trafficAllocation ≤ 40 ∧
      (e.evaluate "checkout" "user-1" none .empty).result = .ok ⟨"on", "in segment", 1, none⟩ ∧
      (e.EndsOutside "checkout" "user-1" none .empty ∨
        e.evaluate "checkout" "user-1" none .empty = e'.evaluate "checkout" "user-1" none .empty) ∧
      (e'.EndsOutside "checkout" "user-1" none .empty →
        e.EndsOutside "checkout" "user-1" none .empty) ∧
      e.EndsOutside "checkout" "user-3" none .empty ∧
      ∃ evaluation : Evaluation, (e.evaluate "checkout" "user-3" none .empty).result = .ok evaluation ∧
        evaluation.Carries flag "off" "not in split" := by
  intro flag c c' e e'
  have h : c.Reallocated flag 40 c' := .insert rfl 40
  have hle : flag.trafficAllocation ≤ 40 := by decide
  obtain ⟨hsame, hback, -⟩ := Evaluator.evaluate_of_reallocated h hle none "user-1" none .empty
  obtain ⟨-, -, hserved⟩ := Evaluator.evaluate_of_reallocated h hle none "user-3" none .empty
  have hout : flag.LeavesOut "user-3" := by
    rw [← FeatureFlag.isInTraffic_eq_false_iff]
    decide +kernel
  -- The only condition is a rollout condition, so nothing is asked before the walk ends.
  have hends : e.EndsOutside "checkout" "user-3" none .empty :=
    ⟨flag, _, rfl, rfl, hout, [], _, [], rfl, fun _ hm => absurd hm List.not_mem_nil, rfl, .nil _⟩
  exact ⟨h, hle, by decide +kernel, hsame, hback, hends, (hserved hends).2⟩

end Rollout
