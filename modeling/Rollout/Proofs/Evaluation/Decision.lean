import Rollout.Proofs.Evaluation.Dependencies

/-! The table by which the conditions of a flag decide. Between the conditions stand the states that
the evaluation goes through. -/

namespace Rollout

abbrev Answering (α : Type) := α → Progress → Except EvaluationError Bool → Progress → Prop

section Answering

variable {α : Type} (answers : Answering α) (b : Bool)

inductive AllAnswer : List α → Progress → Progress → Prop
  | nil (s : Progress) : AllAnswer [] s s
  | cons {a : α} {rest : List α} {s t u : Progress} (ha : answers a s (.ok b) t)
      (hrest : AllAnswer rest t u) : AllAnswer (a :: rest) s u

structure FirstOther (items : List α) (s : Progress) (before : List α) (a : α) (after : List α)
    (t : Progress) (answer : Except EvaluationError Bool) (u : Progress) : Prop where
  split : items = before ++ a :: after
  before : AllAnswer answers b before s t
  answers : answers a t answer u
  other : answer ≠ .ok b

variable {answers b}

lemma FirstOther.append {items before after : List α} {a : α} {s t u : Progress}
    {answer : Except EvaluationError Bool} (h : FirstOther answers b items s before a after t answer u)
    (more : List α) :
    FirstOther answers b (items ++ more) s before a (after ++ more) t answer u where
  split := by rw [h.split, List.append_assoc, List.cons_append]
  before := h.before
  answers := h.answers
  other := h.other

lemma allAnswer_or_firstOther (htotal : ∀ a s, ∃ answer t, answers a s answer t) (items : List α)
    (s : Progress) :
    (∃ t, AllAnswer answers b items s t) ∨
      ∃ before a after t answer u, FirstOther answers b items s before a after t answer u := by
  induction items generalizing s with
  | nil => exact Or.inl ⟨s, .nil s⟩
  | cons a rest ih =>
    obtain ⟨answer, t, ha⟩ := htotal a s
    by_cases hb : answer = .ok b
    · subst hb
      rcases ih t with ⟨u, hall⟩ | ⟨before, a', after, u, answer, v, hsplit, hbefore, ha', hne⟩
      · exact Or.inl ⟨u, .cons ha hall⟩
      · exact Or.inr ⟨a :: before, a', after, u, answer, v, congrArg (a :: ·) hsplit,
          .cons ha hbefore, ha', hne⟩
    · exact Or.inr ⟨[], a, rest, s, answer, t, rfl, .nil s, ha, hb⟩

end Answering

variable (ctx : EvaluationContext) (dependency : Dependency)

def Matcher.Answers : Answering Matcher := fun m s answer t =>
  (m.evaluate ctx dependency).runFrom s = (answer, t)

inductive Condition.Answers (c : Condition) (s : Progress) :
    Except EvaluationError Bool → Progress → Prop
  | allMatch {t : Progress} (hall : AllAnswer (Matcher.Answers ctx dependency) true c.matchers s t) :
      c.Answers s (.ok true) t
  | stopped {before after : List Matcher} {m : Matcher} {answer : Except EvaluationError Bool}
      {t u : Progress}
      (hm : FirstOther (Matcher.Answers ctx dependency) true c.matchers s before m after t answer u) :
      c.Answers s answer u

section Matchers

lemma runFrom_allMatch_cons (m : Matcher) (rest : List Matcher) (s : Progress) :
    (allMatch ctx dependency (m :: rest)).runFrom s =
      match (m.evaluate ctx dependency).runFrom s with
      | (.ok true, t) => (allMatch ctx dependency rest).runFrom t
      | (answer, t) => (answer, t) := by
  rw [allMatch, EvaluationM.runFrom_bind]
  rcases (m.evaluate ctx dependency).runFrom s with ⟨e | b, t⟩
  · rfl
  · cases b <;> rfl

variable {ctx dependency}

lemma runFrom_allMatch_append {before : List Matcher} {s t : Progress}
    (h : AllAnswer (Matcher.Answers ctx dependency) true before s t) (rest : List Matcher) :
    (allMatch ctx dependency (before ++ rest)).runFrom s =
      (allMatch ctx dependency rest).runFrom t := by
  induction h with
  | nil s => rfl
  | cons ha _ ih =>
    rw [List.cons_append, runFrom_allMatch_cons, ha]
    exact ih

lemma Condition.Answers.runFrom_matches {c : Condition} {s t : Progress}
    {answer : Except EvaluationError Bool} (h : c.Answers ctx dependency s answer t) :
    (c.matches ctx dependency).runFrom s = (answer, t) := by
  rw [Condition.matches]
  cases c.combiner
  cases h with
  | allMatch hall =>
    have hrun := runFrom_allMatch_append hall []
    rwa [List.append_nil] at hrun
  | stopped hm =>
    have ha : (Matcher.evaluate ctx dependency _).runFrom _ = _ := hm.answers
    rw [hm.split, runFrom_allMatch_append hm.before, runFrom_allMatch_cons, ha]
    rcases answer with e | b
    · rfl
    · cases b
      · rfl
      · exact absurd rfl hm.other

lemma Condition.exists_answers (c : Condition) (s : Progress) :
    ∃ answer t, c.Answers ctx dependency s answer t := by
  have htotal (m : Matcher) (s : Progress) : ∃ answer t, m.Answers ctx dependency s answer t :=
    ⟨_, _, rfl⟩
  rcases allAnswer_or_firstOther htotal c.matchers s with
    ⟨t, hall⟩ | ⟨before, m, after, t, answer, u, hm⟩
  · exact ⟨_, t, .allMatch hall⟩
  · exact ⟨answer, u, .stopped hm⟩

lemma Condition.answers_iff {c : Condition} {s t : Progress} {answer : Except EvaluationError Bool} :
    c.Answers ctx dependency s answer t ↔ (c.matches ctx dependency).runFrom s = (answer, t) := by
  constructor
  · exact Answers.runFrom_matches
  · intro hrun
    obtain ⟨answer', t', h⟩ : ∃ answer' t', c.Answers ctx dependency s answer' t' :=
      c.exists_answers s
    obtain ⟨rfl, rfl⟩ := Prod.mk.inj (h.runFrom_matches.symm.trans hrun)
    exact h

end Matchers

def Condition.NoneRollout (conditions : List Condition) : Prop :=
  ∀ c ∈ conditions, c.conditionType ≠ .rollout

def Condition.RolloutReached (conditions : List Condition) (s t : Progress) : Prop :=
  ∃ before r after, conditions = before ++ r :: after ∧ NoneRollout before ∧
    r.conditionType = .rollout ∧ AllAnswer (Condition.Answers ctx dependency) false before s t

lemma Condition.RolloutReached.cons {ctx : EvaluationContext} {dependency : Dependency} {c : Condition}
    {conditions : List Condition} {s t u : Progress} (hc : c.conditionType ≠ .rollout)
    (ha : c.Answers ctx dependency s (.ok false) t)
    (h : RolloutReached ctx dependency conditions t u) :
    RolloutReached ctx dependency (c :: conditions) s u := by
  obtain ⟨before, r, after, rfl, hfirst, hr, hbefore⟩ := h
  exact ⟨c :: before, r, after, rfl, List.forall_mem_cons.mpr ⟨hc, hfirst⟩, hr, .cons ha hbefore⟩

/-- The flag gives this treatment for this reason, with the configuration that it holds for it. -/
structure Evaluation.Carries (e : Evaluation) (flag : FeatureFlag) (treatment label : String) :
    Prop where
  treatment_eq : e.treatment = treatment
  label_eq : e.label = label
  changeNumber_eq : e.changeNumber = flag.changeNumber
  configuration_eq : e.configuration = flag.configurations.find? treatment

lemma Evaluation.carries_ofFlag (flag : FeatureFlag) (treatment label : String) :
    (ofFlag flag treatment label).Carries flag treatment label :=
  ⟨rfl, rfl, rfl, rfl⟩

lemma Evaluation.carries_iff {e : Evaluation} {flag : FeatureFlag} {treatment label : String} :
    e.Carries flag treatment label ↔ e = .ofFlag flag treatment label := by
  constructor
  · intro h
    cases e
    rw [ofFlag, Evaluation.mk.injEq]
    exact ⟨h.treatment_eq, h.label_eq, h.changeNumber_eq, h.configuration_eq⟩
  · rintro rfl
    exact carries_ofFlag flag treatment label

lemma Evaluation.Carries.unique {e e' : Evaluation} {flag : FeatureFlag} {treatment label : String}
    (h : e.Carries flag treatment label) (h' : e'.Carries flag treatment label) : e = e' :=
  (carries_iff.mp h).trans (carries_iff.mp h').symm

namespace FeatureFlag

/-- The bucketing key is outside the traffic allocation. -/
def LeavesOut (flag : FeatureFlag) (bucketingKey : String) : Prop :=
  flag.trafficAllocation.toInt < 100 ∧ flag.trafficAllocation.toInt <
    (Bucketing.bucket bucketingKey flag.trafficAllocationSeed flag.algo : Int)

lemma isInTraffic_eq_false_iff {flag : FeatureFlag} {bucketingKey : String} :
    flag.isInTraffic bucketingKey = false ↔ flag.LeavesOut bucketingKey := by
  rw [isInTraffic, Bool.or_eq_false_iff, decide_eq_false_iff_not, decide_eq_false_iff_not, Int.not_le,
    Int.not_le, LeavesOut]

structure EndsOutside (flag : FeatureFlag) (s t : Progress) : Prop where
  live : flag.killed = false
  out : flag.LeavesOut ctx.bucketingKey
  reached : Condition.RolloutReached ctx dependency flag.conditions s t

/-- What is decided for a flag when its evaluation begins in the state `s`, and in which state it
ends. A condition decides for a key outside the traffic allocation only if no rollout condition has
been reached. -/
inductive Decided (flag : FeatureFlag) (s : Progress) :
    Except EvaluationError Evaluation → Progress → Prop
  | killed {e : Evaluation} (hkilled : flag.killed = true)
      (he : e.Carries flag flag.defaultTreatment "killed") : flag.Decided s (.ok e) s
  | matched {before after : List Condition} {i : Condition} {t u : Progress} {e : Evaluation}
      (hlive : flag.killed = false)
      (hi : FirstOther (Condition.Answers ctx dependency) false flag.conditions s before i after t
        (.ok true) u)
      (htraffic : flag.LeavesOut ctx.bucketingKey → Condition.NoneRollout (before ++ [i]))
      (he : e.Carries flag (Bucketing.treatment ctx.bucketingKey flag.seed flag.algo i.partitions)
        i.label) : flag.Decided s (.ok e) u
  | failed {before after : List Condition} {i : Condition} {t u : Progress} {err : EvaluationError}
      (hlive : flag.killed = false)
      (hi : FirstOther (Condition.Answers ctx dependency) false flag.conditions s before i after t
        (.error err) u)
      (htraffic : flag.LeavesOut ctx.bucketingKey → Condition.NoneRollout (before ++ [i])) :
      flag.Decided s (.error err) u
  | outsideTraffic {t : Progress} {e : Evaluation} (hends : flag.EndsOutside ctx dependency s t)
      (he : e.Carries flag flag.defaultTreatment "not in split") : flag.Decided s (.ok e) t
  | noneMatched {t : Progress} {e : Evaluation} (hlive : flag.killed = false)
      (hall : AllAnswer (Condition.Answers ctx dependency) false flag.conditions s t)
      (htraffic : flag.LeavesOut ctx.bucketingKey → Condition.NoneRollout flag.conditions)
      (he : e.Carries flag flag.defaultTreatment "default rule") : flag.Decided s (.ok e) t

lemma runFrom_inquiryOf_of_leavesOut {flag : FeatureFlag} {r : Condition}
    (hr : r.conditionType = .rollout) (hout : flag.LeavesOut ctx.bucketingKey) (number : Nat)
    (rest : List Condition) (s : Progress) :
    ((flag.inquiryOf ctx number (r :: rest)).run ctx dependency).runFrom s =
      (.ok (.ofFlag flag flag.defaultTreatment Label.outsideTraffic), s) := by
  rw [inquiryOf, if_pos ⟨hr, isInTraffic_eq_false_iff.mpr hout⟩]
  rfl

lemma runFrom_inquiryOf_cons {flag : FeatureFlag} {c : Condition}
    (h : flag.LeavesOut ctx.bucketingKey → c.conditionType ≠ .rollout) (number : Nat)
    (rest : List Condition) (s : Progress) :
    ((flag.inquiryOf ctx number (c :: rest)).run ctx dependency).runFrom s =
      match (c.matches ctx dependency).runFrom s with
      | (.ok true, t) => (.ok (flag.serve ctx.bucketingKey c), t)
      | (.ok false, t) => ((flag.inquiryOf ctx (number + 1) rest).run ctx dependency).runFrom t
      | (.error e, t) => (.error e, t) := by
  have hno : ¬ (c.conditionType = .rollout ∧ flag.isInTraffic ctx.bucketingKey = false) :=
    fun ⟨hr, hout⟩ => h (isInTraffic_eq_false_iff.mp hout) hr
  rw [inquiryOf, if_neg hno, Inquiry.run_bind, EvaluationM.runFrom_bind,
    Condition.matches_eq_run ctx dependency flag.name number]
  rcases ((c.inquiry ctx flag.name number).run ctx dependency).runFrom s with ⟨e | b, t⟩
  · rfl
  · cases b <;> rfl

variable {ctx dependency} {flag : FeatureFlag} {s t : Progress}

lemma runFrom_inquiryOf_append {before : List Condition}
    (hbefore : AllAnswer (Condition.Answers ctx dependency) false before s t)
    (h : flag.LeavesOut ctx.bucketingKey → Condition.NoneRollout before) (number : Nat)
    (rest : List Condition) :
    ((flag.inquiryOf ctx number (before ++ rest)).run ctx dependency).runFrom s =
      ((flag.inquiryOf ctx (number + before.length) rest).run ctx dependency).runFrom t := by
  induction hbefore generalizing number with
  | nil s => rfl
  | cons ha _ ih =>
    rw [List.cons_append, runFrom_inquiryOf_cons ctx dependency fun hout => h hout _ List.mem_cons_self,
      ha.runFrom_matches, List.length_cons, ← Nat.add_assoc, Nat.add_right_comm]
    exact ih (fun hout c hc => h hout c (List.mem_cons_of_mem _ hc)) (number + 1)

lemma runFrom_inquiryOf_firstOther {before after : List Condition} {i : Condition} {u : Progress}
    {answer : Except EvaluationError Bool}
    (hi : FirstOther (Condition.Answers ctx dependency) false flag.conditions s before i after t
      answer u)
    (h : flag.LeavesOut ctx.bucketingKey → Condition.NoneRollout (before ++ [i])) (number : Nat) :
    ((flag.inquiryOf ctx number flag.conditions).run ctx dependency).runFrom s =
      (answer.map fun _ => flag.serve ctx.bucketingKey i, u) := by
  rw [hi.split,
    runFrom_inquiryOf_append hi.before fun hout c hc => h hout c (List.mem_append_left _ hc),
    runFrom_inquiryOf_cons ctx dependency fun hout => h hout i (by simp), hi.answers.runFrom_matches]
  rcases answer with e | b
  · rfl
  · cases b
    · exact absurd rfl hi.other
    · rfl

lemma Decided.runFrom_evaluateBody {result : Except EvaluationError Evaluation}
    (h : flag.Decided ctx dependency s result t) :
    (flag.evaluateBody ctx dependency).runFrom s = (result, t) := by
  rw [evaluateBody_eq_run, inquiry]
  cases h with
  | killed hkilled he =>
    rw [if_pos hkilled, Evaluation.carries_iff.mp he]
    rfl
  | matched hlive hi htraffic he =>
    rw [if_neg (Bool.eq_false_iff.mp hlive), runFrom_inquiryOf_firstOther hi htraffic,
      Evaluation.carries_iff.mp he]
    rfl
  | failed hlive hi htraffic =>
    rw [if_neg (Bool.eq_false_iff.mp hlive), runFrom_inquiryOf_firstOther hi htraffic]
    rfl
  | outsideTraffic hends he =>
    obtain ⟨hlive, hout, before, r, after, hsplit, hfirst, hr, hbefore⟩ := hends
    rw [if_neg (Bool.eq_false_iff.mp hlive), hsplit,
      runFrom_inquiryOf_append hbefore fun _ => hfirst, runFrom_inquiryOf_of_leavesOut _ _ hr hout,
      Evaluation.carries_iff.mp he]
    rfl
  | noneMatched hlive hall htraffic he =>
    have hrun := runFrom_inquiryOf_append hall htraffic 0 []
    rw [List.append_nil] at hrun
    rw [if_neg (Bool.eq_false_iff.mp hlive), hrun, Evaluation.carries_iff.mp he]
    rfl

lemma exists_first_rollout {conditions : List Condition} (h : ¬ Condition.NoneRollout conditions) :
    ∃ before r after, conditions = before ++ r :: after ∧ Condition.NoneRollout before ∧
      r.conditionType = .rollout := by
  induction conditions with
  | nil => exact absurd (fun _ hc => absurd hc List.not_mem_nil) h
  | cons c rest ih =>
    by_cases hc : c.conditionType = .rollout
    · exact ⟨[], c, rest, rfl, fun _ hm => absurd hm List.not_mem_nil, hc⟩
    · have hrest : ¬ Condition.NoneRollout rest :=
        fun hnone => h (List.forall_mem_cons.mpr ⟨hc, hnone⟩)
      obtain ⟨before, r, after, rfl, hfirst, hr⟩ := ih hrest
      exact ⟨c :: before, r, after, rfl, List.forall_mem_cons.mpr ⟨hc, hfirst⟩, hr⟩

lemma Decided.of_firstOther {before after : List Condition} {i : Condition} {u : Progress}
    {answer : Except EvaluationError Bool} (hlive : flag.killed = false)
    (hi : FirstOther (Condition.Answers ctx dependency) false flag.conditions s before i after t
      answer u)
    (h : flag.LeavesOut ctx.bucketingKey → Condition.NoneRollout (before ++ [i])) :
    ∃ result, flag.Decided ctx dependency s result u := by
  rcases answer with e | b
  · exact ⟨_, .failed hlive hi h⟩
  · cases b
    · exact absurd rfl hi.other
    · exact ⟨_, .matched hlive hi h (Evaluation.carries_ofFlag _ _ _)⟩

lemma exists_decided (flag : FeatureFlag) (s : Progress) :
    ∃ result t, flag.Decided ctx dependency s result t := by
  cases hlive : flag.killed with
  | true => exact ⟨_, s, .killed hlive (Evaluation.carries_ofFlag _ _ _)⟩
  | false =>
    by_cases hreach : flag.LeavesOut ctx.bucketingKey → Condition.NoneRollout flag.conditions
    · rcases allAnswer_or_firstOther Condition.exists_answers flag.conditions s with
        ⟨t, hall⟩ | ⟨before, i, after, t, answer, u, hi⟩
      · exact ⟨_, t, .noneMatched hlive hall hreach (Evaluation.carries_ofFlag _ _ _)⟩
      · obtain ⟨result, hdecided⟩ := Decided.of_firstOther hlive hi fun hout c hc => by
          refine hreach hout c ?_
          rw [hi.split, List.append_cons]
          exact List.mem_append_left after hc
        exact ⟨result, u, hdecided⟩
    · obtain ⟨hout, hsome⟩ := Classical.not_imp.mp hreach
      -- Only the conditions before the first rollout condition can decide.
      obtain ⟨before, r, after, hsplit, hfirst, hr⟩ := exists_first_rollout hsome
      rcases allAnswer_or_firstOther Condition.exists_answers before s with
        ⟨t, hbefore⟩ | ⟨before', i, after', t, answer, u, hi⟩
      · have hends : flag.EndsOutside ctx dependency s t :=
          ⟨hlive, hout, before, r, after, hsplit, hfirst, hr, hbefore⟩
        exact ⟨_, t, .outsideTraffic hends (Evaluation.carries_ofFlag _ _ _)⟩
      · have hi' := hi.append (r :: after)
        rw [← hsplit] at hi'
        obtain ⟨result, hdecided⟩ := Decided.of_firstOther hlive hi' fun _ c hc => by
          refine hfirst c ?_
          rw [hi.split, List.append_cons]
          exact List.mem_append_left after' hc
        exact ⟨result, u, hdecided⟩

lemma evaluateBody_eq_iff_decided {result : Except EvaluationError Evaluation} :
    (flag.evaluateBody ctx dependency).runFrom s = (result, t) ↔
      flag.Decided ctx dependency s result t := by
  constructor
  · intro hrun
    obtain ⟨result', t', h⟩ : ∃ result' t', flag.Decided ctx dependency s result' t' :=
      exists_decided flag s
    obtain ⟨rfl, rfl⟩ := Prod.mk.inj (h.runFrom_evaluateBody.symm.trans hrun)
    exact h
  · exact Decided.runFrom_evaluateBody

lemma Decided.carries {result : Except EvaluationError Evaluation}
    (h : flag.Decided ctx dependency s result t) {e : Evaluation} (he : result = .ok e) :
    e.Carries flag e.treatment e.label := by
  cases h with
  | failed => cases he
  | killed _ hc | matched _ _ _ hc | outsideTraffic _ hc | noneMatched _ _ _ hc =>
    cases he
    exact ⟨rfl, rfl, hc.changeNumber_eq, hc.treatment_eq ▸ hc.configuration_eq⟩

def withConditions (flag : FeatureFlag) (conditions : List Condition) : FeatureFlag :=
  { flag with conditions }

lemma inquiryOf_withConditions (flag : FeatureFlag) (conditions walked : List Condition)
    (number : Nat) :
    (flag.withConditions conditions).inquiryOf ctx number walked =
      flag.inquiryOf ctx number walked := by
  induction walked generalizing number with
  | nil => rfl
  | cons c rest ih =>
    rw [inquiryOf, inquiryOf, ih]
    rfl

lemma inquiryOf_eq_of_leavesOut (hout : flag.LeavesOut ctx.bucketingKey) {r r' : Condition}
    (hr : r.conditionType = .rollout) (hr' : r'.conditionType = .rollout)
    (before after after' : List Condition) (number : Nat) :
    flag.inquiryOf ctx number (before ++ r' :: after') =
      flag.inquiryOf ctx number (before ++ r :: after) := by
  have hno := isInTraffic_eq_false_iff.mpr hout
  induction before generalizing number with
  | nil =>
    rw [List.nil_append, List.nil_append, inquiryOf, inquiryOf, if_pos ⟨hr', hno⟩, if_pos ⟨hr, hno⟩]
  | cons c rest ih => rw [List.cons_append, List.cons_append, inquiryOf, inquiryOf, ih]

/-- The walk through the conditions follows the table, and every evaluation carries what the flag
holds for its treatment. No matcher is evaluated for a killed flag, nor from the first rollout
condition on for a key outside the traffic allocation: other matchers would change nothing. -/
theorem evaluateBody_decided (ctx : EvaluationContext) (dependency : Dependency) (flag : FeatureFlag)
    (s t : Progress) (result : Except EvaluationError Evaluation) :
    ((flag.evaluateBody ctx dependency).runFrom s = (result, t) ↔
      flag.Decided ctx dependency s result t) ∧
    (∀ e, ((flag.evaluateBody ctx dependency).runFrom s).1 = .ok e →
      e.changeNumber = flag.changeNumber ∧
        e.configuration = flag.configurations.find? e.treatment) ∧
    (flag.killed = true → ∀ conditions,
      (flag.withConditions conditions).evaluateBody ctx dependency =
        flag.evaluateBody ctx dependency) ∧
    (flag.LeavesOut ctx.bucketingKey → ∀ before r after, flag.conditions = before ++ r :: after →
      r.conditionType = .rollout → ∀ r' after', r'.conditionType = .rollout →
        (flag.withConditions (before ++ r' :: after')).evaluateBody ctx dependency =
          flag.evaluateBody ctx dependency) := by
  refine ⟨evaluateBody_eq_iff_decided, fun e he => ?_, fun hkilled conditions => ?_, ?_⟩
  · have hc := (evaluateBody_eq_iff_decided.mp rfl).carries he
    exact ⟨hc.changeNumber_eq, hc.configuration_eq⟩
  · rw [evaluateBody, evaluateBody, if_pos hkilled]
    exact if_pos hkilled
  · intro hout before r after hsplit hr r' after' hr'
    rw [evaluateBody_eq_run, evaluateBody_eq_run, inquiry, inquiry, inquiryOf_withConditions, hsplit]
    change (if flag.killed then _ else flag.inquiryOf ctx 0 (before ++ r' :: after')).run ctx
      dependency = _
    rw [inquiryOf_eq_of_leavesOut hout hr hr']
    rfl

def staged : FeatureFlag :=
  { guarded "checkout" [.onFlag "search"] with
    trafficAllocation := 5
    configurations := .ofList [("off", "grey"), ("on", "green")]
    conditions := [⟨.whitelist, .all, [.onFlag "beta"], [⟨"on", 100⟩], "testers"⟩,
      ⟨.rollout, .all, [.onFlag "search"], [⟨"on", 100⟩], "default rule"⟩] }

def stagedContext : EvaluationContext := ⟨none, none, "user-1", "user-1", .empty⟩

theorem evaluateBody_decided_staged :
    let dependency : Dependency := fun _ => pure none
    let result := .ok ⟨"off", "not in split", 1, some "grey"⟩
    staged.LeavesOut "user-1" ∧
      ((staged.evaluateBody stagedContext dependency).runFrom .start).1 = result ∧
      (∃ t, staged.Decided stagedContext dependency .start result t) ∧
      (staged.withConditions [⟨.whitelist, .all, [.onFlag "beta"], [⟨"on", 100⟩], "testers"⟩,
          .unsupported]).evaluateBody stagedContext dependency =
        staged.evaluateBody stagedContext dependency := by
  intro dependency result
  have hout : staged.LeavesOut "user-1" := by
    rw [← isInTraffic_eq_false_iff]
    decide +kernel
  have hrun : (staged.evaluateBody stagedContext dependency).runFrom .start = (result, .start) := by
    decide +kernel
  obtain ⟨hdecided, -, -, hothers⟩ :=
    evaluateBody_decided stagedContext dependency staged .start .start result
  exact ⟨hout, congrArg Prod.fst hrun, ⟨_, hdecided.mp hrun⟩,
    hothers hout [_] _ [] rfl rfl .unsupported [] rfl⟩

end FeatureFlag

end Rollout
