import Rollout.Proofs.Evaluation.Calls

/-! The call without a lookup runs in step with the call that has one up to the first question about
a segment. There the one fails, and the other makes its first lookup. -/

namespace Rollout

variable {α : Type} (ctx : EvaluationContext)

def EvaluationContext.withSegments (ctx : EvaluationContext) (segments : Option SegmentLookup) :
    EvaluationContext :=
  { ctx with segments }

namespace Activity

def question? : Activity α → Option (String × String)
  | asking (.membership _ segment value _) => some (segment, value)
  | walking _ _ (.membership _ segment value _) _ => some (segment, value)
  | _ => none

end Activity

lemma FeatureFlag.inquiry_withSegments (flag : FeatureFlag) (segments : Option SegmentLookup) :
    flag.inquiry (ctx.withSegments segments) = flag.inquiry ctx :=
  FeatureFlag.inquiry_congr rfl fun _ _ _ _ => rfl

lemma Waiting.ask_withSegments (w : Waiting α) (s : Progress) (name : String)
    (segments : Option SegmentLookup) :
    w.ask (ctx.withSegments segments) s name = w.ask ctx s name := by
  have hf : (ctx.withSegments segments).flag? name = ctx.flag? name := rfl
  rw [Waiting.ask, Waiting.ask, hf]
  simp only [FeatureFlag.inquiry_withSegments]

lemma Waiting.lookups_ask (w : Waiting α) (s : Progress) (name : String) :
    (w.ask ctx s name).progress.lookups = s.lookups ∧ (w.ask ctx s name).activity.error? = none := by
  rw [Waiting.ask]
  by_cases hp : name ∈ s.inProgress
  · rw [if_pos hp]
    exact ⟨rfl, w.error?_answer none⟩
  · rw [if_neg hp]
    split
    · exact ⟨rfl, w.error?_answer _⟩
    · exact ⟨rfl, w.error?_answer _⟩
    · exact ⟨rfl, rfl⟩

namespace Moment

lemma next_of_no_question {m : Moment α} (h : m.activity.question? = none) :
    (∀ segments, m.next (ctx.withSegments segments) = m.next ctx) ∧
      (m.next ctx).progress.lookups = m.progress.lookups ∧
      (m.next ctx).activity.error? = m.activity.error? := by
  obtain ⟨activity, s⟩ := m
  cases activity with
  | asking q =>
    cases q with
    | done value => exact ⟨fun _ => rfl, rfl, rfl⟩
    | membership place segment value next => cases h
    | evaluation name next =>
      exact ⟨Waiting.ask_withSegments ctx _ s name, Waiting.lookups_ask ctx _ s name⟩
  | walking name cutBefore q outer =>
    cases q with
    | done e => exact ⟨fun _ => rfl, rfl, outer.error?_answer (some e)⟩
    | membership place segment value next => cases h
    | evaluation other next =>
      exact ⟨Waiting.ask_withSegments ctx _ s other, Waiting.lookups_ask ctx _ s other⟩
  | failing e name cutBefore outer => exact ⟨fun _ => rfl, rfl, outer.error?_fail e⟩
  | finished result => exact ⟨fun _ => rfl, rfl, rfl⟩

lemma next_of_question {m : Moment α} {segment value : String}
    (h : m.activity.question? = some (segment, value)) :
    m.activity.error? = none ∧
      (m.next (ctx.withSegments none)).activity.error? = some (.segmentLookupMissing segment) ∧
      ∀ lookup, (m.next (ctx.withSegments (some lookup))).activity.error? = none ∧
        (m.next (ctx.withSegments (some lookup))).progress.lookups =
          (segment, value) :: m.progress.lookups := by
  obtain ⟨activity, s⟩ := m
  cases activity with
  | asking q =>
    cases q with
    | membership place segment value next =>
      cases h
      exact ⟨rfl, rfl, fun _ => ⟨rfl, rfl⟩⟩
    | _ => cases h
  | walking name cutBefore q outer =>
    cases q with
    | membership place segment value next =>
      cases h
      exact ⟨rfl, rfl, fun _ => ⟨rfl, rfl⟩⟩
    | _ => cases h
  | _ => cases h

lemma error?_next {m : Moment α} {e : EvaluationError} (h : m.activity.error? = some e) :
    (m.next ctx).activity.error? = some e := by
  cases hq : m.activity.question? with
  | none => exact (next_of_no_question ctx hq).2.2.trans h
  | some question =>
    have hnone : m.activity.error? = none := (next_of_question ctx hq).1
    rw [hnone] at h
    cases h

lemma error?_next_of_some {m : Moment α} (lookup : SegmentLookup) (h : m.activity.error? = none) :
    (m.next (ctx.withSegments (some lookup))).activity.error? = none := by
  cases hq : m.activity.question? with
  | none => exact (next_of_no_question _ hq).2.2.trans h
  | some question => exact ((next_of_question ctx hq).2.2 lookup).1

lemma lookups_next_of_some (m : Moment α) (lookup : SegmentLookup) :
    m.progress.lookups <:+ (m.next (ctx.withSegments (some lookup))).progress.lookups := by
  cases hq : m.activity.question? with
  | none =>
    have hsame := (next_of_no_question (ctx.withSegments (some lookup)) hq).2.1
    exact ⟨[], hsame.symm⟩
  | some question =>
    rw [((next_of_question ctx hq).2.2 lookup).2]
    exact List.suffix_cons _ _

/-- How the call without a lookup stands to the one with a lookup: nothing has been asked so far, or
the former has failed with the segment for which the latter made its first lookup. -/
inductive Foretells : Moment α → Moment α → Prop
  | unasked {m : Moment α} : m.activity.error? = none → m.progress.lookups = [] → Foretells m m
  | asked {m m' : Moment α} {segment value : String} :
      m.activity.error? = some (.segmentLookupMissing segment) →
      [(segment, value)] <:+ m'.progress.lookups → Foretells m m'

lemma Foretells.next {m m' : Moment α} (h : Foretells m m') (lookup : SegmentLookup) :
    Foretells (m.next (ctx.withSegments none)) (m'.next (ctx.withSegments (some lookup))) := by
  cases h with
  | unasked he hl =>
    cases hq : m.activity.question? with
    | none =>
      obtain ⟨hsame, hlookups, herror⟩ := next_of_no_question ctx hq
      rw [hsame, hsame]
      exact .unasked (herror.trans he) (hlookups.trans hl)
    | some question =>
      obtain ⟨-, herror, hasked⟩ := next_of_question ctx hq
      have hfirst : [question] <:+ (m.next (ctx.withSegments (some lookup))).progress.lookups := by
        have hone := (hasked lookup).2
        rw [hl] at hone
        exact ⟨[], hone.symm⟩
      exact .asked herror hfirst
  | asked he hl =>
    have hsuffix := lookups_next_of_some ctx m' lookup
    exact .asked (error?_next (ctx.withSegments none) he) (hl.trans hsuffix)

lemma error?_finished_eq_none {result : Except EvaluationError α}
    (h : (Activity.finished result).error? = none) : ∃ value, result = .ok value := by
  cases result with
  | error e => cases h
  | ok value => exact ⟨value, rfl⟩

lemma error?_finished_eq_some {result : Except EvaluationError α} {e : EvaluationError}
    (h : (Activity.finished result).error? = some e) : result = .error e := by
  cases result with
  | error e' =>
    cases h
    rfl
  | ok value => cases h

lemma Foretells.finished {result result' : Except EvaluationError α} {s s' : Progress}
    (h : Foretells ⟨.finished result, s⟩ ⟨.finished result', s'⟩) :
    (∃ value, result = .ok value ∧ result' = .ok value ∧ s'.lookups = []) ∨
      ∃ segment value, result = .error (.segmentLookupMissing segment) ∧
        [(segment, value)] <:+ s'.lookups := by
  cases h with
  | unasked he hl =>
    obtain ⟨value, rfl⟩ := error?_finished_eq_none he
    exact .inl ⟨value, rfl, rfl, hl⟩
  | asked he hl => exact .inr ⟨_, _, error?_finished_eq_some he, hl⟩

end Moment

/-- A call that fails only because nothing can look up a segment that it needs. -/
structure FailsOnlyForLookup (call : Option SegmentLookup → Outcome α) : Prop where
  ok : ∀ lookup, ∃ value, (call (some lookup)).result = .ok value
  unasked : ∀ value, (call none).result = .ok value →
    ∀ lookup, call (some lookup) = ⟨.ok value, []⟩
  asked : ∀ err, (call none).result = .error err → ∃ segment, err = .segmentLookupMissing segment ∧
    ∀ lookup, ∃ value rest, (call (some lookup)).lookups = (segment, value) :: rest

namespace Inquiry

variable (outside : List String) (q : Inquiry α)

lemma exists_ok_outcome (lookup : SegmentLookup) :
    ∃ value, (q.outcome (ctx.withSegments (some lookup)) outside).result = .ok value := by
  obtain ⟨s, -, h⟩ := outcome_invariant (P := fun m : Moment α => m.activity.error? = none)
    (rfl : (Moment.start outside q).activity.error? = none)
    fun m hm => Moment.error?_next_of_some ctx lookup hm
  exact Moment.error?_finished_eq_none h

lemma foretells_outcome (lookup : SegmentLookup) :
    (∃ value, (q.outcome (ctx.withSegments none) outside).result = .ok value ∧
      q.outcome (ctx.withSegments (some lookup)) outside = ⟨.ok value, []⟩) ∨
    ∃ segment value rest,
      (q.outcome (ctx.withSegments none) outside).result = .error (.segmentLookupMissing segment) ∧
      (q.outcome (ctx.withSegments (some lookup)) outside).lookups = (segment, value) :: rest := by
  have hstart : Moment.Foretells (.start outside q) (.start outside q) := .unasked rfl rfl
  obtain ⟨s, s', -, hs', h⟩ := outcome_induction hstart fun m m' h => h.next ctx lookup
  rcases h.finished with ⟨value, hr, hr', hl⟩ | ⟨segment, value, hr, later, hl⟩
  · refine .inl ⟨value, hr, Outcome.ext hr' ?_⟩
    rw [← hs', hl, List.reverse_nil]
  · refine .inr ⟨segment, value, later.reverse, hr, ?_⟩
    rw [← hs', ← hl, List.reverse_append]
    rfl

lemma failsOnlyForLookup_outcome :
    FailsOnlyForLookup fun segments => q.outcome (ctx.withSegments segments) outside := by
  refine ⟨q.exists_ok_outcome ctx outside, fun value hv lookup => ?_, fun err he => ?_⟩
  · rcases q.foretells_outcome ctx outside lookup with ⟨v, hr, hlookup⟩ | ⟨segment, v, rest, hr, -⟩
    · obtain rfl := Except.ok.inj (hr.symm.trans hv)
      exact hlookup
    · cases hr.symm.trans hv
  · have hmissing : ∃ segment, err = .segmentLookupMissing segment := by
      rcases q.foretells_outcome ctx outside (fun _ _ => false) with ⟨v, hr, -⟩ | ⟨segment, v, rest, hr, -⟩
      · cases hr.symm.trans he
      · exact ⟨segment, Except.error.inj (he.symm.trans hr)⟩
    obtain ⟨segment, rfl⟩ := hmissing
    refine ⟨segment, rfl, fun lookup => ?_⟩
    rcases q.foretells_outcome ctx outside lookup with ⟨v, hr, -⟩ | ⟨segment', v, rest, hr, hl⟩
    · cases hr.symm.trans he
    · cases hr.symm.trans he
      exact ⟨v, rest, hl⟩

end Inquiry

/-- With a lookup every evaluation succeeds. Without one it fails just when it would have made a
lookup, and names the segment of the first. -/
theorem Evaluator.failsOnlyForLookup (configuration : Option Configuration) (key : String)
    (bucketingKey : Option String) (attributes : Attributes) :
    let evaluator := fun segments => Evaluator.mk configuration segments
    (∀ name, FailsOnlyForLookup fun segments =>
      (evaluator segments).evaluate name key bucketingKey attributes) ∧
    (∀ names, FailsOnlyForLookup fun segments =>
      (evaluator segments).evaluateMany names key bucketingKey attributes) ∧
    ∀ flag, FailsOnlyForLookup fun segments =>
      (evaluator segments).evaluateFlag flag key bucketingKey attributes := by
  intro evaluator
  let ctx := (evaluator none).context key bucketingKey attributes
  have hctx : ∀ segments, (evaluator segments).context key bucketingKey attributes =
      ctx.withSegments segments := fun _ => rfl
  refine ⟨fun name => ?_, fun names => ?_, fun flag => ?_⟩
  · simp only [evaluate_eq_outcome, hctx]
    exact Inquiry.failsOnlyForLookup_outcome ctx [] _
  · simp only [evaluateMany_eq_outcome, hctx]
    exact Inquiry.failsOnlyForLookup_outcome ctx [] _
  · simp only [evaluateFlag_eq_outcome, hctx, FeatureFlag.inquiry_withSegments]
    exact Inquiry.failsOnlyForLookup_outcome ctx [flag.name] _

end Rollout
