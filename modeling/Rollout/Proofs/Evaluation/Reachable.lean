import Rollout.Proofs.Evaluation.Calls
import Rollout.Proofs.Evaluation.Dependencies

namespace Rollout

variable {α β : Type} {flags segments : String → Prop}

def Waiting.Within (flags segments : String → Prop) : Waiting α → Prop
  | call next => ∀ e, (next e).Within flags segments
  | flag _ _ next outer => (∀ e, (next e).Within flags segments) ∧ outer.Within flags segments

def Activity.Within (flags segments : String → Prop) : Activity α → Prop
  | asking q => q.Within flags segments
  | walking _ _ q outer => q.Within flags segments ∧ outer.Within flags segments
  | failing _ _ _ outer => outer.Within flags segments
  | finished _ => True

lemma Waiting.Within.answer {w : Waiting α} (h : w.Within flags segments) (e : Option Evaluation) :
    (w.answer e).Within flags segments := by
  cases w with
  | call next => exact h e
  | flag name cutBefore next outer => exact ⟨h.1 e, h.2⟩

lemma Waiting.Within.fail {w : Waiting α} (h : w.Within flags segments) (e : EvaluationError) :
    (w.fail e).Within flags segments := by
  cases w with
  | call next => trivial
  | flag name cutBefore next outer => exact h.2

structure EvaluationContext.Agree (flags segments : String → Prop) (ctx ctx' : EvaluationContext) :
    Prop where
  stored : ∀ name, flags name → ctx.flag? name = ctx'.flag? name
  inquiry : ∀ name flag, flags name → ctx.flag? name = some flag →
    flag.inquiry ctx = flag.inquiry ctx' ∧ (flag.inquiry ctx).Within flags segments
  membership : ∀ segment value, segments segment →
    EvaluationM.isInSegment ctx segment value = EvaluationM.isInSegment ctx' segment value

namespace EvaluationContext.Agree

variable {ctx ctx' : EvaluationContext}

lemma ask (h : Agree flags segments ctx ctx') {w : Waiting α} (hw : w.Within flags segments)
    {name : String} (hn : flags name) (s : Progress) :
    w.ask ctx s name = w.ask ctx' s name ∧ (w.ask ctx s name).activity.Within flags segments := by
  rw [Waiting.ask, Waiting.ask, ← h.stored name hn]
  by_cases hp : name ∈ s.inProgress
  · rw [if_pos hp, if_pos hp]
    exact ⟨rfl, hw.answer none⟩
  · rw [if_neg hp, if_neg hp]
    cases s.memo.lookup name with
    | some e => exact ⟨rfl, hw.answer (some e)⟩
    | none =>
      cases hf : ctx.flag? name with
      | none => exact ⟨rfl, hw.answer (some .notFound)⟩
      | some flag =>
        obtain ⟨hq, hwithin⟩ := h.inquiry name flag hn hf
        have hwalk : (⟨.walking name s.cut (flag.inquiry ctx) w, s.enter name⟩ : Moment α) =
            ⟨.walking name s.cut (flag.inquiry ctx') w, s.enter name⟩ := by rw [hq]
        exact ⟨hwalk, hwithin, hw⟩

lemma step (h : Agree flags segments ctx ctx') {p : Place α β} {finish : β → Moment α}
    {s : Progress} {q : Inquiry β} (hq : q.Within flags segments)
    (hfinish : ∀ value, (finish value).activity.Within flags segments)
    (hgo : ∀ q, q.Within flags segments → (p.go q).Within flags segments)
    (hwait : ∀ next, (∀ e, (next e).Within flags segments) → (p.wait next).Within flags segments)
    (hfail : ∀ e, (p.fail e).Within flags segments) :
    p.step ctx finish s q = p.step ctx' finish s q ∧
      (p.step ctx finish s q).activity.Within flags segments := by
  cases q with
  | done value => exact ⟨rfl, hfinish value⟩
  | membership place segment value next =>
    rw [Place.step, Place.step, ← h.membership segment value hq.1]
    rcases (EvaluationM.isInSegment ctx segment value).runFrom s with ⟨e | b, t⟩
    · exact ⟨rfl, hfail e⟩
    · exact ⟨rfl, hgo (next b) (hq.2 b)⟩
  | evaluation name next => exact h.ask (hwait next hq.2) hq.1 s

lemma next (h : Agree flags segments ctx ctx') {m : Moment α}
    (hm : m.activity.Within flags segments) :
    m.next ctx = m.next ctx' ∧ (m.next ctx).activity.Within flags segments := by
  obtain ⟨activity, s⟩ := m
  cases activity with
  | asking q =>
    exact h.step (p := .call) hm (fun _ => trivial) (fun _ hq => hq) (fun _ hn => hn)
      fun _ => trivial
  | walking name cutBefore q outer =>
    obtain ⟨hq, houter⟩ := hm
    exact h.step (p := .within name cutBefore outer) hq (fun e => houter.answer (some e))
      (fun _ hq => ⟨hq, houter⟩) (fun _ hn => ⟨hn, houter⟩) fun _ => houter
  | failing e name cutBefore outer => exact ⟨rfl, hm.fail e⟩
  | finished result => exact ⟨rfl, trivial⟩

lemma outcome_eq (h : Agree flags segments ctx ctx') {outside : List String} {q : Inquiry α}
    (hq : q.Within flags segments) : q.outcome ctx outside = q.outcome ctx' outside := by
  have hstep : ∀ m m' : Moment α, m = m' ∧ m.activity.Within flags segments →
      m.next ctx = m'.next ctx' ∧ (m.next ctx).activity.Within flags segments := by
    rintro m _ ⟨rfl, hm⟩
    exact h.next hm
  obtain ⟨s, s', hs, hs', heq, -⟩ := Inquiry.outcome_induction ⟨rfl, hq⟩ hstep
  obtain ⟨hresult, rfl⟩ := Moment.mk.inj heq
  exact Outcome.ext (Activity.finished.inj hresult) (hs.symm.trans hs')

end EvaluationContext.Agree

namespace EvaluationContext

def Reaches (ctx : EvaluationContext) (name other : String) : Prop :=
  Relation.ReflTransGen ctx.DependsOn name other

lemma reaches_mem {ctx : EvaluationContext} {names : List String} {name other : String}
    (hn : name ∈ names)
    (hclosed : ∀ n ∈ names, ∀ flag, ctx.flag? n = some flag → ∀ d ∈ flag.dependencies, d ∈ names)
    (h : ctx.Reaches name other) : other ∈ names := by
  induction h with
  | refl => exact hn
  | tail _ hd ih =>
    obtain ⟨flag, hf, hd⟩ := hd
    exact hclosed _ ih flag hf _ hd

/-- What the flag `name` can reach, and what the matchers there name, is the same in both contexts. -/
structure AgreeFrom (name : String) (ctx ctx' : EvaluationContext) : Prop where
  stored : ∀ other, ctx.Reaches name other → ctx.flag? other = ctx'.flag? other
  attributes : ∀ other flag, ctx.Reaches name other → ctx.flag? other = some flag →
    ∀ a ∈ flag.attributeNames, ctx.attributes.find? a = ctx'.attributes.find? a
  segments : Option.Rel
    (fun lookup lookup' => ∀ other flag, ctx.Reaches name other → ctx.flag? other = some flag →
      ∀ segment ∈ flag.segments, ∀ value, lookup segment value = lookup' segment value)
    ctx.segments ctx'.segments

variable {ctx ctx' : EvaluationContext} {name : String}

def NamedFrom (ctx : EvaluationContext) (name segment : String) : Prop :=
  ∃ other flag, ctx.Reaches name other ∧ ctx.flag? other = some flag ∧ segment ∈ flag.segments

lemma AgreeFrom.isInSegment_eq (h : AgreeFrom name ctx ctx') {segment : String}
    (hs : ctx.NamedFrom name segment) (value : String) :
    EvaluationM.isInSegment ctx segment value = EvaluationM.isInSegment ctx' segment value := by
  obtain ⟨other, flag, hr, hf, hm⟩ := hs
  have hrel := h.segments
  rw [EvaluationM.isInSegment, EvaluationM.isInSegment]
  generalize ctx.segments = lookup? at hrel ⊢
  generalize ctx'.segments = lookup?' at hrel ⊢
  cases hrel with
  | none => rfl
  | some hagree => simp only [hagree other flag hr hf segment hm value]

lemma AgreeFrom.agree (h : AgreeFrom name ctx ctx') (hk : ctx.key = ctx'.key)
    (hb : ctx.bucketingKey = ctx'.bucketingKey) :
    Agree (ctx.Reaches name) (ctx.NamedFrom name) ctx ctx' := by
  refine ⟨h.stored, fun other flag hr hf => ⟨?_, ?_⟩, fun segment value hs => h.isInSegment_eq hs value⟩
  · apply FeatureFlag.inquiry_congr hb
    intro c hc m hm
    rw [Matcher.input?, Matcher.input?, hk]
    cases ha : m.attributeName with
    | none => rfl
    | some a =>
      simp only [h.attributes other flag hr hf a (FeatureFlag.mem_attributeNames hc hm ha)]
  · apply FeatureFlag.within_inquiry
    · exact fun d hd => hr.tail ⟨flag, hf, hd⟩
    · exact fun segment hs => ⟨other, flag, hr, hf, hs⟩

end EvaluationContext

open EvaluationContext (AgreeFrom)

/-- Flags that cannot be reached, attributes that no matcher there selects and segments that none
names change neither the result of an evaluation nor its lookups. -/
theorem Evaluator.evaluate_eq_of_agreeFrom {e e' : Evaluator} {name key : String}
    {bucketingKey : Option String} {attributes attributes' : Attributes}
    (h : AgreeFrom name (e.context key bucketingKey attributes)
      (e'.context key bucketingKey attributes')) :
    e.evaluate name key bucketingKey attributes = e'.evaluate name key bucketingKey attributes' := by
  rw [evaluate_eq_outcome, evaluate_eq_outcome]
  apply (h.agree rfl rfl).outcome_eq
  exact ⟨.refl, fun _ => trivial⟩

def bannerShop (banner : List Matcher) (lookup : SegmentLookup) : Evaluator where
  configuration := some (.ofFlags [
    .guarded "checkout" [.onFlag "search"],
    .guarded "search" [⟨.inSegment "staff", false, none⟩, ⟨.test .present, false, some "plan"⟩],
    .guarded "banner" banner])
  segments := some lookup

lemma bannerShop_reaches {banner : List Matcher} {lookup : SegmentLookup} {attributes : Attributes}
    {other : String}
    (h : ((bannerShop banner lookup).context "user-1" none attributes).Reaches "checkout" other) :
    other = "checkout" ∨ other = "search" := by
  have hmem : other ∈ ["checkout", "search"] := by
    refine EvaluationContext.reaches_mem (by simp) ?_ h
    intro n hn flag hf d hd
    simp only [List.mem_cons, List.not_mem_nil, or_false] at hn
    rcases hn with rfl | rfl
    · obtain rfl := Option.some.inj hf
      simpa [FeatureFlag.dependencies, Matcher.onFlag, MatcherKind.dependency?] using Or.inr hd
    · obtain rfl := Option.some.inj hf
      simp [FeatureFlag.dependencies, MatcherKind.dependency?] at hd
  simpa using hmem

theorem evaluate_eq_bannerShop :
    let e := bannerShop [] fun segment _ => segment = "staff"
    let e' := bannerShop [.onKey .present] fun segment _ => segment = "staff" ∨ segment = "beta"
    let attributes : Attributes := .ofList [("plan", .string "gold")]
    let attributes' : Attributes := .ofList [("plan", .string "gold"), ("age", .boolean true)]
    AgreeFrom "checkout" (e.context "user-1" none attributes) (e'.context "user-1" none attributes') ∧
      e.evaluate "checkout" "user-1" none attributes =
        e'.evaluate "checkout" "user-1" none attributes' := by
  intro e e' attributes attributes'
  have h : AgreeFrom "checkout" (e.context "user-1" none attributes)
      (e'.context "user-1" none attributes') := by
    refine ⟨?_, ?_, .some ?_⟩
    · intro other hr
      rcases bannerShop_reaches hr with rfl | rfl
      · rfl
      · rfl
    · intro other flag hr hf a ha
      rcases bannerShop_reaches hr with rfl | rfl
      · obtain rfl := Option.some.inj hf
        simp [FeatureFlag.attributeNames, Matcher.onFlag] at ha
      · obtain rfl := Option.some.inj hf
        obtain rfl : a = "plan" := by
          simpa [FeatureFlag.attributeNames] using ha
        rfl
    · intro other flag hr hf segment hs value
      rcases bannerShop_reaches hr with rfl | rfl
      · obtain rfl := Option.some.inj hf
        simp [FeatureFlag.segments, Matcher.onFlag, MatcherKind.segment?] at hs
      · obtain rfl := Option.some.inj hf
        obtain rfl : segment = "staff" := by
          simpa [FeatureFlag.segments, MatcherKind.segment?] using hs
        rfl
  exact ⟨h, Evaluator.evaluate_eq_of_agreeFrom h⟩

end Rollout
