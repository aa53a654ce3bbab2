import Mathlib.Logic.Relation
import Rollout.Proofs.Evaluation.Inquiry

namespace Rollout

namespace MatcherKind

def dependency? : MatcherKind → Option String
  | .inTreatments flag _ => some flag
  | _ => none

def segment? : MatcherKind → Option String
  | .inSegment segment => some segment
  | _ => none

end MatcherKind

namespace FeatureFlag

def matchers (flag : FeatureFlag) : List Matcher := flag.conditions.flatMap Condition.matchers

def dependencies (flag : FeatureFlag) : List String :=
  flag.matchers.filterMap fun m => m.kind.dependency?

def segments (flag : FeatureFlag) : List String :=
  flag.matchers.filterMap fun m => m.kind.segment?

def attributeNames (flag : FeatureFlag) : List String :=
  flag.matchers.filterMap Matcher.attributeName

end FeatureFlag

def Matcher.onFlag (flag : String) : Matcher := ⟨.inTreatments flag (.ofList ["on"]), false, none⟩

def FeatureFlag.guarded (name : String) (matchers : List Matcher) : FeatureFlag where
  name := name
  seed := 1
  trafficAllocation := 100
  trafficAllocationSeed := 1
  killed := false
  defaultTreatment := "off"
  changeNumber := 1
  algo := .murmur
  conditions := [⟨.rollout, .all, matchers, [⟨"on", 100⟩], "in segment"⟩]
  configurations := .empty

def EvaluationContext.DependsOn (ctx : EvaluationContext) (name other : String) : Prop :=
  ∃ flag, ctx.flag? name = some flag ∧ other ∈ flag.dependencies

def EvaluationContext.Acyclic (ctx : EvaluationContext) : Prop :=
  ∀ name, ¬ Relation.TransGen ctx.DependsOn name name

lemma EvaluationContext.acyclic_of_lt {ctx : EvaluationContext} (rank : String → Nat)
    (h : ∀ name other, ctx.DependsOn name other → rank other < rank name) : ctx.Acyclic := by
  have hlt : ∀ {name other}, Relation.TransGen ctx.DependsOn name other → rank other < rank name := by
    intro name other ht
    induction ht with
    | single hd => exact h _ _ hd
    | tail _ hd ih => exact Nat.lt_trans (h _ _ hd) ih
  exact fun name ht => Nat.lt_irrefl _ (hlt ht)

namespace FeatureFlag

variable {flag : FeatureFlag} {c : Condition} {m : Matcher}

@[simp]
lemma matchers_guarded (name : String) (matchers : List Matcher) :
    (guarded name matchers).matchers = matchers := by
  simp [FeatureFlag.matchers, guarded]

lemma mem_matchers (hc : c ∈ flag.conditions) (hm : m ∈ c.matchers) : m ∈ flag.matchers :=
  List.mem_flatMap.mpr ⟨c, hc, hm⟩

lemma mem_dependencies (hc : c ∈ flag.conditions) (hm : m ∈ c.matchers) {other : String}
    (h : m.kind.dependency? = some other) : other ∈ flag.dependencies :=
  List.mem_filterMap.mpr ⟨m, mem_matchers hc hm, h⟩

lemma mem_segments (hc : c ∈ flag.conditions) (hm : m ∈ c.matchers) {segment : String}
    (h : m.kind.segment? = some segment) : segment ∈ flag.segments :=
  List.mem_filterMap.mpr ⟨m, mem_matchers hc hm, h⟩

lemma mem_attributeNames (hc : c ∈ flag.conditions) (hm : m ∈ c.matchers) {name : String}
    (h : m.attributeName = some name) : name ∈ flag.attributeNames :=
  List.mem_filterMap.mpr ⟨m, mem_matchers hc hm, h⟩

end FeatureFlag

section Within

variable {α β : Type} {flags segments : String → Prop}

/-- All that an inquiry can come to ask, whatever it is answered, lies within the two sets. -/
def Inquiry.Within (flags segments : String → Prop) : Inquiry α → Prop
  | done _ => True
  | membership _ segment _ next => segments segment ∧ ∀ b, (next b).Within flags segments
  | evaluation flag next => flags flag ∧ ∀ e, (next e).Within flags segments

lemma Inquiry.within_pure (value : α) : (pure value : Inquiry α).Within flags segments := trivial

lemma Inquiry.Within.bind {q : Inquiry α} {f : α → Inquiry β} (h : q.Within flags segments)
    (hf : ∀ a, (f a).Within flags segments) : (q >>= f).Within flags segments := by
  change (q.andThen f).Within flags segments
  induction q with
  | done value => exact hf value
  | membership place segment value next ih => exact ⟨h.1, fun b => ih b (h.2 b)⟩
  | evaluation flag next ih => exact ⟨h.1, fun e => ih e (h.2 e)⟩

variable (ctx : EvaluationContext)

lemma MatcherKind.within_inquiry (place : MatcherPlace) (input : Option MatcherInput)
    {kind : MatcherKind}
    (hf : ∀ flag, kind.dependency? = some flag → flags flag)
    (hs : ∀ segment, kind.segment? = some segment → segments segment) :
    (kind.inquiry place input).Within flags segments := by
  cases kind with
  | test t => exact Inquiry.within_pure _
  | inTreatments flag treatments => exact ⟨hf flag rfl, fun _ => Inquiry.within_pure _⟩
  | inSegment segment =>
    rw [MatcherKind.inquiry]
    cases input.bind MatcherInput.string? with
    | none => exact Inquiry.within_pure _
    | some value => exact ⟨hs segment rfl, fun _ => Inquiry.within_pure _⟩

lemma Condition.within_inquiryOf (place : MatcherPlace) {matchers : List Matcher}
    (hf : ∀ m ∈ matchers, ∀ flag, m.kind.dependency? = some flag → flags flag)
    (hs : ∀ m ∈ matchers, ∀ segment, m.kind.segment? = some segment → segments segment) :
    (Condition.inquiryOf ctx place matchers).Within flags segments := by
  induction matchers generalizing place with
  | nil => exact Inquiry.within_pure _
  | cons m rest ih =>
    obtain ⟨hfm, hfr⟩ := List.forall_mem_cons.mp hf
    obtain ⟨hsm, hsr⟩ := List.forall_mem_cons.mp hs
    have hm : (m.inquiry ctx place).Within flags segments :=
      (MatcherKind.within_inquiry _ _ hfm hsm).bind fun _ => Inquiry.within_pure _
    refine hm.bind fun b => ?_
    cases b
    · exact Inquiry.within_pure _
    · exact ih _ hfr hsr

lemma FeatureFlag.within_inquiryOf (flag : FeatureFlag) (number : Nat) {conditions : List Condition}
    (hf : ∀ c ∈ conditions, ∀ m ∈ c.matchers, ∀ other, m.kind.dependency? = some other → flags other)
    (hs : ∀ c ∈ conditions, ∀ m ∈ c.matchers, ∀ segment,
      m.kind.segment? = some segment → segments segment) :
    (flag.inquiryOf ctx number conditions).Within flags segments := by
  induction conditions generalizing number with
  | nil => exact Inquiry.within_pure _
  | cons c rest ih =>
    obtain ⟨hfc, hfr⟩ := List.forall_mem_cons.mp hf
    obtain ⟨hsc, hsr⟩ := List.forall_mem_cons.mp hs
    rw [FeatureFlag.inquiryOf]
    split
    · exact Inquiry.within_pure _
    · refine (Condition.within_inquiryOf ctx _ hfc hsc).bind fun b => ?_
      cases b
      · exact ih _ hfr hsr
      · exact Inquiry.within_pure _

lemma FeatureFlag.within_inquiry {flag : FeatureFlag} (hf : ∀ other ∈ flag.dependencies, flags other)
    (hs : ∀ segment ∈ flag.segments, segments segment) :
    (flag.inquiry ctx).Within flags segments := by
  rw [FeatureFlag.inquiry]
  split
  · exact Inquiry.within_pure _
  · apply FeatureFlag.within_inquiryOf
    · exact fun c hc m hm other h => hf other (mem_dependencies hc hm h)
    · exact fun c hc m hm segment h => hs segment (mem_segments hc hm h)

end Within

end Rollout
