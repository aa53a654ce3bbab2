import Rollout.Proofs.Evaluation.Dependencies
import Rollout.Proofs.Evaluation.Log

namespace Rollout

inductive Event
  | walk (flag : String)
  | ask (place : MatcherPlace)
  deriving DecidableEq, Repr

def Event.place? : Event → Option MatcherPlace
  | walk _ => none
  | ask place => some place

def Recorder.events : Recorder Event where
  called _ := []
  walked name := [.walk name]
  asked place := [.ask place]

def Matcher.lookup? (ctx : EvaluationContext) (m : Matcher) : Option (String × String) :=
  match m.kind.segment?, ctx.segments with
  | some segment, some _ =>
    ((m.input? ctx.key ctx.attributes).bind MatcherInput.string?).map (segment, ·)
  | _, _ => none

namespace EvaluationContext

variable (ctx : EvaluationContext)

def eventsByName (depth : Nat) (name : String) : Log Event := ctx.log .events depth name

def eventsOfEach (names : List String) : Log Event := ctx.logOfEach .events names

def matcherAt? (place : MatcherPlace) : Option Matcher :=
  (ctx.flag? place.flag).bind fun flag =>
    flag.conditions[place.condition]?.bind fun condition => condition.matchers[place.matcher]?

def lookupAt? (place : MatcherPlace) : Option (String × String) :=
  (ctx.matcherAt? place).bind fun m => m.lookup? ctx

end EvaluationContext

variable {α β : Type} {ctx : EvaluationContext}

/-- Whatever the answers are, each matcher asks at most once, and all that do are in `own`. -/
def Inquiry.Asks (ctx : EvaluationContext) : Inquiry α → (MatcherPlace → Prop) → Prop
  | done _, _ => True
  | membership place segment value next, own =>
    own place ∧ (ctx.segments.isSome → ctx.lookupAt? place = some (segment, value)) ∧
      ∀ b, (next b).Asks ctx fun other => own other ∧ other ≠ place
  | evaluation _ next, own => ∀ e, (next e).Asks ctx own

namespace Inquiry

variable {own own₁ own₂ : MatcherPlace → Prop}

lemma asks_pure (value : α) : (pure value : Inquiry α).Asks ctx own := trivial

lemma Asks.mono {q : Inquiry α} (h : q.Asks ctx own₁) (ho : ∀ place, own₁ place → own₂ place) :
    q.Asks ctx own₂ := by
  induction q generalizing own₁ own₂ with
  | done value => trivial
  | membership place segment value next ih =>
    exact ⟨ho place h.1, h.2.1, fun b => ih b (h.2.2 b) fun other ⟨hown, hne⟩ => ⟨ho other hown, hne⟩⟩
  | evaluation flag next ih => exact fun e => ih e (h e) ho

lemma Asks.bind {q : Inquiry α} {f : α → Inquiry β} (h : q.Asks ctx own₁)
    (hf : ∀ a, (f a).Asks ctx own₂) (ho₁ : ∀ place, own₁ place → own place ∧ ¬ own₂ place)
    (ho₂ : ∀ place, own₂ place → own place) : (q >>= f).Asks ctx own := by
  change (q.andThen f).Asks ctx own
  induction q generalizing own own₁ with
  | done value => exact (hf value).mono ho₂
  | membership place segment value next ih =>
    obtain ⟨hown, hlookup, hnext⟩ := h
    refine ⟨(ho₁ place hown).1, hlookup, fun b => ih b (hnext b) ?_ ?_⟩
    · exact fun other ⟨hother, hne⟩ => ⟨⟨(ho₁ other hother).1, hne⟩, (ho₁ other hother).2⟩
    · intro other hother
      refine ⟨ho₂ other hother, ?_⟩
      rintro rfl
      exact (ho₁ other hown).2 hother
  | evaluation flag next ih => exact fun e => ih e (h e) ho₁ ho₂

end Inquiry

lemma Matcher.asks_inquiry {m : Matcher} {place : MatcherPlace}
    (hplace : ctx.matcherAt? place = some m) : (m.inquiry ctx place).Asks ctx (· = place) := by
  have hkind : (m.kind.inquiry place (m.input? ctx.key ctx.attributes)).Asks ctx (· = place) := by
    cases hk : m.kind with
    | test t => exact Inquiry.asks_pure _
    | inTreatments flag treatments => exact fun _ => Inquiry.asks_pure _
    | inSegment segment =>
      rw [MatcherKind.inquiry]
      cases hv : (m.input? ctx.key ctx.attributes).bind MatcherInput.string? with
      | none => exact Inquiry.asks_pure _
      | some value =>
        refine ⟨rfl, fun hs => ?_, fun _ => Inquiry.asks_pure _⟩
        obtain ⟨lookup, hl⟩ := Option.isSome_iff_exists.mp hs
        rw [EvaluationContext.lookupAt?, hplace, Option.bind_some, lookup?, hk, hl, hv]
        rfl
  exact hkind.bind (fun _ => Inquiry.asks_pure _) (fun _ h => ⟨h, id⟩) fun _ h => h.elim

lemma Condition.asks_inquiryOf {place : MatcherPlace} {matchers : List Matcher}
    (hat : ∀ k m, matchers[k]? = some m →
      ctx.matcherAt? { place with matcher := place.matcher + k } = some m) :
    (Condition.inquiryOf ctx place matchers).Asks ctx fun other =>
      other.flag = place.flag ∧ other.condition = place.condition ∧ place.matcher ≤ other.matcher := by
  induction matchers generalizing place with
  | nil => exact Inquiry.asks_pure _
  | cons m rest ih =>
    have hatRest : ∀ k m, rest[k]? = some m →
        ctx.matcherAt? { place.next with matcher := place.next.matcher + k } = some m := by
      intro k m hk
      have hnext := hat (k + 1) m hk
      rwa [← Nat.add_assoc, Nat.add_right_comm] at hnext
    have hrest (matched : Bool) :
        (if matched then inquiryOf ctx place.next rest else pure false).Asks ctx fun other =>
          other.flag = place.flag ∧ other.condition = place.condition ∧
            place.next.matcher ≤ other.matcher := by
      cases matched with
      | true => exact ih hatRest
      | false => exact Inquiry.asks_pure _
    apply (Matcher.asks_inquiry (hat 0 m rfl)).bind hrest
    · rintro _ rfl
      exact ⟨⟨rfl, rfl, Nat.le_refl _⟩, fun h => absurd h.2.2 (Nat.not_succ_le_self _)⟩
    · exact fun other h => ⟨h.1, h.2.1, Nat.le_of_succ_le h.2.2⟩

namespace FeatureFlag

variable {flag : FeatureFlag}

lemma asks_inquiryOf {number : Nat} {conditions : List Condition}
    (hf : ctx.flag? flag.name = some flag)
    (hat : ∀ k c, conditions[k]? = some c → flag.conditions[number + k]? = some c) :
    (flag.inquiryOf ctx number conditions).Asks ctx fun place =>
      place.flag = flag.name ∧ number ≤ place.condition := by
  induction conditions generalizing number with
  | nil => exact Inquiry.asks_pure _
  | cons c rest ih =>
    have hfirst : flag.conditions[number]? = some c := hat 0 c rfl
    have hatRest : ∀ k c, rest[k]? = some c → flag.conditions[number + 1 + k]? = some c := by
      intro k c hk
      have hnext := hat (k + 1) c hk
      rwa [← Nat.add_assoc, Nat.add_right_comm] at hnext
    have hmatchers : ∀ k m, c.matchers[k]? = some m →
        ctx.matcherAt? ⟨flag.name, number, 0 + k⟩ = some m := by
      intro k m hk
      simp [EvaluationContext.matcherAt?, hf, hfirst, hk]
    rw [inquiryOf]
    split
    · exact Inquiry.asks_pure _
    · have hrest (matched : Bool) : (if matched then pure (flag.serve ctx.bucketingKey c)
          else flag.inquiryOf ctx (number + 1) rest).Asks ctx fun place =>
            place.flag = flag.name ∧ number + 1 ≤ place.condition := by
        cases matched with
        | false => exact ih hatRest
        | true => exact Inquiry.asks_pure _
      apply (Condition.asks_inquiryOf hmatchers).bind hrest
      · rintro place ⟨hname, rfl, -⟩
        exact ⟨⟨hname, Nat.le_refl _⟩, fun h => absurd h.2 (Nat.not_succ_le_self _)⟩
      · exact fun place h => ⟨h.1, Nat.le_of_succ_le h.2⟩

lemma asks_inquiry (hf : ctx.flag? flag.name = some flag) :
    (flag.inquiry ctx).Asks ctx fun place => place.flag = flag.name := by
  rw [inquiry]
  split
  · exact Inquiry.asks_pure _
  · exact (asks_inquiryOf hf (by simp)).mono fun _ h => h.1

end FeatureFlag

end Rollout
