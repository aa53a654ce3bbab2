import Rollout.Proofs.Decimal.Finite
import Rollout.Proofs.Matcher.Composite
import Rollout.Proofs.Matcher.Sets

/-! Without an input that it can read, or with a configured pattern or version that could not be
read, a matcher answers as if the input did not match, and looks nothing up. -/

namespace Rollout

inductive InputShape
  | anything
  | text
  | version
  | number
  | texts
  | boolean
  deriving DecidableEq, Repr

def MatcherType.shape? : MatcherType → Option InputShape
  | .allKeys => some .anything
  | .inSegment | .whitelist | .startsWith | .endsWith | .containsString | .matchesString =>
    some .text
  | .equalToSemver | .atLeastSemver | .atMostSemver | .betweenSemver | .inListSemver =>
    some .version
  | .equalTo | .atLeast | .atMost | .between => some .number
  | .equalToSet | .partOfSet | .containsAllOfSet | .containsAnyOfSet => some .texts
  | .equalToBoolean => some .boolean
  | .inFlagTreatment => none

def MatcherInput.IsText (input : MatcherInput) (s : String) : Prop :=
  input = .key s ∨ input = .value (.string s)

def InputShape.Fits : InputShape → MatcherInput → Prop
  | anything, input => input ≠ .value .null
  | text, input => ∃ s, input.IsText s
  | version, input => ∃ s v, input.IsText s ∧ Semver.parse s = .ok v
  | number, input =>
    (∃ x, input = .value (.number x) ∧ x.isFinite = true) ∨
      ∃ s x, input.IsText s ∧ Decimal.readFloat? (Text.trim s.toList) = some x ∧ x.isFinite = true
  | texts, input => ∃ items, input = .value (.ofStrings items)
  | boolean, input =>
    (∃ b, input = .value (.boolean b)) ∨
      ∃ s : String, input.IsText s ∧ (s.toLower = "true" ∨ s.toLower = "false")

lemma isSome_integerOfText?_iff {s : String} : (integerOfText? s).isSome = true ↔
    ∃ x, Decimal.readFloat? (Text.trim s.toList) = some x ∧ x.isFinite = true := by
  simp only [integerOfText?]
  cases hinteger : Decimal.readInt64? (Text.trim s.toList) with
  -- The integer is tried first, but its text writes a finite double all the same.
  | some n => simpa using Decimal.exists_readFloat? hinteger
  | none =>
    cases Decimal.readFloat? (Text.trim s.toList) with
    | none => simp
    | some x => simp [truncate?]

namespace MatcherInput

variable {input : MatcherInput} {s : String}

lemma string?_eq_some_iff : input.string? = some s ↔ input.IsText s := by
  rw [IsText]
  cases input with
  | key text => simp [string?]
  | value v => simp [string?, AttributeValue.string?_eq_some_iff]

lemma isSome_string?_iff : input.string?.isSome = true ↔ InputShape.text.Fits input := by
  simp only [Option.isSome_iff_exists, string?_eq_some_iff, InputShape.Fits]

lemma isSome_version?_iff : input.version?.isSome = true ↔ InputShape.version.Fits input := by
  simp only [Option.isSome_iff_exists, version?, Option.bind_eq_some_iff, string?_eq_some_iff,
    Semver.parse?_eq_some_iff, InputShape.Fits, exists_and_left]
  exact ⟨fun ⟨v, s, h⟩ => ⟨s, h.1, v, h.2⟩, fun ⟨s, h, v, hv⟩ => ⟨v, s, h, hv⟩⟩

lemma isSome_strings?_iff : input.strings?.isSome = true ↔ InputShape.texts.Fits input := by
  simp only [Option.isSome_iff_exists, strings?_eq_some_iff, InputShape.Fits]

lemma isSome_integer?_iff : input.integer?.isSome = true ↔ InputShape.number.Fits input := by
  cases input with
  | key text => simp [integer?, InputShape.Fits, IsText, isSome_integerOfText?_iff]
  | value v =>
    cases v with
    | string text => simp [integer?, InputShape.Fits, IsText, isSome_integerOfText?_iff]
    | number x => simp [integer?, InputShape.Fits, IsText, truncate?]
    | _ => simp [integer?, InputShape.Fits, IsText]

lemma isSome_boolean?_of_isText (h : input.IsText s) :
    input.boolean?.isSome = true ↔ s.toLower = "true" ∨ s.toLower = "false" := by
  have hlower : String.ofList (s.toList.map Char.toLower) = s.toLower := by
    rw [String.toLower, ← String.toList_inj, String.toList_map, String.toList_ofList]
  obtain rfl | rfl := h
  all_goals
    simp only [boolean?, string?, AttributeValue.string?, hlower]
    split <;> simp_all

lemma isSome_boolean?_iff : input.boolean?.isSome = true ↔ InputShape.boolean.Fits input := by
  cases input with
  | key text =>
    rw [isSome_boolean?_of_isText (.inl rfl)]
    simp [InputShape.Fits, IsText]
  | value v =>
    cases v with
    | string text =>
      rw [isSome_boolean?_of_isText (.inr rfl)]
      simp [InputShape.Fits, IsText]
    | boolean b => simp [boolean?, InputShape.Fits]
    | _ => simp [boolean?, string?, AttributeValue.string?, InputShape.Fits, IsText]

lemma eq_none_of_misfit {α : Type} {reading : Option α} {shape : InputShape}
    (hread : reading.isSome = true ↔ shape.Fits input) (h : ¬ shape.Fits input) : reading = none :=
  Option.not_isSome_iff_eq_none.mp (mt hread.mp h)

end MatcherInput

namespace InputTest

open MatcherInput

def shape : InputTest → InputShape
  | present => .anything
  | among _ | startsWithAny _ | endsWithAny _ | containsAny _ | matchesPattern _ => .text
  | equalTo .. | atLeast .. | atMost .. | between .. => .number
  | equalToSet _ | partOfSet _ | containsAllOfSet _ | containsAnyOfSet _ => .texts
  | equalToBoolean _ => .boolean
  | equalToVersion _ | atLeastVersion _ | atMostVersion _ | betweenVersions _ | amongVersions _ =>
    .version

variable {test : InputTest} {input : MatcherInput}

lemma onText_of_misfit (h : ¬ InputShape.text.Fits input) (accepts : String → Bool) :
    onText input accepts = false := by
  rw [onText, eq_none_of_misfit isSome_string?_iff h]

lemma onInteger_of_misfit (h : ¬ InputShape.number.Fits input) (scale : NumericScale)
    (accepts : Int64 → Bool) : onInteger scale input accepts = false := by
  rw [onInteger, eq_none_of_misfit isSome_integer?_iff h]

lemma onSet_of_misfit (h : ¬ InputShape.texts.Fits input) (accepts : StringSet → Bool) :
    onSet input accepts = false := by
  rw [onSet, eq_none_of_misfit isSome_strings?_iff h]

lemma onVersion_of_misfit {α : Type} (h : ¬ InputShape.version.Fits input) (configured : Option α)
    (accepts : α → Semver → Bool) : onVersion configured input accepts = false := by
  have hnone := eq_none_of_misfit isSome_version?_iff h
  cases configured <;> simp only [onVersion, hnone]

lemma passes_of_misfit (hinput : input ≠ .value .null) (h : ¬ test.shape.Fits input) :
    test.passes input = false := by
  cases test with
  | present => exact absurd hinput h
  | among | startsWithAny | endsWithAny | containsAny =>
    rw [passes]
    exact onText_of_misfit h _
  | equalTo | atLeast | atMost | between =>
    rw [passes]
    exact onInteger_of_misfit h _ _
  | equalToSet | partOfSet | containsAllOfSet | containsAnyOfSet =>
    rw [passes]
    exact onSet_of_misfit h _
  | equalToBoolean value =>
    rw [passes, eq_none_of_misfit isSome_boolean?_iff h]
    rfl
  | matchesPattern pattern =>
    have hnone := eq_none_of_misfit isSome_string?_iff h
    cases pattern <;> simp only [passes, hnone]
  | equalToVersion | atLeastVersion | atMostVersion | betweenVersions =>
    rw [passes]
    exact onVersion_of_misfit h _ _
  | amongVersions versions =>
    rw [passes, eq_none_of_misfit isSome_version?_iff h]

end InputTest

namespace MatcherDefinition

variable {d : MatcherDefinition} {test : InputTest} {input : MatcherInput}

lemma shape?_of_test? (h : d.test? = some test) : d.matcherType.shape? = some test.shape := by
  rw [test?] at h
  cases hd : d.matcherType with
  | allKeys =>
    rw [hd] at h
    cases h
    rfl
  | inSegment | inFlagTreatment =>
    rw [hd] at h
    cases h
  | _ =>
    rw [hd] at h
    obtain ⟨_, -, rfl⟩ := Option.map_eq_some_iff.mp h
    rfl

def selected? (ctx : EvaluationContext) (d : MatcherDefinition) : Option MatcherInput :=
  match d.keySelector.bind KeySelector.attributeName with
  | none => some (.key ctx.key)
  | some name => (ctx.attributes.find? name).map .value

inductive Unread (d : MatcherDefinition) : Prop
  | pattern {source : String} (htype : d.matcherType = .matchesString)
      (htext : d.text = some source) (h : TextPattern.read? source = none)
  | version {source : String}
      (htype : d.matcherType ∈ [.equalToSemver, .atLeastSemver, .atMostSemver])
      (htext : d.text = some source) (h : Semver.parse? source = none)
  | bound {range : TextRange} (htype : d.matcherType = .betweenSemver)
      (hrange : d.textRange = some range)
      (h : Semver.parse? range.start = none ∨ Semver.parse? range.finish = none)

/-- The ways in which a matcher cannot tell whether it matches. -/
inductive Unanswerable (ctx : EvaluationContext) (d : MatcherDefinition) : Prop
  | absent (h : d.selected? ctx = none)
  | null (h : d.selected? ctx = some (.value .null))
  | misfit {input : MatcherInput} {shape : InputShape} (hinput : d.selected? ctx = some input)
      (hshape : d.matcherType.shape? = some shape) (h : ¬ shape.Fits input)
  | unread (h : d.Unread)

lemma Unread.passes_eq_false (h : d.Unread) (htest : d.test? = some test) (input : MatcherInput) :
    test.passes input = false := by
  cases h with
  | pattern htype htext hread =>
    rw [test?, htype, htext] at htest
    cases htest
    simp only [InputTest.passes, hread]
  | version htype htext hread =>
    simp only [List.mem_cons, List.not_mem_nil, or_false] at htype
    obtain htype | htype | htype := htype
    all_goals
      rw [test?, htype, htext] at htest
      cases htest
      simp only [InputTest.passes, InputTest.onVersion, hread]
  | @bound range htype hrange hread =>
    have hvoid : versionRange range = none := by
      rw [versionRange]
      obtain hread | hread := hread <;> simp [hread]
    rw [test?, htype, hrange] at htest
    cases htest
    simp only [InputTest.passes, InputTest.onVersion, hvoid]

lemma Unread.ne_inSegment (h : d.Unread) : d.matcherType ≠ .inSegment := by
  intro hsegment
  cases h with
  | pattern htype | version htype | bound htype => simp [hsegment] at htype

variable {m : Matcher} {ctx : EvaluationContext}

lemma selected?_of_input? (hm : Matcher.compile? d = some m)
    (hinput : m.input? ctx.key ctx.attributes = some input) :
    d.selected? ctx = some input ∧ input ≠ .value .null := by
  obtain ⟨kind, -, rfl⟩ := Option.map_eq_some_iff.mp hm
  rw [Matcher.input?] at hinput
  rw [selected?]
  cases hname : d.keySelector.bind KeySelector.attributeName with
  | none =>
    simp only [hname, Option.some.injEq] at hinput
    subst hinput
    exact ⟨rfl, nofun⟩
  | some name =>
    simp only [hname, Option.map_eq_some_iff, Option.filter_eq_some_iff] at hinput
    obtain ⟨value, ⟨hfind, hvalue⟩, rfl⟩ := hinput
    refine ⟨congrArg (Option.map _) hfind, ?_⟩
    rintro ⟨⟩
    cases hvalue

lemma Unanswerable.misfit_or_unread (h : d.Unanswerable ctx)
    (hselected : d.selected? ctx = some input) (hinput : input ≠ .value .null) :
    (∃ shape, d.matcherType.shape? = some shape ∧ ¬ shape.Fits input) ∨ d.Unread := by
  cases h with
  | absent habsent =>
    rw [habsent] at hselected
    cases hselected
  | null hnull =>
    rw [hnull] at hselected
    exact absurd (Option.some.inj hselected).symm hinput
  | misfit hin hshape hfits =>
    rw [hselected] at hin
    cases hin
    exact .inl ⟨_, hshape, hfits⟩
  | unread hunread => exact .inr hunread

lemma Unanswerable.passes_eq_false (h : d.Unanswerable ctx) (htest : d.test? = some test)
    (hselected : d.selected? ctx = some input) (hinput : input ≠ .value .null) :
    test.passes input = false := by
  obtain ⟨shape, hshape, hfits⟩ | hunread := h.misfit_or_unread hselected hinput
  · rw [shape?_of_test? htest] at hshape
    cases hshape
    exact InputTest.passes_of_misfit hinput hfits
  · exact hunread.passes_eq_false htest input

lemma Unanswerable.string?_eq_none (h : d.Unanswerable ctx) (htype : d.matcherType = .inSegment)
    (hselected : d.selected? ctx = some input) (hinput : input ≠ .value .null) :
    input.string? = none := by
  obtain ⟨shape, hshape, hfits⟩ | hunread := h.misfit_or_unread hselected hinput
  · rw [htype] at hshape
    cases hshape
    exact MatcherInput.eq_none_of_misfit MatcherInput.isSome_string?_iff hfits
  · exact absurd htype hunread.ne_inSegment

lemma kind?_cases {kind : MatcherKind} (h : d.kind? = some kind)
    (htype : d.matcherType ≠ .inFlagTreatment) :
    (∃ test, d.test? = some test ∧ kind = .test test) ∨
      d.matcherType = .inSegment ∧ ∃ segment, kind = .inSegment segment := by
  rw [kind?] at h
  cases hd : d.matcherType with
  | inFlagTreatment => exact absurd hd htype
  | inSegment =>
    rw [hd] at h
    obtain ⟨segment, -, rfl⟩ := Option.map_eq_some_iff.mp h
    exact .inr ⟨rfl, segment, rfl⟩
  | _ =>
    rw [hd] at h
    obtain ⟨test, htest, rfl⟩ := Option.map_eq_some_iff.mp h
    exact .inl ⟨test, htest, rfl⟩

variable (dependency : Dependency)

lemma matches?_of_unanswerable (hm : Matcher.compile? d = some m)
    (htype : d.matcherType ≠ .inFlagTreatment) (h : d.Unanswerable ctx) :
    m.kind.matches? ctx dependency (m.input? ctx.key ctx.attributes) = pure false := by
  obtain ⟨kind, hkind, hstored⟩ := Option.map_eq_some_iff.mp hm
  obtain rfl : kind = m.kind := hstored ▸ rfl
  cases hinput : m.input? ctx.key ctx.attributes with
  | none =>
    obtain ⟨test, -, hk⟩ | ⟨-, segment, hk⟩ := kind?_cases hkind htype <;> rw [hk] <;> rfl
  | some input =>
    obtain ⟨hselected, hnull⟩ := selected?_of_input? hm hinput
    obtain ⟨test, htest, hk⟩ | ⟨hsegment, segment, hk⟩ := kind?_cases hkind htype
    · rw [hk]
      exact congrArg pure (h.passes_eq_false htest hselected hnull)
    · rw [hk]
      simp only [MatcherKind.matches?, Option.bind_some, h.string?_eq_none hsegment hselected hnull]

lemma evaluate_of_unanswerable (hm : Matcher.compile? d = some m)
    (htype : d.matcherType ≠ .inFlagTreatment) (h : d.Unanswerable ctx) :
    m.evaluate ctx dependency = pure d.negate := by
  rw [Matcher.evaluate, matches?_of_unanswerable dependency hm htype h, pure_bind, Bool.xor_false,
    Matcher.negate_of_compile? hm]

lemma evaluate_of_keySelector (hm : Matcher.compile? d = some m)
    (htype : d.matcherType = .inFlagTreatment) (selector : Option KeySelector) :
    ∃ m', Matcher.compile? { d with keySelector := selector } = some m' ∧
      m'.evaluate ctx dependency = m.evaluate ctx dependency := by
  obtain ⟨kind, hkind, rfl⟩ := Option.map_eq_some_iff.mp hm
  have hkind' : kind? { d with keySelector := selector } = some kind := by
    rw [← hkind, kind?, kind?, htype]
  refine ⟨_, by rw [Matcher.compile?, hkind', Option.map_some], ?_⟩
  rw [kind?, htype] at hkind
  obtain ⟨flag, -, rfl⟩ := Option.map_eq_some_iff.mp hkind
  rfl

theorem evaluate_fails_closed (ctx : EvaluationContext) (hm : Matcher.compile? d = some m) :
    (d.matcherType ≠ .inFlagTreatment → d.Unanswerable ctx →
      m.evaluate ctx dependency = pure d.negate) ∧
    (d.matcherType = .inFlagTreatment → ∀ selector, ∃ m',
      Matcher.compile? { d with keySelector := selector } = some m' ∧
        m'.evaluate ctx dependency = m.evaluate ctx dependency) :=
  ⟨evaluate_of_unanswerable dependency hm, evaluate_of_keySelector dependency hm⟩

def onAttribute (name : String) (d : MatcherDefinition) : MatcherDefinition :=
  { d with keySelector := some ⟨none, some name⟩ }

def notStaffRule : MatcherDefinition :=
  { onAttribute "age" (ofType .inSegment) with negate := true, segment := some "staff" }

def outsideRule : MatcherDefinition :=
  { onAttribute "version" (ofType .betweenSemver) with
    negate := true
    textRange := some ⟨"1.0.0", "2"⟩ }

def zeroRule : MatcherDefinition :=
  { ofType .equalTo with threshold := some ⟨.number, 0⟩ }

def betaRule : MatcherDefinition :=
  { onAttribute "age" (ofType .inFlagTreatment) with dependency := some ⟨"beta", ["on"]⟩ }

def newcomer : EvaluationContext :=
  ⟨none, none, "1e999", "1e999", .ofList [("age", .number 30), ("version", .string "1.5.0")]⟩

theorem evaluate_fails_closed_newcomer :
    notStaffRule.Answers newcomer (fun _ => pure none) true ∧
      outsideRule.Answers newcomer (fun _ => pure none) true ∧
      zeroRule.Answers newcomer (fun _ => pure none) false ∧
      Answers newcomer (fun _ => pure none) { betaRule with keySelector := none } false := by
  have hage : ¬ InputShape.text.Fits (.value (.number 30)) := by
    rintro ⟨s, h | h⟩ <;> cases h
  have hbound : Semver.parse? "2" = none := by rfl
  have hzero : ¬ InputShape.number.Fits (.key "1e999") := by
    rw [← MatcherInput.isSome_integer?_iff]
    exact Bool.false_ne_true
  refine ⟨⟨_, rfl, ?_⟩, ⟨_, rfl, ?_⟩, ⟨_, rfl, ?_⟩, ?_⟩
  · exact (evaluate_fails_closed (d := notStaffRule) _ newcomer rfl).1 (by decide)
      (.misfit rfl rfl hage)
  · exact (evaluate_fails_closed (d := outsideRule) _ newcomer rfl).1 (by decide)
      (.unread (.bound rfl rfl (.inr hbound)))
  · exact (evaluate_fails_closed (d := zeroRule) _ newcomer rfl).1 (by decide)
      (.misfit rfl rfl hzero)
  · obtain ⟨m, hm, hsame⟩ :=
      (evaluate_fails_closed (d := betaRule) (fun _ => pure none) newcomer rfl).2 rfl none
    exact ⟨m, hm, hsame⟩

end MatcherDefinition

end Rollout
