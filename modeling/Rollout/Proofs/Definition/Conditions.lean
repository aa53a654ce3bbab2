import Rollout.Proofs.Definition.Compilation

/-! The compiled conditions stand for the defined ones, one by one and matcher by matcher, or one
unsupported condition stands for all of them. -/

namespace Rollout

inductive DataField
  | segment
  | whitelist
  | threshold
  | numericRange
  | textRange
  | dependency
  | boolean
  | text
  deriving DecidableEq, Repr

abbrev DataField.Value : DataField → Type
  | segment => String
  | whitelist => List String
  | threshold => Threshold
  | numericRange => NumericRange
  | textRange => TextRange
  | dependency => FlagTreatments
  | boolean => Bool
  | text => String

def MatcherType.dataField? : MatcherType → Option DataField
  | allKeys => none
  | inSegment => some .segment
  | whitelist | startsWith | endsWith | containsString | equalToSet | partOfSet | containsAllOfSet
  | containsAnyOfSet | inListSemver => some .whitelist
  | equalTo | atLeast | atMost => some .threshold
  | between => some .numericRange
  | betweenSemver => some .textRange
  | inFlagTreatment => some .dependency
  | equalToBoolean => some .boolean
  | matchesString | equalToSemver | atLeastSemver | atMostSemver => some .text

namespace MatcherDefinition

variable {d d' : MatcherDefinition}

def data? (d : MatcherDefinition) : (field : DataField) → Option field.Value
  | .segment => d.segment
  | .whitelist => d.whitelist
  | .threshold => d.threshold
  | .numericRange => d.numericRange
  | .textRange => d.textRange
  | .dependency => d.dependency
  | .boolean => d.boolean
  | .text => d.text

lemma carriesData_iff :
    d.carriesData = true ↔ ∀ field, d.matcherType.dataField? = some field → (d.data? field).isSome := by
  cases htype : d.matcherType <;> simp [carriesData, MatcherType.dataField?, data?, htype]

/-- What a definition stands for, type by type. -/
inductive StandsFor (d : MatcherDefinition) : MatcherKind → Prop
  | allKeys (ht : d.matcherType = .allKeys) : d.StandsFor (.test .present)
  | inSegment {segment : String} (ht : d.matcherType = .inSegment) (hd : d.segment = some segment) :
      d.StandsFor (.inSegment segment)
  | inFlagTreatment {flag : String} {treatments : List String}
      (ht : d.matcherType = .inFlagTreatment) (hd : d.dependency = some ⟨flag, treatments⟩) :
      d.StandsFor (.inTreatments flag (.ofList treatments))
  | whitelist {texts : List String} (ht : d.matcherType = .whitelist) (hd : d.whitelist = some texts) :
      d.StandsFor (.test (.among (.ofList texts)))
  | startsWith {texts : List String} (ht : d.matcherType = .startsWith)
      (hd : d.whitelist = some texts) : d.StandsFor (.test (.startsWithAny texts))
  | endsWith {texts : List String} (ht : d.matcherType = .endsWith) (hd : d.whitelist = some texts) :
      d.StandsFor (.test (.endsWithAny texts))
  | containsString {texts : List String} (ht : d.matcherType = .containsString)
      (hd : d.whitelist = some texts) : d.StandsFor (.test (.containsAny texts))
  | equalToSet {texts : List String} (ht : d.matcherType = .equalToSet)
      (hd : d.whitelist = some texts) : d.StandsFor (.test (.equalToSet (.ofList texts)))
  | partOfSet {texts : List String} (ht : d.matcherType = .partOfSet) (hd : d.whitelist = some texts) :
      d.StandsFor (.test (.partOfSet (.ofList texts)))
  | containsAllOfSet {texts : List String} (ht : d.matcherType = .containsAllOfSet)
      (hd : d.whitelist = some texts) : d.StandsFor (.test (.containsAllOfSet (.ofList texts)))
  | containsAnyOfSet {texts : List String} (ht : d.matcherType = .containsAnyOfSet)
      (hd : d.whitelist = some texts) : d.StandsFor (.test (.containsAnyOfSet (.ofList texts)))
  | equalTo {type : DataType} {value : Int64} (ht : d.matcherType = .equalTo)
      (hd : d.threshold = some ⟨type, value⟩) :
      d.StandsFor (.test (.equalTo (.forEquality type) ((NumericScale.forEquality type).normalize value)))
  | atLeast {type : DataType} {value : Int64} (ht : d.matcherType = .atLeast)
      (hd : d.threshold = some ⟨type, value⟩) :
      d.StandsFor (.test (.atLeast (.forOrder type) ((NumericScale.forOrder type).normalize value)))
  | atMost {type : DataType} {value : Int64} (ht : d.matcherType = .atMost)
      (hd : d.threshold = some ⟨type, value⟩) :
      d.StandsFor (.test (.atMost (.forOrder type) ((NumericScale.forOrder type).normalize value)))
  | between {type : DataType} {start finish : Int64} (ht : d.matcherType = .between)
      (hd : d.numericRange = some ⟨type, start, finish⟩) :
      d.StandsFor (.test (.between (.forOrder type) ((NumericScale.forOrder type).normalize start)
        ((NumericScale.forOrder type).normalize finish)))
  | equalToBoolean {b : Bool} (ht : d.matcherType = .equalToBoolean) (hd : d.boolean = some b) :
      d.StandsFor (.test (.equalToBoolean b))
  | matchesString {source : String} (ht : d.matcherType = .matchesString)
      (hd : d.text = some source) : d.StandsFor (.test (.matchesPattern (TextPattern.read? source)))
  | equalToSemver {version : String} (ht : d.matcherType = .equalToSemver)
      (hd : d.text = some version) : d.StandsFor (.test (.equalToVersion (Semver.parse? version)))
  | atLeastSemver {version : String} (ht : d.matcherType = .atLeastSemver)
      (hd : d.text = some version) : d.StandsFor (.test (.atLeastVersion (Semver.parse? version)))
  | atMostSemver {version : String} (ht : d.matcherType = .atMostSemver)
      (hd : d.text = some version) : d.StandsFor (.test (.atMostVersion (Semver.parse? version)))
  | betweenSemver {range : TextRange} (ht : d.matcherType = .betweenSemver)
      (hd : d.textRange = some range) : d.StandsFor (.test (.betweenVersions (versionRange range)))
  | inListSemver {texts : List String} (ht : d.matcherType = .inListSemver)
      (hd : d.whitelist = some texts) : d.StandsFor (.test (.amongVersions (versionSet texts)))

lemma standsFor_iff {kind : MatcherKind} : d.StandsFor kind ↔ d.kind? = some kind := by
  constructor
  · intro h
    cases h <;> simp [kind?, test?, *]
  · intro h
    cases ht : d.matcherType <;>
      simp only [kind?, test?, ht, Option.map_some, Option.map_eq_some_iff, Option.some.injEq] at h
    case allKeys =>
      subst h
      exact .allKeys ht
    case inSegment | inFlagTreatment =>
      obtain ⟨_, hd, rfl⟩ := h
      constructor <;> assumption
    all_goals
      obtain ⟨_, ⟨_, hd, rfl⟩, rfl⟩ := h
      constructor <;> assumption

structure ReadsLike (d d' : MatcherDefinition) : Prop where
  matcherType : d'.matcherType = d.matcherType
  negate : d'.negate = d.negate
  attributeName :
    d'.keySelector.bind KeySelector.attributeName = d.keySelector.bind KeySelector.attributeName
  data : ∀ field, d.matcherType.dataField? = some field → d'.data? field = d.data? field

lemma ReadsLike.kind?_eq (h : ReadsLike d d') : d'.kind? = d.kind? := by
  have hdata := h.data
  cases htype : d.matcherType <;>
    simp_all [kind?, test?, MatcherType.dataField?, data?, h.matcherType]

lemma ReadsLike.compile?_eq (h : ReadsLike d d') : Matcher.compile? d' = Matcher.compile? d := by
  rw [Matcher.compile?, Matcher.compile?, h.kind?_eq, h.negate, h.attributeName]

end MatcherDefinition

/-- A matcher reads its type, the data that its type asks for, whether it is negated and the attribute
that it selects. -/
structure Matcher.CompiledFrom (d : MatcherDefinition) (m : Matcher) : Prop where
  kind : d.StandsFor m.kind
  negate : m.negate = d.negate
  attributeName : m.attributeName = d.keySelector.bind KeySelector.attributeName

lemma Matcher.compiledFrom_iff {d : MatcherDefinition} {m : Matcher} :
    CompiledFrom d m ↔ compile? d = some m := by
  obtain ⟨kind, negate, attributeName⟩ := m
  rw [compile?, Option.map_eq_some_iff]
  constructor
  · rintro ⟨hkind, rfl, rfl⟩
    exact ⟨kind, MatcherDefinition.standsFor_iff.mp hkind, rfl⟩
  · rintro ⟨kind', hkind, hm⟩
    obtain ⟨rfl, rfl, rfl⟩ := Matcher.mk.inj hm
    exact ⟨MatcherDefinition.standsFor_iff.mpr hkind, rfl, rfl⟩

inductive Attempt.ReadsLike : Attempt MatcherDefinition → Attempt MatcherDefinition → Prop
  | parsed {d d' : MatcherDefinition} : d.ReadsLike d' → ReadsLike (.parsed d) (.parsed d')
  | failed (source source' : Json) : ReadsLike (.failed source) (.failed source')

structure ConditionDefinition.ReadsLike (c c' : ConditionDefinition) : Prop where
  conditionType : c'.conditionType = c.conditionType
  label : c'.label = c.label
  partitions : c'.partitions = c.partitions
  combiner : c'.matcherGroup.combiner = c.matcherGroup.combiner
  matchers : List.Forall₂ Attempt.ReadsLike c.matcherGroup.matchers c'.matcherGroup.matchers

def Attempt.Supported (attempt : Attempt MatcherDefinition) : Prop :=
  ∃ d, attempt = .parsed d ∧
    ∀ field, d.matcherType.dataField? = some field → (d.data? field).isSome

namespace Condition

variable {attempt attempt' : Attempt MatcherDefinition} {d d' : ConditionDefinition} {c : Condition}

lemma isSome_compileMatcher?_iff : (compileMatcher? attempt).isSome ↔ attempt.Supported := by
  cases attempt with
  | parsed m =>
    change (Matcher.compile? m).isSome ↔ _
    rw [Matcher.isSome_compile?, MatcherDefinition.carriesData_iff]
    simp [Attempt.Supported]
  | failed source => simp [compileMatcher?, Attempt.value?, Attempt.Supported]

lemma isSome_compile?_iff :
    (compile? d).isSome ↔ ∀ attempt ∈ d.matcherGroup.matchers, attempt.Supported := by
  rw [compile?, Option.isSome_map, isSome_mapM_iff]
  exact forall₂_congr fun attempt _ => isSome_compileMatcher?_iff

lemma compileMatcher?_eq_of_readsLike (h : attempt.ReadsLike attempt') :
    compileMatcher? attempt' = compileMatcher? attempt := by
  cases h with
  | parsed h => exact h.compile?_eq
  | failed => rfl

lemma compile?_eq_of_readsLike (h : d.ReadsLike d') : compile? d' = compile? d := by
  have hmatchers := mapM_eq_of_forall₂ (h.matchers.imp fun _ _ => compileMatcher?_eq_of_readsLike)
  rw [compile?, compile?, hmatchers, h.conditionType, h.label, h.partitions, h.combiner]

structure CompiledFrom (d : ConditionDefinition) (c : Condition) : Prop where
  conditionType : c.conditionType = d.conditionType
  label : c.label = d.label
  partitions : c.partitions = d.partitions
  combiner : c.combiner = d.matcherGroup.combiner
  matchers : List.Forall₂ (fun attempt m => ∃ d, attempt = .parsed d ∧ Matcher.CompiledFrom d m)
    d.matcherGroup.matchers c.matchers

lemma compiledFrom_of_compile? (h : compile? d = some c) : CompiledFrom d c := by
  obtain ⟨matchers, hmatchers, rfl⟩ := Option.map_eq_some_iff.mp h
  refine ⟨rfl, rfl, rfl, rfl, (forall₂_of_mapM hmatchers).imp fun attempt m hm => ?_⟩
  cases attempt with
  | parsed d => exact ⟨d, rfl, Matcher.compiledFrom_iff.mpr hm⟩
  | failed source => cases hm

end Condition

namespace FeatureFlag

lemma compileConditions_of_supported {conditions : List ConditionDefinition}
    (h : ∀ c ∈ conditions, ∀ attempt ∈ c.matcherGroup.matchers, attempt.Supported) :
    List.Forall₂ Condition.CompiledFrom conditions (compileConditions conditions) := by
  have hsome : (conditions.mapM Condition.compile?).isSome :=
    isSome_mapM_iff.mpr fun c hc => Condition.isSome_compile?_iff.mpr (h c hc)
  obtain ⟨compiled, hcompiled⟩ := Option.isSome_iff_exists.mp hsome
  rw [compileConditions, hcompiled, Option.getD_some]
  exact (forall₂_of_mapM hcompiled).imp fun _ _ => Condition.compiledFrom_of_compile?

lemma compileConditions_of_not_supported {conditions : List ConditionDefinition}
    (h : ∃ c ∈ conditions, ∃ attempt ∈ c.matcherGroup.matchers, ¬ attempt.Supported) :
    compileConditions conditions = [.unsupported] := by
  obtain ⟨c, hc, attempt, ha, hn⟩ := h
  refine compileConditions_eq_unsupported hc ha ?_
  rw [← Option.not_isSome_iff_eq_none, Condition.isSome_compileMatcher?_iff]
  exact hn

theorem compile_conditions (d : FlagDefinition) :
    ((∀ c ∈ d.conditions, ∀ attempt ∈ c.matcherGroup.matchers, attempt.Supported) →
      List.Forall₂ Condition.CompiledFrom d.conditions (compile d).conditions) ∧
    ((∃ c ∈ d.conditions, ∃ attempt ∈ c.matcherGroup.matchers, ¬ attempt.Supported) →
      (compile d).conditions = [.unsupported]) ∧
    ∀ conditions, List.Forall₂ ConditionDefinition.ReadsLike d.conditions conditions →
      compile { d with conditions } = compile d := by
  refine ⟨compileConditions_of_supported, compileConditions_of_not_supported, fun conditions h => ?_⟩
  have hsame : compileConditions conditions = compileConditions d.conditions := by
    rw [compileConditions, compileConditions,
      mapM_eq_of_forall₂ (h.imp fun _ _ => Condition.compile?_eq_of_readsLike)]
  rw [compile, compile, hsame]

end FeatureFlag

end Rollout
