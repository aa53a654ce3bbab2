import Mathlib.Tactic.Common
import Rollout.Flag
import Rollout.Proofs.Traversal

/-! A matcher that lacks the data its type asks for takes all conditions of its flag with it. -/

namespace Rollout

def MatcherDefinition.carriesData (d : MatcherDefinition) : Bool :=
  match d.matcherType with
  | .allKeys => true
  | .inSegment => d.segment.isSome
  | .whitelist | .startsWith | .endsWith | .containsString | .equalToSet | .partOfSet
  | .containsAllOfSet | .containsAnyOfSet | .inListSemver => d.whitelist.isSome
  | .equalTo | .atLeast | .atMost => d.threshold.isSome
  | .between => d.numericRange.isSome
  | .betweenSemver => d.textRange.isSome
  | .inFlagTreatment => d.dependency.isSome
  | .equalToBoolean => d.boolean.isSome
  | .matchesString | .equalToSemver | .atLeastSemver | .atMostSemver => d.text.isSome

@[simp] lemma Matcher.isSome_compile? (d : MatcherDefinition) :
    (Matcher.compile? d).isSome = d.carriesData := by
  cases h : d.matcherType <;>
    simp [compile?, MatcherDefinition.kind?, MatcherDefinition.test?,
      MatcherDefinition.carriesData, h]

lemma Condition.compileMatcher?_eq_none {attempt : Attempt MatcherDefinition}
    (h : ∀ d, attempt = .parsed d → d.carriesData = false) : compileMatcher? attempt = none := by
  cases attempt with
  | parsed d =>
    have hd : (Matcher.compile? d).isSome = false := (Matcher.isSome_compile? d).trans (h d rfl)
    exact Option.isNone_iff_eq_none.mp (Option.isSome_eq_false_iff.mp hd)
  | failed source => rfl

namespace FeatureFlag

lemma compileConditions_eq_unsupported {conditions : List ConditionDefinition}
    {c : ConditionDefinition} (hc : c ∈ conditions) {attempt : Attempt MatcherDefinition}
    (ha : attempt ∈ c.matcherGroup.matchers) (hn : Condition.compileMatcher? attempt = none) :
    compileConditions conditions = [.unsupported] := by
  have hcompile : Condition.compile? c = none := by
    rw [Condition.compile?, mapM_eq_none ha hn, Option.map_none]
  rw [compileConditions, mapM_eq_none hc hcompile, Option.getD_none]

end FeatureFlag

end Rollout
