import Rollout.Proofs.Matcher.Outcome
import Rollout.Proofs.Semver.Canonical

namespace Rollout

namespace InputTest

open MatcherDefinition

variable (input : MatcherInput)

lemma passes_between (scale : NumericScale) (start finish : Int64) :
    (between scale start finish).passes input =
      ((atLeast scale start).passes input && (atMost scale finish).passes input) := by
  simp only [passes, onInteger]
  cases input.integer? <;> rfl

lemma passes_betweenVersions (range : TextRange) :
    (betweenVersions (versionRange range)).passes input =
      ((atLeastVersion (Semver.parse? range.start)).passes input &&
        (atMostVersion (Semver.parse? range.finish)).passes input) := by
  simp only [passes, onVersion, versionRange]
  -- One bound that is no version voids the range, and does not pass on its own either.
  cases Semver.parse? range.start with
  | none => rfl
  | some start =>
    cases Semver.parse? range.finish with
    | none => simp
    | some finish => cases input.version? <;> rfl

lemma passes_equalToVersion_of_none {text : String} (h : Semver.parse? text = none) :
    (equalToVersion (Semver.parse? text)).passes input = false := by
  rw [h]
  rfl

lemma passes_equalToVersion_iff (text : String) {v : Semver} (hv : input.version? = some v) :
    (equalToVersion (Semver.parse? text)).passes input = true ↔
      ∃ c, Semver.parse text = .ok c ∧ c.version = v.version := by
  simp only [passes, onVersion, hv, ← Semver.parse?_eq_some_iff]
  cases Semver.parse? text with
  | none => simp
  | some c => simpa using eq_comm

lemma passes_amongVersions (texts : List String) :
    (amongVersions (versionSet texts)).passes input =
      texts.any fun text => (equalToVersion (Semver.parse? text)).passes input := by
  rw [Bool.eq_iff_iff, List.any_eq_true]
  cases hv : input.version? with
  | none => simp [passes, onVersion, hv]
  | some v =>
    simp only [passes_equalToVersion_iff input _ hv]
    rw [passes, hv]
    exact Semver.contains_versionSet texts v.version

end InputTest

namespace MatcherDefinition

variable (ctx : EvaluationContext) (dependency : Dependency) {d : MatcherDefinition}
  {test : InputTest}

def Answers (d : MatcherDefinition) (answer : Bool) : Prop :=
  ∃ m, Matcher.compile? d = some m ∧ m.evaluate ctx dependency = pure answer

def input? (d : MatcherDefinition) : Option MatcherInput :=
  Matcher.input? ⟨.test .present, false, d.keySelector.bind KeySelector.attributeName⟩ ctx.key
    ctx.attributes

lemma answers_of_test? (hnegate : d.negate = false) (htest : d.test? = some test) :
    d.Answers ctx dependency ((d.input? ctx).any test.passes) := by
  refine ⟨_, Matcher.compile?_of_test? htest, ?_⟩
  rw [Matcher.evaluate_of_test ctx dependency rfl, hnegate, Bool.false_xor]
  rfl

lemma exists_answers_and {low high range : MatcherDefinition} {p q r : InputTest}
    (htests : low.test? = some p ∧ high.test? = some q ∧ range.test? = some r)
    (hnegate : low.negate = false ∧ high.negate = false ∧ range.negate = false)
    (hinput : low.input? ctx = range.input? ctx ∧ high.input? ctx = range.input? ctx)
    (hpasses : ∀ input, r.passes input = (p.passes input && q.passes input)) :
    ∃ b c, low.Answers ctx dependency b ∧ high.Answers ctx dependency c ∧
      range.Answers ctx dependency (b && c) := by
  refine ⟨(range.input? ctx).any p.passes, (range.input? ctx).any q.passes, ?_, ?_, ?_⟩
  · rw [← hinput.1]
    exact answers_of_test? ctx dependency hnegate.1 htests.1
  · rw [← hinput.2]
    exact answers_of_test? ctx dependency hnegate.2.1 htests.2.1
  · have hrange := answers_of_test? ctx dependency hnegate.2.2 htests.2.2
    cases hin : range.input? ctx with
    | none =>
      rw [hin] at hrange
      exact hrange
    | some input =>
      rw [hin, Option.any_some, hpasses] at hrange
      exact hrange

theorem composite_answers (d : MatcherDefinition) :
    (∀ range : NumericRange, ∃ low high,
      Answers ctx dependency { d with
        matcherType := .atLeast, negate := false
        threshold := some ⟨range.dataType, range.start⟩ } low ∧
      Answers ctx dependency { d with
        matcherType := .atMost, negate := false
        threshold := some ⟨range.dataType, range.finish⟩ } high ∧
      Answers ctx dependency { d with
        matcherType := .between, negate := false, numericRange := some range } (low && high)) ∧
    (∀ range : TextRange, ∃ low high,
      Answers ctx dependency { d with
        matcherType := .atLeastSemver, negate := false, text := some range.start } low ∧
      Answers ctx dependency { d with
        matcherType := .atMostSemver, negate := false, text := some range.finish } high ∧
      Answers ctx dependency { d with
        matcherType := .betweenSemver, negate := false, textRange := some range } (low && high)) ∧
    ∃ equal : String → Bool,
      (∀ text, Answers ctx dependency { d with
        matcherType := .equalToSemver, negate := false, text := some text } (equal text)) ∧
      (∀ text, Semver.parse? text = none → equal text = false) ∧
      ∀ texts, Answers ctx dependency { d with
        matcherType := .inListSemver, negate := false, whitelist := some texts }
          (texts.any equal) := by
  refine ⟨fun range => ?_, fun range => ?_,
    fun text => (d.input? ctx).any (InputTest.equalToVersion (Semver.parse? text)).passes,
    fun text => answers_of_test? ctx dependency rfl rfl, fun text htext => ?_, fun texts => ?_⟩
  · exact exists_answers_and ctx dependency ⟨rfl, rfl, rfl⟩ ⟨rfl, rfl, rfl⟩ ⟨rfl, rfl⟩
      fun input => InputTest.passes_between input _ _ _
  · exact exists_answers_and ctx dependency ⟨rfl, rfl, rfl⟩ ⟨rfl, rfl, rfl⟩ ⟨rfl, rfl⟩
      fun input => InputTest.passes_betweenVersions input range
  · cases d.input? ctx with
    | none => rfl
    | some input => exact InputTest.passes_equalToVersion_of_none input htext
  · have hlist := answers_of_test? ctx dependency (d := { d with
      matcherType := .inListSemver, negate := false, whitelist := some texts }) rfl rfl
    have hany : (d.input? ctx).any (InputTest.amongVersions (versionSet texts)).passes =
        texts.any fun text =>
          (d.input? ctx).any (InputTest.equalToVersion (Semver.parse? text)).passes := by
      cases d.input? ctx with
      | none => simp
      | some input => exact InputTest.passes_amongVersions input texts
    exact hany ▸ hlist

end MatcherDefinition

end Rollout
