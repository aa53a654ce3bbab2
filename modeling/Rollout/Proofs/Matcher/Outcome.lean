import Rollout.Matcher.Compile
import Rollout.Proofs.Evaluation.Inquiry

namespace Rollout

variable {d : MatcherDefinition} {m : Matcher} {test : InputTest} {input : MatcherInput}

def MatcherDefinition.ofType (matcherType : MatcherType) : MatcherDefinition :=
  ⟨matcherType, false, none, none, none, none, none, none, none, none, none⟩

lemma MatcherDefinition.kind?_of_test? (h : d.test? = some test) : d.kind? = some (.test test) := by
  have hmap : d.test?.map MatcherKind.test = some (.test test) := by rw [h, Option.map_some]
  rw [kind?]
  cases hd : d.matcherType with
  | inSegment => simp [test?, hd] at h
  | inFlagTreatment => simp [test?, hd] at h
  | _ => exact hmap

lemma Matcher.compile?_of_test? (h : d.test? = some test) :
    compile? d = some ⟨.test test, d.negate, d.keySelector.bind KeySelector.attributeName⟩ := by
  rw [compile?, MatcherDefinition.kind?_of_test? h, Option.map_some]

lemma Matcher.kind_of_compile? (hm : compile? d = some m) (h : d.test? = some test) :
    m.kind = .test test := by
  rw [compile?_of_test? h] at hm
  cases hm
  rfl

lemma Matcher.negate_of_compile? (hm : compile? d = some m) : m.negate = d.negate := by
  obtain ⟨kind, -, rfl⟩ := Option.map_eq_some_iff.mp hm
  rfl

variable (ctx : EvaluationContext) (dependency : Dependency)

lemma Matcher.evaluate_of_test (h : m.kind = .test test) :
    m.evaluate ctx dependency =
      pure (m.negate ^^ (m.input? ctx.key ctx.attributes).any test.passes) := by
  rw [evaluate, h]
  cases m.input? ctx.key ctx.attributes <;> rfl

end Rollout
