import Mathlib.Data.Finset.Card
import Rollout.Proofs.Matcher.Outcome

namespace Rollout

namespace StringSet

variable {a w : StringSet} {s : String}

def toFinset (set : StringSet) : Finset String := ⟨set.items, set.nodup⟩

lemma mem_toFinset : s ∈ a.toFinset ↔ a.contains s = true :=
  List.contains_iff_mem.symm

lemma toFinset_ofList (items : List String) : (ofList items).toFinset = items.toFinset := by
  ext s
  rw [mem_toFinset, contains_ofList, List.mem_toFinset]

lemma card_toFinset (set : StringSet) : set.toFinset.card = set.size := rfl

lemma isEmpty_eq_false_iff : a.isEmpty = false ↔ a.toFinset.Nonempty := by
  rw [← Finset.card_pos, card_toFinset, size, isEmpty, List.length_pos_iff,
    List.isEmpty_eq_false_iff]

lemma all_contains_iff : a.all w.contains = true ↔ a.toFinset ⊆ w.toFinset := by
  rw [all, List.all_eq_true]
  exact forall₂_congr fun s _ => mem_toFinset.symm

lemma equal_eq_decide (a w : StringSet) :
    (a.size == w.size && a.all w.contains) = decide (a.toFinset = w.toFinset) := by
  rw [Bool.eq_iff_iff, Bool.and_eq_true, beq_iff_eq, all_contains_iff, ← card_toFinset,
    ← card_toFinset, decide_eq_true_eq]
  constructor
  · rintro ⟨hcard, hsub⟩
    -- A set is no proper subset of another one of its size.
    exact Finset.eq_of_subset_of_card_le hsub hcard.ge
  · intro h
    rw [h]
    exact ⟨rfl, Finset.Subset.refl _⟩

lemma part_eq_decide (a w : StringSet) :
    (!a.isEmpty && a.all w.contains) = decide (a.toFinset.Nonempty ∧ a.toFinset ⊆ w.toFinset) := by
  rw [Bool.eq_iff_iff, Bool.and_eq_true, Bool.not_eq_true', isEmpty_eq_false_iff, all_contains_iff,
    decide_eq_true_eq]

lemma any_eq_decide (a w : StringSet) :
    a.any w.contains = decide (a.toFinset ∩ w.toFinset).Nonempty := by
  rw [Bool.eq_iff_iff, any, List.any_eq_true, decide_eq_true_eq]
  constructor
  · rintro ⟨s, ha, hw⟩
    exact ⟨s, Finset.mem_inter.mpr ⟨ha, mem_toFinset.mpr hw⟩⟩
  · rintro ⟨s, hs⟩
    obtain ⟨ha, hw⟩ := Finset.mem_inter.mp hs
    exact ⟨s, ha, mem_toFinset.mp hw⟩

end StringSet

lemma AttributeValue.string?_eq_some_iff {v : AttributeValue} {text : String} :
    v.string? = some text ↔ v = .string text := by
  cases v <;> simp [string?]

lemma AttributeValue.mapM_string?_eq_some_iff {items : List AttributeValue} {texts : List String} :
    items.mapM string? = some texts ↔ items = texts.map .string := by
  induction items generalizing texts with
  | nil => cases texts <;> simp
  | cons item rest ih =>
    simp only [List.mapM_cons, Option.bind_eq_bind, Option.bind_eq_some_iff, Option.pure_def,
      Option.some.injEq, string?_eq_some_iff, ih]
    constructor
    · rintro ⟨text, rfl, others, rfl, rfl⟩
      rfl
    · intro h
      cases texts with
      | nil => cases h
      | cons text texts =>
        cases h
        exact ⟨text, rfl, texts, rfl, rfl⟩

lemma MatcherInput.strings?_eq_some_iff {input : MatcherInput} {texts : List String} :
    input.strings? = some texts ↔ input = .value (.ofStrings texts) := by
  rw [AttributeValue.ofStrings]
  cases input with
  | key text => simp [strings?]
  | value v => cases v <;> simp [strings?, AttributeValue.mapM_string?_eq_some_iff]

lemma InputTest.onSet_eq_any (input : MatcherInput) (test : StringSet → Bool) :
    onSet input test = input.strings?.any fun texts => test (.ofList texts) := by
  rw [onSet]
  cases input.strings? <;> rfl

def MatcherType.setRule? : MatcherType → Option (Finset String → Finset String → Bool)
  | .equalToSet => some fun a w => a = w
  | .partOfSet => some fun a w => a.Nonempty ∧ a ⊆ w
  | .containsAllOfSet => some fun a w => w.Nonempty ∧ w ⊆ a
  | .containsAnyOfSet => some fun a w => (a ∩ w).Nonempty
  | _ => none

namespace MatcherDefinition

variable {d : MatcherDefinition} {rule : Finset String → Finset String → Bool}
  {whitelist : List String}

lemma exists_setTest? (hrule : d.matcherType.setRule? = some rule)
    (hwhitelist : d.whitelist = some whitelist) :
    ∃ test, d.test? = some test ∧ ∀ input, InputTest.passes test input =
      input.strings?.any fun texts => rule texts.toFinset whitelist.toFinset := by
  cases hd : d.matcherType with
  | equalToSet =>
    rw [hd] at hrule
    cases hrule
    refine ⟨_, by rw [test?, hd, hwhitelist]; rfl, fun input => ?_⟩
    simp only [InputTest.passes, InputTest.onSet_eq_any, StringSet.equal_eq_decide,
      StringSet.toFinset_ofList]
  | partOfSet =>
    rw [hd] at hrule
    cases hrule
    refine ⟨_, by rw [test?, hd, hwhitelist]; rfl, fun input => ?_⟩
    simp only [InputTest.passes, InputTest.onSet_eq_any, StringSet.part_eq_decide,
      StringSet.toFinset_ofList]
  | containsAllOfSet =>
    rw [hd] at hrule
    cases hrule
    refine ⟨_, by rw [test?, hd, hwhitelist]; rfl, fun input => ?_⟩
    simp only [InputTest.passes, InputTest.onSet_eq_any, StringSet.part_eq_decide,
      StringSet.toFinset_ofList]
  | containsAnyOfSet =>
    rw [hd] at hrule
    cases hrule
    refine ⟨_, by rw [test?, hd, hwhitelist]; rfl, fun input => ?_⟩
    simp only [InputTest.passes, InputTest.onSet_eq_any, StringSet.any_eq_decide,
      StringSet.toFinset_ofList]
  | _ =>
    rw [hd] at hrule
    cases hrule

lemma exists_compile?_of_setRule? (hrule : d.matcherType.setRule? = some rule)
    (hwhitelist : d.whitelist = some whitelist) : ∃ m, Matcher.compile? d = some m := by
  obtain ⟨test, htest, -⟩ := exists_setTest? hrule hwhitelist
  exact ⟨_, Matcher.compile?_of_test? htest⟩

variable {m : Matcher} {ctx : EvaluationContext} {texts : List String} (dependency : Dependency)

lemma evaluate_of_texts (hm : Matcher.compile? d = some m)
    (hrule : d.matcherType.setRule? = some rule) (hwhitelist : d.whitelist = some whitelist)
    (hinput : m.input? ctx.key ctx.attributes = some (.value (.ofStrings texts))) :
    m.evaluate ctx dependency = pure (m.negate ^^ rule texts.toFinset whitelist.toFinset) := by
  obtain ⟨test, htest, hpasses⟩ := exists_setTest? hrule hwhitelist
  rw [Matcher.evaluate_of_test ctx dependency (Matcher.kind_of_compile? hm htest), hinput,
    Option.any_some, hpasses, MatcherInput.strings?_eq_some_iff.mpr rfl, Option.any_some]

lemma evaluate_of_no_texts (hm : Matcher.compile? d = some m)
    (hrule : d.matcherType.setRule? = some rule) (hwhitelist : d.whitelist = some whitelist)
    (hinput : ∀ texts, m.input? ctx.key ctx.attributes ≠ some (.value (.ofStrings texts))) :
    m.evaluate ctx dependency = pure m.negate := by
  obtain ⟨test, htest, hpasses⟩ := exists_setTest? hrule hwhitelist
  rw [Matcher.evaluate_of_test ctx dependency (Matcher.kind_of_compile? hm htest)]
  cases hin : m.input? ctx.key ctx.attributes with
  | none => simp
  | some input =>
    rw [Option.any_some, hpasses]
    cases htexts : input.strings? with
    | none => simp
    | some texts =>
      rw [MatcherInput.strings?_eq_some_iff] at htexts
      exact absurd (htexts ▸ hin) (hinput texts)

theorem evaluate_sets (hrule : d.matcherType.setRule? = some rule)
    (hwhitelist : d.whitelist = some whitelist) :
    ∃ m, Matcher.compile? d = some m ∧
      (∀ ctx texts, m.input? ctx.key ctx.attributes = some (.value (.ofStrings texts)) →
        m.evaluate ctx dependency = pure (m.negate ^^ rule texts.toFinset whitelist.toFinset)) ∧
      (∀ ctx, (∀ texts, m.input? ctx.key ctx.attributes ≠ some (.value (.ofStrings texts))) →
        m.evaluate ctx dependency = pure m.negate) ∧
      ∀ whitelist' m', Matcher.compile? { d with whitelist := some whitelist' } = some m' →
        (∀ s, s ∈ whitelist' ↔ s ∈ whitelist) → ∀ ctx ctx' texts texts',
          m.input? ctx.key ctx.attributes = some (.value (.ofStrings texts)) →
          m'.input? ctx'.key ctx'.attributes = some (.value (.ofStrings texts')) →
          (∀ s, s ∈ texts' ↔ s ∈ texts) →
            m'.evaluate ctx' dependency = m.evaluate ctx dependency := by
  obtain ⟨m, hm⟩ := exists_compile?_of_setRule? hrule hwhitelist
  refine ⟨m, hm, fun ctx texts => evaluate_of_texts dependency hm hrule hwhitelist,
    fun ctx => evaluate_of_no_texts dependency hm hrule hwhitelist, ?_⟩
  intro whitelist' m' hm' hsame ctx ctx' texts texts' hinput hinput' htexts
  rw [evaluate_of_texts dependency hm hrule hwhitelist hinput,
    evaluate_of_texts dependency hm' hrule rfl hinput', List.toFinset.ext_iff.mpr htexts,
    List.toFinset.ext_iff.mpr hsame, Matcher.negate_of_compile? hm, Matcher.negate_of_compile? hm']

def tagRule : MatcherDefinition :=
  { ofType .equalToSet with
    keySelector := some ⟨none, some "tags"⟩
    whitelist := some ["beta", "staff", "beta"] }

def tagMatcher : Matcher :=
  ⟨.test (.equalToSet (.ofList ["beta", "staff", "beta"])), false, some "tags"⟩

def taggedWith (tags : AttributeValue) : EvaluationContext :=
  ⟨none, none, "user-1", "user-1", .ofList [("tags", tags)]⟩

theorem evaluate_sets_tags :
    tagMatcher.evaluate (taggedWith (.ofStrings ["staff", "staff", "beta"])) (fun _ => pure none) =
        pure true ∧
      tagMatcher.evaluate (taggedWith (.list [.string "staff", .string "beta", .number 1]))
        (fun _ => pure none) = pure false := by
  obtain ⟨m, hm, hlist, hother, -⟩ := evaluate_sets (d := tagRule) (fun _ => pure none) rfl rfl
  obtain rfl : tagMatcher = m := Option.some.inj hm
  constructor
  · exact hlist (taggedWith (.ofStrings ["staff", "staff", "beta"])) ["staff", "staff", "beta"] rfl
  · refine hother _ fun texts hinput => ?_
    have hstrings : none = some texts :=
      MatcherInput.strings?_eq_some_iff.mpr (Option.some.inj hinput)
    cases hstrings

end MatcherDefinition

end Rollout
